/-
Pilots, their skills and their wounds.

* `Pilot`: who sits at the controls;
* `Pilot.wound`: wounds suffered, each with a consciousness roll to come,
  until they are lethal;
* `Pilot.isActive`: awake and alive.
-/

namespace MechBattle

/-- Who sits at the controls. -/
structure Pilot where
  name : String
  /-- Base of the to-hit number. -/
  gunnery : Int
  /-- Base of piloting rolls. -/
  piloting : Int
  wounds : Nat := 0
  conscious : Bool := true
  dead : Bool := false
  /-- Target numbers of consciousness rolls still to be made, oldest
  first. -/
  pending : List Int := []
  deriving DecidableEq, Repr

namespace Pilot

/-- Whether the pilot can act. -/
def isActive (p : Pilot) : Bool := p.conscious && !p.dead

/-- The largest number of wounds that is counted. -/
def woundLimit : Nat := 255

/-- One more wound, for a pilot who is alive. At `lethal` wounds the pilot
dies and has nothing left to roll; before that, a roll is queued against
the target number for the wounds taken, if there is one. -/
def woundOnce (lethal : Nat) (target? : Nat → Option Int) (p : Pilot) : Pilot :=
  let wounds := min woundLimit (p.wounds + 1)
  if lethal ≤ wounds then
    { p with wounds, dead := true, conscious := false, pending := [] }
  else
    { p with wounds, pending := p.pending ++ (target? wounds).toList }

/-- So many wounds, one after the other. The dead suffer none. -/
def wound (lethal : Nat) (target? : Nat → Option Int) : Nat → Pilot → Pilot
  | 0, p => p
  | hits + 1, p => if p.dead then p else wound lethal target? hits (p.woundOnce lethal target?)

theorem wound_of_dead {lethal : Nat} {target? : Nat → Option Int} {p : Pilot}
    (h : p.dead = true) (hits : Nat) : p.wound lethal target? hits = p := by
  cases hits <;> simp [wound, h]

end Pilot

end MechBattle
