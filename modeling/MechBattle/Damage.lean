/-
Damage and the way it takes through a body.

Damage uses up armor first and then structure. What a destroyed location
cannot hold goes on to the next one in its chain, and what the center
torso cannot hold is lost. Several hits may be resolved before any of
them is applied: each is then given what the earlier ones absorb, so that
no armor is used twice.

* `Absorption`: what one location takes of one hit;
* `Impact`: a hit on a side of the unit, or an explosion inside it, which
  passes the armor by;
* `BattleUnit.absorb`: how a hit spreads, location by location;
* `BattleUnit.takeDamage`: the unit after its absorptions;
* `internalByLocation`: structure lost, location by location.
-/
import MechBattle.BattleUnit

namespace MechBattle

/-- What one location takes of one hit. -/
structure Absorption where
  location : Location
  armor : Int
  internal : Int
  /-- The armor is rear armor. -/
  rear : Bool
  /-- No structure is left. -/
  destroyed : Bool
  deriving DecidableEq, Repr

/-- Armor and structure together. -/
def Absorption.total (a : Absorption) : Int := Counter.add a.armor a.internal

/-- How damage comes to a unit. -/
inductive Impact where
  /-- From outside, on one side. -/
  | hit (side : Side)
  /-- From inside, where no armor helps. -/
  | explosion
  deriving DecidableEq, Repr

/-- Whether the impact meets rear armor at a location. -/
def Impact.meetsRear (i : Impact) (l : Location) : Bool :=
  match i with
  | .hit .rear => l.hasRearArmor
  | _ => false

/-- Armor already used up at a location on one side. -/
def priorArmor (already : List Absorption) (l : Location) (rear : Bool) : Int :=
  (already.filter fun a => a.location == l && a.rear == rear).foldl
    (fun n a => Counter.add n a.armor) 0

/-- Structure already used up at a location. -/
def priorInternal (already : List Absorption) (l : Location) : Int :=
  (already.filter (·.location == l)).foldl (fun n a => Counter.add n a.internal) 0

namespace BodyPart

/-- The structure left at the location `l` after what was used up. -/
def internalLeft (p : BodyPart) (already : List Absorption) (l : Location) : Int :=
  max 0 (Counter.sub p.internal (priorInternal already l))

/-- The armor that meets an impact at the location `l`, after what was
used up. -/
def armorLeft (p : BodyPart) (impact : Impact) (already : List Absorption) (l : Location) : Int :=
  match impact with
  | .hit _ =>
    let rear := impact.meetsRear l
    max 0 (Counter.sub (p.armorFacing rear) (priorArmor already l rear))
  | .explosion => 0

end BodyPart

namespace BattleUnit

/-- How damage spreads along a chain of locations. A location without
structure takes nothing and passes all of it on. -/
def absorbAlong (u : BattleUnit) (impact : Impact) (already : List Absorption) :
    List Location → Int → List Absorption
  | [], _ => []
  | l :: chain, damage =>
    match u.part? l with
    | none => []
    | some p =>
      let internalLeft := p.internalLeft already l
      if internalLeft = 0 then absorbAlong u impact already chain damage
      else
        let armor := min damage (p.armorLeft impact already l)
        let internal := min (damage - armor) internalLeft
        let excess := damage - armor - internal
        let destroyed := decide (internal = internalLeft)
        let taken : Absorption := ⟨l, armor, internal, impact.meetsRear l, destroyed⟩
        if destroyed && decide (0 < excess) then
          taken :: absorbAlong u impact already chain excess
        else [taken]

/-- How a hit spreads from the location it strikes, after the hits that
were resolved before it. Without damage nothing happens. -/
def absorb (u : BattleUnit) (l : Location) (damage : Int) (impact : Impact)
    (already : List Absorption) : List Absorption :=
  if damage ≤ 0 then [] else u.absorbAlong impact already l.chain damage

end BattleUnit

/-- A hit: where it strikes, how hard, and how it comes. -/
structure Hit where
  location : Location
  damage : Int
  impact : Impact
  deriving DecidableEq, Repr

namespace BattleUnit

/-- Hits resolved one after the other on the unit as it is, each after
all earlier ones: what each of them does. -/
def absorbEach (u : BattleUnit) : List Absorption → List Hit → List (List Absorption)
  | _, [] => []
  | already, h :: rest =>
    let taken := u.absorb h.location h.damage h.impact already
    taken :: absorbEach u (already ++ taken) rest

/-- Hits resolved one after the other, as one list of absorptions. -/
def absorbAll (u : BattleUnit) (already : List Absorption) (hits : List Hit) : List Absorption :=
  (u.absorbEach already hits).flatten

end BattleUnit

/-! ### Applying damage -/

/-- The part after an absorption. Nothing falls below zero. -/
def BodyPart.take (a : Absorption) (p : BodyPart) : BodyPart :=
  let p := { p with internal := max 0 (p.internal - a.internal) }
  if a.rear then { p with rearArmor := max 0 (p.rearArmor - a.armor) }
  else { p with armor := max 0 (p.armor - a.armor) }

namespace BattleUnit

/-- The unit after an absorption, which also counts for the phase. A
location that the unit lacks takes nothing. -/
def takeOne (u : BattleUnit) (a : Absorption) : BattleUnit :=
  if (u.part? a.location).isSome then
    { u.modifyPart a.location (BodyPart.take a) with
      phaseDamage := Counter.add (Counter.add u.phaseDamage a.armor) a.internal }
  else u

/-- The unit after its absorptions. -/
def takeDamage (u : BattleUnit) (taken : List Absorption) : BattleUnit := taken.foldl takeOne u

theorem takeDamage_append (u : BattleUnit) (a b : List Absorption) :
    u.takeDamage (a ++ b) = (u.takeDamage a).takeDamage b := List.foldl_append

end BattleUnit

/-- Structure lost, for each location that lost some. -/
def internalByLocation (taken : List Absorption) : Location.Map Int :=
  .ofFn fun l =>
    let losses := taken.filter fun a => a.location == l && decide (0 < a.internal)
    if losses.isEmpty then none else some (sumOf (losses.map (·.internal)))

end MechBattle
