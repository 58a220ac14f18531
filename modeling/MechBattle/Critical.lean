/-
Critical hits on components, and the explosions they set off.

A location that lost structure is rolled for. The throw says how many
critical hits it suffers, and each of them strikes a slot. A component
that can explode does so the first time it is struck, and its damage
spreads from its location past all armor.

* `SlotHit`, `Explosion`, `CriticalReport`: what is recorded;
* `BodyPart.rollSlot`: which slot is struck;
* `BattleUnit.rollCriticals`: all dice of a call, location by location;
* `BattleUnit.strikeAll`: what the strikes do, without dice;
* `BattleUnit.criticals`: both together;
* `BattleUnit.cookOff`: a component struck without a roll;
* `BattleUnit.takeCriticals`: the unit after its critical hits.
-/
import MechBattle.Damage
import MechBattle.Dice.Rolls
import MechBattle.Refusal
import MechBattle.Rules.Lookup

namespace MechBattle

/-- A slot struck by a critical hit, and what was in it. -/
structure SlotHit where
  slot : Nat
  component : Option ComponentKind
  componentName : Option String
  deriving DecidableEq, Repr

/-- The explosion of a component. -/
structure Explosion where
  component : ComponentKind
  componentName : String
  /-- The slot in which it was struck. -/
  slot : Nat
  damage : Int
  /-- Where the damage went. -/
  spread : List Absorption
  deriving DecidableEq, Repr

/-- The critical hits of one location. -/
structure CriticalReport where
  location : Location
  /-- The throw of two dice, or 0 when there was none. -/
  roll : Int
  hitCount : Nat
  hits : List SlotHit
  explosions : List Explosion
  deriving DecidableEq, Repr

/-- The kinds of all components struck. -/
def CriticalReport.hitKinds (r : CriticalReport) : List ComponentKind :=
  r.hits.filterMap (·.component)

/-! ### Dice -/

/-- A slot of a part, by one die. A part with more than six slots is
rolled for in two halves, and a die before it says which. -/
def BodyPart.rollSlot (p : BodyPart) : Rolls Nat := do
  if 6 < p.slotCount then
    let half ← d6
    let slot ← d6
    return (if half.pips ≤ 3 then 0 else 6) + slot.val
  else
    let slot ← d6
    return slot.val

/-- What the dice say about one location: its part, the throw, the number
of critical hits and the slots they strike. -/
structure CriticalRoll where
  location : Location
  part : BodyPart
  roll : Int
  hitCount : Nat
  slots : List Nat

namespace BattleUnit

/-- The dice for one location. -/
def rollCritical (rules : Rules) (l : Location) (p : BodyPart) : Rolls CriticalRoll := do
  let roll := (← twoDice).total
  let hitCount := rules.criticalHitCount roll
  let slots ← (List.range hitCount).mapM fun _ => p.rollSlot
  return ⟨l, p, roll, hitCount, slots⟩

/-- The locations that lost structure and that the unit has, in body
order, with their parts. -/
def lossyParts (u : BattleUnit) (losses : Location.Map Int) : List (Location × BodyPart) :=
  losses.toList.filterMap fun (l, damage) =>
    if 0 < damage then (u.part? l).map fun p => (l, p) else none

/-- The dice for every location that lost structure. -/
def rollCriticals (rules : Rules) (u : BattleUnit) (losses : Location.Map Int) :
    Rolls (List CriticalRoll) :=
  (u.lossyParts losses).mapM fun (l, p) => rollCritical rules l p

/-! ### Strikes -/

/-- What has exploded so far: the damage spread by it, and the components
that will not explode again, by location and first slot. -/
structure Blast where
  spread : List Absorption := []
  gone : List (Location × Nat) := []

/-- A strike on a slot. A component that can explode and has not done so
in this blast explodes, after the damage spread before. -/
def strike (u : BattleUnit) (p : BodyPart) (blast : Blast) (slot : Nat) :
    SlotHit × Option Explosion × Blast :=
  match p.componentAt? slot with
  | none => (⟨slot, none, none⟩, none, blast)
  | some c =>
    let hit : SlotHit := ⟨slot, some c.kind, some c.name⟩
    let key := (p.location, c.firstSlot)
    if blast.gone.contains key then (hit, none, blast)
    else
      match c.pendingExplosion with
      | none => (hit, none, blast)
      | some damage =>
        let spread := u.absorb p.location damage .explosion blast.spread
        (hit, some ⟨c.kind, c.name, slot, damage, spread⟩,
          ⟨blast.spread ++ spread, key :: blast.gone⟩)

/-- Strikes on slots of one part, one after the other. -/
def strikeSlots (u : BattleUnit) (p : BodyPart) :
    Blast → List Nat → List SlotHit × List Explosion × Blast
  | blast, [] => ([], [], blast)
  | blast, slot :: rest =>
    let (hit, explosion?, blast) := u.strike p blast slot
    let (hits, explosions, blast) := strikeSlots u p blast rest
    (hit :: hits, explosion?.toList ++ explosions, blast)

/-- What the dice of all locations do, one after the other. -/
def strikeAll (u : BattleUnit) : Blast → List CriticalRoll → List CriticalReport
  | _, [] => []
  | blast, c :: rest =>
    let (hits, explosions, blast) := u.strikeSlots c.part blast c.slots
    ⟨c.location, c.roll, c.hitCount, hits, explosions⟩ :: strikeAll u blast rest

/-- The critical hits of every location that lost structure. The unit has
taken that damage already. -/
def criticals (rules : Rules) (u : BattleUnit) (losses : Location.Map Int) :
    Rolls (List CriticalReport) := do
  return u.strikeAll {} (← rollCriticals rules u losses)

/-- One strike on a component without a roll, as when heat sets off
ammunition. -/
def cookOff (u : BattleUnit) (l : Location) (slot : Nat) : Except Refusal CriticalReport :=
  match u.part? l with
  | none => .error (.unknownLocation u.id l)
  | some p =>
    match p.componentAt? slot with
    | none => .error (.unknownComponent u.id l slot)
    | some _ =>
      let (hit, explosion?, _) := u.strike p {} slot
      .ok ⟨l, 0, 1, [hit], explosion?.toList⟩

/-! ### Applying critical hits -/

/-- The unit after a report: what was struck is destroyed, what exploded
has no shots left, and the damage of the explosions is taken. -/
def takeCritical (u : BattleUnit) (r : CriticalReport) : BattleUnit :=
  let wreck (p : BodyPart) : BodyPart :=
    r.hits.foldl (fun p h => p.modifyAt h.slot Component.wrecked) p
  let spend (p : BodyPart) : BodyPart :=
    r.explosions.foldl (fun p e => p.modifyAt e.slot Component.spent) p
  r.explosions.foldl (fun u e => u.takeDamage e.spread)
    (u.modifyPart r.location fun p => spend (wreck p))

/-- The unit after its reports. -/
def takeCriticals (u : BattleUnit) (reports : List CriticalReport) : BattleUnit :=
  reports.foldl takeCritical u

end BattleUnit

end MechBattle
