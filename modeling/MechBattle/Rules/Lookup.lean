/-
Reading the tables of the rules.

* `Bracket.value?`: the value of the step that covers a number, with
  `Bracket.Ascending` for tables whose steps begin one after the other;
* `Rules.internal?`, `Rules.hitLocation`, `Rules.criticalHitCount`: the
  tables that are looked up by tonnage and by throws;
* `Rules.shutdownBand`: what heat does to the reactor;
* `Rules.consciousnessNumber?`: what keeps a wounded pilot awake.
-/
import MechBattle.Board
import MechBattle.Counter
import MechBattle.Rules

namespace MechBattle

namespace Bracket

/-- The value of the last step that begins at `x` or before, among the
steps up to the first one that begins later. -/
def value? (table : List Bracket) (x : Int) : Option Int :=
  (table.takeWhile fun b => decide (b.start ≤ x)).getLast?.map (·.value)

/-- Each step begins after the one before. -/
def Ascending (table : List Bracket) : Prop := table.Pairwise fun a b => a.start < b.start

instance (table : List Bracket) : Decidable (Ascending table) :=
  inferInstanceAs (Decidable (List.Pairwise _ _))

end Bracket

/-- What heat does to a reactor. -/
inductive ShutdownBand where
  /-- Too little heat to matter. -/
  | safe
  /-- A shutdown, unless two dice reach the number. -/
  | avoid (number : Int)
  /-- A shutdown without a roll. -/
  | automatic
  deriving DecidableEq, Repr

namespace Rules

/-- The structure of a location of a unit, if the table has a row for the
tonnage. The head needs no row. -/
def internal? (rules : Rules) (tonnage : Nat) (l : Location) : Option Int :=
  let row (f : StructureRow → Int) := (rules.structures.find? (·.tonnage == tonnage)).map f
  match l with
  | .head => some rules.headStructure
  | .centerTorso => row (·.centerTorso)
  | .leftTorso | .rightTorso => row (·.sideTorso)
  | .leftArm | .rightArm => row (·.arm)
  | .leftLeg | .rightLeg => row (·.leg)

/-- The place in a hit table that a throw stands for. Throws below 2 and
above 12 count as these. -/
def hitIndex (roll : Int) : Nat := (max 2 (min 12 roll) - 2).toNat

/-- The location struck on a side by a throw. -/
def hitLocation (rules : Rules) (side : Side) (roll : Int) : Location :=
  (rules.hitTables.ofSide side)[hitIndex roll]?.getD .centerTorso

/-- Number of critical hits for a throw. The table's value is taken as a
number of one byte, so it counts modulo 256. -/
def criticalHitCount (rules : Rules) (roll : Int) : Nat :=
  match Bracket.value? rules.criticalHits roll with
  | some n => (n % 256).toNat
  | none => 0

/-- What the attacker's own movement adds to the to-hit number. -/
def attackerMovement (rules : Rules) : MovementMode → Int
  | .stationary => rules.toHit.attackerStationary
  | .walked => rules.toHit.attackerWalked
  | .ran => rules.toHit.attackerRan
  | .jumped => rules.toHit.attackerJumped

/-- What the hexes moved by the target add to the to-hit number. -/
def targetMovement (rules : Rules) (hexes : Nat) : Int :=
  (Bracket.value? rules.toHit.targetMovement (Counter.ofNat hexes)).getD 0

/-- What a range band adds to the to-hit number. -/
def rangeModifier? (rules : Rules) : RangeBand → Option Int
  | .short => some rules.toHit.shortRange
  | .medium => some rules.toHit.mediumRange
  | .long => some rules.toHit.longRange
  | .outOfRange => none

/-- What terrain on the line of fire adds to the to-hit number. -/
def terrainModifier (rules : Rules) : Terrain → Int
  | .lightWoods => rules.toHit.lightWoods
  | .heavyWoods => rules.toHit.heavyWoods
  | _ => 0

/-- What the heat of the attacker adds to the to-hit number. -/
def heatModifier (rules : Rules) (heat : Int) : Int :=
  (Bracket.value? rules.toHit.heat heat).getD 0

/-- What heat does to the reactor. -/
def shutdownBand (rules : Rules) (heat : Int) : ShutdownBand :=
  if rules.automaticShutdownHeat ≤ heat then .automatic
  else
    match Bracket.value? rules.shutdown heat with
    | some number => .avoid number
    | none => .safe

/-- The number that avoids an explosion of ammunition, if heat threatens
one. -/
def ammoExplosionAvoid? (rules : Rules) (heat : Int) : Option Int :=
  Bracket.value? rules.ammoExplosion heat

/-- The number that keeps a pilot awake. There is none without wounds,
and none once they are lethal. -/
def consciousnessNumber? (rules : Rules) (wounds : Nat) : Option Int :=
  if wounds = 0 ∨ rules.lethalWounds ≤ wounds then none
  else rules.consciousnessNumbers[wounds - 1]?

end Rules

end MechBattle
