/-
The tables of the rules.

Every number the rules use stands in one record, `Rules`, whose default
values are the standard rules; a set of house rules changes some of them.

* `Side`, `MovementMode`, `RangeBand`, `PilotingFactor`: what tables are
  looked up by;
* `Bracket`: a table of steps, each valid from a value on until the next
  one begins;
* `StructureRow`, `HitTables`, `ToHitTables`, `PilotingTables`: the parts
  of the record;
* `Rules`: the record.
-/
import MechBattle.Location

namespace MechBattle

/-! ### Keys -/

/-- The side on which a unit is struck. -/
inductive Side where
  | front
  | left
  | right
  /-- From behind; torsos are protected by their rear armor. -/
  | rear
  deriving DecidableEq, Repr, Inhabited

/-- How a unit moved this turn. -/
inductive MovementMode where
  | stationary
  | walked
  | ran
  | jumped
  deriving DecidableEq, Repr, Inhabited

/-- How far a shot goes, measured by its weapon. -/
inductive RangeBand where
  | short
  | medium
  | long
  /-- Too far; the shot cannot be taken. -/
  | outOfRange
  deriving DecidableEq, Repr

/-- What makes a piloting roll harder. -/
inductive PilotingFactor where
  /-- The gyro was hit this phase. -/
  | gyroHit
  /-- The gyro was damaged before. -/
  | damagedGyro
  /-- A hip was hit this phase. -/
  | hipHit
  /-- A leg actuator below the hip was hit this phase. -/
  | legActuatorHit
  /-- A hip destroyed before. -/
  | destroyedHip
  /-- A leg actuator below the hip destroyed before. -/
  | destroyedLegActuator
  | destroyedLeg
  /-- Much damage in one phase. -/
  | heavyDamage
  | pilotWound
  /-- A level fallen, when the pilot avoids injury. -/
  | fallLevel
  | roughTerrain
  | rubble
  deriving DecidableEq, Repr

/-! ### Tables -/

/-- A step of a table: `value` is valid from `start` on, until the next
step begins. -/
structure Bracket where
  start : Int
  value : Int
  deriving DecidableEq, Repr

/-- The internal structure of the units of one tonnage. -/
structure StructureRow where
  tonnage : Nat
  centerTorso : Int
  sideTorso : Int
  arm : Int
  leg : Int
  deriving DecidableEq, Repr

/-- The location struck, by the side and the throw of two dice. The first
entry of a table is for a throw of 2. -/
structure HitTables where
  front : List Location
  rear : List Location
  left : List Location
  right : List Location
  deriving DecidableEq, Repr

namespace HitTables

open Location

/-- The standard table for the front and for the rear. -/
def standardFront : List Location :=
  [centerTorso, rightArm, rightArm, rightLeg, rightTorso, centerTorso, leftTorso, leftLeg,
    leftArm, leftArm, Location.head]

/-- The standard table for the left. -/
def standardLeft : List Location :=
  [leftTorso, leftLeg, leftArm, leftArm, leftLeg, leftTorso, centerTorso, rightTorso, rightArm,
    rightLeg, Location.head]

/-- The standard table for the right. -/
def standardRight : List Location :=
  [rightTorso, rightLeg, rightArm, rightArm, rightLeg, rightTorso, centerTorso, leftTorso,
    leftArm, leftLeg, Location.head]

/-- The standard tables. -/
def standard : HitTables := ⟨standardFront, standardFront, standardLeft, standardRight⟩

/-- The table for a side. -/
def ofSide (t : HitTables) : Side → List Location
  | .front => t.front
  | .rear => t.rear
  | .left => t.left
  | .right => t.right

end HitTables

/-- What changes a to-hit number. -/
structure ToHitTables where
  attackerStationary : Int := 0
  attackerWalked : Int := 1
  attackerRan : Int := 2
  attackerJumped : Int := 3
  attackerProne : Int := 2
  /-- By the hexes the target moved. -/
  targetMovement : List Bracket :=
    [⟨0, 0⟩, ⟨3, 1⟩, ⟨5, 2⟩, ⟨7, 3⟩, ⟨10, 4⟩, ⟨18, 5⟩, ⟨25, 6⟩]
  targetJumped : Int := 1
  /-- A prone target in the next hex. -/
  targetProneAdjacent : Int := -2
  /-- A prone target further away. -/
  targetProneRanged : Int := 1
  /-- A target that is shut down or has nobody awake at the controls. -/
  targetImmobile : Int := -4
  shortRange : Int := 0
  mediumRange : Int := 2
  longRange : Int := 4
  lightWoods : Int := 1
  heavyWoods : Int := 2
  /-- By the heat of the attacker. -/
  heat : List Bracket := [⟨8, 1⟩, ⟨13, 2⟩, ⟨17, 3⟩, ⟨24, 4⟩]
  /-- For each destroyed sensor. -/
  sensorHit : Int := 2
  /-- The most that sensors count. -/
  sensorCap : Int := 4
  /-- A secondary target in the front arc. -/
  secondaryFrontArc : Int := 1
  /-- A secondary target in another arc. -/
  secondaryOtherArc : Int := 2
  aimedHead : Int := 3
  aimedOther : Int := -4
  deriving DecidableEq, Repr

/-- What each factor counts in a piloting roll. -/
structure PilotingTables where
  gyroHit : Int := 3
  damagedGyro : Int := 3
  hipHit : Int := 2
  legActuatorHit : Int := 1
  destroyedHip : Int := 2
  destroyedLegActuator : Int := 1
  destroyedLeg : Int := 5
  heavyDamage : Int := 1
  pilotWound : Int := 1
  fallLevel : Int := 1
  roughTerrain : Int := 1
  rubble : Int := 0
  deriving DecidableEq, Repr

/-- What a factor counts. -/
def PilotingTables.ofFactor (t : PilotingTables) : PilotingFactor → Int
  | .gyroHit => t.gyroHit
  | .damagedGyro => t.damagedGyro
  | .hipHit => t.hipHit
  | .legActuatorHit => t.legActuatorHit
  | .destroyedHip => t.destroyedHip
  | .destroyedLegActuator => t.destroyedLegActuator
  | .destroyedLeg => t.destroyedLeg
  | .heavyDamage => t.heavyDamage
  | .pilotWound => t.pilotWound
  | .fallLevel => t.fallLevel
  | .roughTerrain => t.roughTerrain
  | .rubble => t.rubble

/-- The standard structure table. -/
def StructureRow.standard : List StructureRow :=
  [⟨20, 6, 5, 3, 4⟩, ⟨25, 8, 6, 4, 6⟩, ⟨30, 10, 7, 5, 7⟩, ⟨35, 11, 8, 6, 8⟩,
    ⟨40, 12, 10, 6, 10⟩, ⟨45, 14, 11, 7, 11⟩, ⟨50, 16, 12, 8, 12⟩, ⟨55, 18, 13, 9, 13⟩,
    ⟨60, 20, 14, 10, 14⟩, ⟨65, 21, 15, 10, 15⟩, ⟨70, 22, 15, 11, 15⟩, ⟨75, 23, 16, 12, 16⟩,
    ⟨80, 25, 17, 13, 17⟩, ⟨85, 27, 18, 14, 18⟩, ⟨90, 29, 19, 15, 19⟩, ⟨95, 30, 20, 16, 20⟩,
    ⟨100, 31, 21, 17, 21⟩]

/-- All tables of the rules. -/
structure Rules where
  /-- Structure of a head, whatever the tonnage. -/
  headStructure : Int := 3
  structures : List StructureRow := StructureRow.standard
  hitTables : HitTables := HitTables.standard
  /-- Number of critical hits, by the throw. -/
  criticalHits : List Bracket := [⟨8, 1⟩, ⟨10, 2⟩, ⟨12, 3⟩]
  toHit : ToHitTables := {}
  piloting : PilotingTables := {}
  /-- Damage in one phase that forces a piloting roll. -/
  heavyDamageThreshold : Int := 20
  /-- Number to avoid a shutdown, by heat. -/
  shutdown : List Bracket := [⟨14, 4⟩, ⟨18, 6⟩, ⟨22, 8⟩, ⟨26, 10⟩]
  /-- Heat from which on there is no avoiding it. -/
  automaticShutdownHeat : Int := 30
  /-- Heat below which a unit starts up again by itself. -/
  autoRestartBelow : Int := 14
  /-- Number to avoid an explosion of ammunition, by heat. -/
  ammoExplosion : List Bracket := [⟨19, 4⟩, ⟨23, 6⟩, ⟨28, 8⟩]
  /-- Damage of a fall for every started ten tons. -/
  fallDamagePerTenTons : Int := 1
  /-- Damage of a fall comes in clusters of this size. -/
  fallClusterSize : Int := 5
  /-- Number to stay awake, by wounds, the first for one wound. -/
  consciousnessNumbers : List Int := [3, 5, 7, 10, 11]
  /-- Wounds that kill. -/
  lethalWounds : Nat := 6
  deriving DecidableEq, Repr

/-- The standard rules. -/
def Rules.standard : Rules := {}

instance : Inhabited Rules := ⟨Rules.standard⟩

end MechBattle
