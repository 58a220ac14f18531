/-
Attacks with weapons and the numbers they need.

* `Weapon`: a weapon with its ranges, `Weapon.band` and
  `Weapon.minimumRangeModifier`;
* `Attack`: what is declared;
* `FiringSolution`: the to-hit number, item by item;
* `FiringSolution.items`: the items whose sum is the to-hit number;
* `BattleUnit.aim`: the firing solution of an attacker on a target.
-/
import MechBattle.Board
import MechBattle.Dice
import MechBattle.Refusal
import MechBattle.Rules.Lookup

namespace MechBattle

/-- A weapon and how far it reaches. -/
structure Weapon where
  name : String
  /-- Shots at this distance or below are harder; 0 if there is none. -/
  minRange : Int
  /-- The last hex of each band. -/
  shortRange : Int
  mediumRange : Int
  longRange : Int
  damage : Int
  heat : Int
  deriving DecidableEq, Repr

namespace Weapon

/-- The range band of a distance. -/
def band (w : Weapon) (distance : Int) : RangeBand :=
  if distance ≤ w.shortRange then .short
  else if distance ≤ w.mediumRange then .medium
  else if distance ≤ w.longRange then .long
  else .outOfRange

/-- What a shot within the minimum range adds to the to-hit number. This is
a counter for minimum ranges that are and for distances from 1 on, and at
distance 0 for minimum ranges below `2³¹ - 1`. -/
def minimumRangeModifier (w : Weapon) (distance : Int) : Int :=
  if 0 < w.minRange ∧ distance ≤ w.minRange then w.minRange - distance + 1 else 0

end Weapon

/-- A declared attack. -/
structure Attack where
  weapon : Weapon
  /-- The location aimed at, if any. -/
  aimed : Option Location := none
  /-- Not at the main target of this turn. -/
  secondary : Bool := false
  deriving DecidableEq, Repr

/-- What the terrain of one hex on the line of fire adds. -/
structure TerrainItem where
  hex : Hex
  terrain : Terrain
  value : Int
  deriving DecidableEq, Repr

/-- What a circumstance adds. -/
structure NamedItem where
  name : String
  value : Int
  deriving DecidableEq, Repr

/-- The to-hit number of an attack, item by item. -/
structure FiringSolution where
  gunnery : Int
  attackerMovement : Int
  targetMovement : Int
  distance : Int
  band : RangeBand
  /-- What the band adds; 0 when out of range. -/
  range : Int
  minimumRange : Int
  /-- The woods on the line of fire, those of the target's hex included. -/
  terrain : List TerrainItem
  heat : Int
  sensorDamage : Int
  secondaryTarget : Int
  aimedShot : Int
  /-- For units that are prone, immobile or jumped. -/
  other : List NamedItem
  /-- The number to throw. -/
  total : Int
  /-- The attack misses without a roll. -/
  impossible : Bool
  /-- The attacker sees the target. -/
  lineOfSight : Bool
  deriving DecidableEq, Repr

namespace FiringSolution

/-- The items of the to-hit number. -/
def items (f : FiringSolution) : List Int :=
  [f.gunnery, f.attackerMovement, f.targetMovement, f.range, f.minimumRange, f.heat,
    f.sensorDamage, f.secondaryTarget, f.aimedShot] ++
  f.terrain.map (·.value) ++ f.other.map (·.value)

/-- The items added up in order, stopping at the edges of a counter. -/
def sum (f : FiringSolution) : Int := f.items.foldl Counter.add 0

/-- The chance in percent that the attack hits. -/
def hitPercent (f : FiringSolution) : Float :=
  if f.impossible then 0 else successPercent f.total

end FiringSolution

namespace BattleUnit

/-- The woods on a line of fire that count for something. -/
def terrainItems (rules : Rules) (board : Board) (start stop : Hex) : List TerrainItem :=
  (board.along start stop).filterMap fun (h, g) =>
    let value := rules.terrainModifier g.terrain
    if value = 0 then none else some ⟨h, g.terrain, value⟩

/-- What destroyed sensors add, up to a cap. -/
def sensorDamage (rules : Rules) (attacker : BattleUnit) : Int :=
  min (Counter.mul (Counter.ofNat (attacker.destroyedCount .sensors)) rules.toHit.sensorHit)
    rules.toHit.sensorCap

/-- What a secondary target adds, by the arc it is in. -/
def secondaryItem (rules : Rules) (arc : Arc) : Int :=
  match arc with
  | .front => rules.toHit.secondaryFrontArc
  | _ => rules.toHit.secondaryOtherArc

/-- What aiming at a location adds. -/
def aimedItem (rules : Rules) : Option Location → Int
  | some .head => rules.toHit.aimedHead
  | some _ => rules.toHit.aimedOther
  | none => 0

/-- An item for a circumstance, if that is given and counts. -/
def itemWhen (given : Bool) (name : String) (value : Int) : List NamedItem :=
  if given && value != 0 then [⟨name, value⟩] else []

/-- What the circumstances of attacker and target add. -/
def otherItems (rules : Rules) (attacker target : BattleUnit) (distance : Int) :
    List NamedItem :=
  itemWhen attacker.prone "Attacker prone" rules.toHit.attackerProne ++
    itemWhen (target.shutdown || !target.hasActivePilot) "Target immobile"
      rules.toHit.targetImmobile ++
    itemWhen (target.movement.mode == .jumped) "Target jumped" rules.toHit.targetJumped ++
    (if distance ≤ 1 then
      itemWhen target.prone "Target prone (adjacent)" rules.toHit.targetProneAdjacent
    else itemWhen target.prone "Target prone" rules.toHit.targetProneRanged)

/-- The items of the to-hit number for units on two hexes. -/
def solutionItems (rules : Rules) (attacker target : BattleUnit) (attack : Attack)
    (board : Board) (pilot : Pilot) (start stop : Hex) : FiringSolution :=
  let distance := start.distance stop
  let band := attack.weapon.band distance
  { gunnery := pilot.gunnery
    attackerMovement := rules.attackerMovement attacker.movement.mode
    targetMovement := rules.targetMovement target.movement.hexes
    distance
    band
    range := (rules.rangeModifier? band).getD 0
    minimumRange := attack.weapon.minimumRangeModifier distance
    terrain := terrainItems rules board start stop
    heat := rules.heatModifier attacker.heat
    sensorDamage := sensorDamage rules attacker
    secondaryTarget :=
      if attack.secondary then secondaryItem rules (start.arcTo attacker.facing stop) else 0
    aimedShot := aimedItem rules attack.aimed
    other := otherItems rules attacker target distance
    total := 0
    impossible := false
    lineOfSight := board.sees start stop }

/-- The firing solution of an attacker on a target. It takes a pilot to
attack, and both units have to be on the board. -/
def aim (rules : Rules) (attacker target : BattleUnit) (attack : Attack) (board : Board) :
    Except Refusal FiringSolution :=
  match attacker.pilot, attacker.position, target.position with
  | none, _, _ => .error (.missingPilot attacker.id)
  | some _, none, _ => .error (.notDeployed attacker.id)
  | some _, some _, none => .error (.notDeployed target.id)
  | some pilot, some start, some stop =>
    let items := solutionItems rules attacker target attack board pilot start stop
    let total := items.sum
    .ok
      { items with
        total
        impossible := !items.lineOfSight || items.band == .outOfRange || isImpossible total }

end BattleUnit

end MechBattle
