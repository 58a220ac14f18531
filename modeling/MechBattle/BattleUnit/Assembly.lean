/-
Putting units together.

* `BattleUnit.mech`: a mech with the structure of the rules and armor to
  match;
* `BattleUnit.blank`: a unit without parts;
* `withPart`, `withArmor`, `mount`, `withInternals`, `withPilot`,
  `deployedAt`, `moved`: changes, one after the other.
-/
import MechBattle.BattleUnit
import MechBattle.Rules.Lookup

namespace MechBattle

namespace BattleUnit

/-- A part with the structure given, and armor of twice as much. A torso
has a quarter of it at the back, and a head has nine points. Armor is a
counter for structure below `2³⁰`. -/
def standardPart (l : Location) (internal : Int) : BodyPart :=
  let armor := if l = .head then 9 else internal * 2
  if l.hasRearArmor then .intact l (armor - armor.tdiv 4) (armor.tdiv 4) internal
  else .intact l armor 0 internal

/-- A mech with the structure of the rules. Where they have none for its
tonnage it has no part. -/
def mech (rules : Rules) (id : UnitId) (name : String) (tonnage : Nat) : BattleUnit where
  id
  name
  kind := .mech
  tonnage
  parts := .ofFn fun l => (rules.internal? tonnage l).map (standardPart l)

/-- A unit without parts. -/
def blank (id : UnitId) (name : String) (kind : UnitClass) (tonnage : Nat) : BattleUnit :=
  { id, name, kind, tonnage }

/-- The unit with a part put in its location. -/
def withPart (u : BattleUnit) (p : BodyPart) : BattleUnit :=
  { u with parts := u.parts.insert p.location p }

/-- The unit with the armor of one location set, as it is and as it was
new. -/
def withArmor (u : BattleUnit) (l : Location) (armor rearArmor : Int) : BattleUnit :=
  u.modifyPart l fun p =>
    let p := { p with armor, maxArmor := armor }
    if l.hasRearArmor then { p with rearArmor, maxRearArmor := rearArmor } else p

/-- The unit with a component mounted in a location, after those already
there. -/
def mount (u : BattleUnit) (l : Location) (c : Component) : BattleUnit :=
  u.modifyPart l fun p => { p with components := p.components ++ [c] }

/-- What every mech has inside, and where. -/
def standardInternals : List (Location × Component) :=
  [(.head, .intact "Life Support" .lifeSupport 0 1),
    (.head, .intact "Sensors" .sensors 1 1),
    (.head, .intact "Cockpit" .cockpit 2 1),
    (.head, .intact "Sensors" .sensors 4 1),
    (.head, .intact "Life Support" .lifeSupport 5 1),
    (.centerTorso, .intact "Engine" .engine 0 3),
    (.centerTorso, .intact "Gyro" .gyro 3 4),
    (.centerTorso, .intact "Engine" .engine 7 3)] ++
  ([.leftArm, .rightArm].flatMap fun arm =>
    [(arm, .intact "Shoulder" .shoulder 0 1),
      (arm, .intact "Upper Arm Actuator" .upperArmActuator 1 1),
      (arm, .intact "Lower Arm Actuator" .lowerArmActuator 2 1),
      (arm, .intact "Hand Actuator" .handActuator 3 1)]) ++
  ([.leftLeg, .rightLeg].flatMap fun leg =>
    [(leg, .intact "Hip" .hip 0 1),
      (leg, .intact "Upper Leg Actuator" .upperLegActuator 1 1),
      (leg, .intact "Lower Leg Actuator" .lowerLegActuator 2 1),
      (leg, .intact "Foot Actuator" .footActuator 3 1)])

/-- The unit with everything inside that every mech has. -/
def withInternals (u : BattleUnit) : BattleUnit :=
  standardInternals.foldl (fun u (l, c) => u.mount l c) u

/-- The unit with a pilot. -/
def withPilot (u : BattleUnit) (p : Pilot) : BattleUnit := { u with pilot := some p }

/-- The unit on the board. -/
def deployedAt (u : BattleUnit) (position : Hex) (facing : Facing) : BattleUnit :=
  { u with position := some position, facing }

/-- The unit after its movement. -/
def moved (u : BattleUnit) (mode : MovementMode) (hexes : Nat) : BattleUnit :=
  { u with movement := ⟨mode, hexes⟩ }

end BattleUnit

end MechBattle
