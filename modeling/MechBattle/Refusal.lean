/-
Why a rule cannot be applied to a unit.

* `CheckReason`: why a piloting roll is made, and `required?` for the
  component without which it makes no sense;
* `Refusal`: the causes, with their wording in `Refusal.message`.
-/
import MechBattle.BattleUnit

namespace MechBattle

/-- Why a piloting roll is made. -/
inductive CheckReason where
  | gyroHit
  | hipHit
  /-- A leg actuator below the hip was hit. -/
  | legActuatorHit
  /-- Much damage in one phase. -/
  | heavyDamage
  /-- The pilot avoids injury after a fall of so many levels. -/
  | fallInjury (levels : Nat)
  deriving DecidableEq, Repr

namespace CheckReason

/-- The component that stands for what the roll is about. -/
def required? : CheckReason → Option ComponentKind
  | gyroHit => some .gyro
  | hipHit => some .hip
  | legActuatorHit => some .lowerLegActuator
  | heavyDamage | fallInjury _ => none

/-- The written form of a reason. -/
def name : CheckReason → String
  | gyroHit => "GyroHit"
  | hipHit => "HipActuatorHit"
  | legActuatorHit => "LegActuatorHit"
  | heavyDamage => "HeavyDamage"
  | fallInjury levels => "FallPilotDamage \x7b levels: " ++ levels.repr ++ " \x7d"

end CheckReason

/-- Why a rule cannot be applied to a unit. -/
inductive Refusal where
  /-- Nobody is at the controls. -/
  | missingPilot (unit : UnitId)
  /-- The unit has nothing that the roll is about. -/
  | missingComponent (unit : UnitId) (reason : CheckReason) (component : ComponentKind)
  | notAMech (unit : UnitId)
  /-- The unit is not on the board. -/
  | notDeployed (unit : UnitId)
  | unknownLocation (unit : UnitId) (location : Location)
  /-- The slot is empty. -/
  | unknownComponent (unit : UnitId) (location : Location) (slot : Nat)
  deriving DecidableEq, Repr

/-- The written form of a unit's number. -/
def UnitId.text (id : UnitId) : String := "#" ++ id.repr

/-- The wording of a refusal. -/
def Refusal.message : Refusal → String
  | .missingPilot unit => s!"Unit {unit.text} has no pilot"
  | .missingComponent unit reason component =>
    s!"Unit {unit.text} cannot make a {reason.name} roll: no {component.name} installed"
  | .notAMech unit => s!"Unit {unit.text} is not a mech"
  | .notDeployed unit => s!"Unit {unit.text} is not deployed"
  | .unknownLocation unit location => s!"Unit {unit.text} has no {location.name} location"
  | .unknownComponent unit location slot =>
    s!"Unit {unit.text} has no component in {location.name} slot {slot}"

end MechBattle
