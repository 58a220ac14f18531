/-
Deciding whether a unit falls.

Critical hits on what a mech stands with, or much damage in one phase,
force a piloting roll. A mech that fails it falls: it lands on a side,
takes damage in clusters, and its pilot may be injured. The report lists
the stages that were gone through.

* `FallCause`: why a roll is forced, the most pressing cause first;
* `FallReport`: what is recorded;
* `fallCause?`: the cause, for some hits and some damage;
* `BattleUnit.resolveFall`: from the hits to the report;
* `BattleUnit.takeFall`: the unit after its fall.
-/
import MechBattle.Fall.Landing
import MechBattle.Pilot.Consciousness

namespace MechBattle

/-- A stage of deciding a fall. -/
inductive FallStage where
  /-- Nothing looked at yet. -/
  | idle
  /-- Looking for a cause. -/
  | causeCheck
  /-- Rolling to keep standing. -/
  | pilotingRoll
  /-- Falling. -/
  | falling
  /-- Rolling to avoid injury. -/
  | injuryRoll
  | done
  deriving DecidableEq, Repr

/-- Why a piloting roll is forced, the most pressing cause first. -/
inductive FallCause where
  | gyroHit
  | hipHit
  /-- A leg actuator below the hip was hit. -/
  | legActuatorHit
  /-- Much damage in one phase. -/
  | heavyDamage
  deriving DecidableEq, Repr

namespace FallCause

/-- Every cause, the most pressing first. -/
def all : List FallCause := [gyroHit, hipHit, legActuatorHit, heavyDamage]

/-- The cause that a hit on a component is, if it is one. -/
def ofComponent? : ComponentKind → Option FallCause
  | .gyro => some gyroHit
  | .hip => some hipHit
  | .upperLegActuator | .lowerLegActuator | .footActuator => some legActuatorHit
  | _ => none

/-- The reason of the roll that a cause forces. -/
def reason : FallCause → CheckReason
  | gyroHit => .gyroHit
  | hipHit => .hipHit
  | legActuatorHit => .legActuatorHit
  | heavyDamage => .heavyDamage

end FallCause

/-- What happened while it was decided whether a unit falls. -/
structure FallReport where
  game : String
  unit : UnitId
  stages : List FallStage
  cause : FallCause
  /-- The roll to keep standing. -/
  check : PilotingCheck
  outcome : CheckOutcome
  /-- The fall, when that roll failed. -/
  landing : Option Landing := none
  /-- Where the clusters of damage went. -/
  taken : List Absorption := []
  /-- The roll to avoid injury, when the unit fell. -/
  injuryCheck : Option PilotingCheck := none
  injuryOutcome : Option CheckOutcome := none
  deriving DecidableEq, Repr

namespace FallReport

/-- Whether the unit fell. -/
def fell (r : FallReport) : Bool := !r.outcome.success

/-- Whether the fall injured the pilot. -/
def injured (r : FallReport) : Bool :=
  match r.landing with
  | some landing => landing.injured
  | none => false

end FallReport

/-- The most pressing cause among the hits, and heavy damage if none of
them is one. -/
def fallCause? (rules : Rules) (hits : List ComponentKind) (damage : Int) : Option FallCause :=
  let causes := hits.filterMap FallCause.ofComponent?
  match FallCause.all.find? causes.contains with
  | some cause => some cause
  | none => if rules.heavyDamageThreshold ≤ damage then some .heavyDamage else none

namespace BattleUnit

/-- The clusters of a landing, resolved one after the other. -/
def absorbLanding (u : BattleUnit) (landing : Landing) : List Absorption :=
  u.absorbAll [] (landing.clusters.map fun c => ⟨c.location, c.damage, .hit landing.side⟩)

/-- What the stages up to the roll are. -/
def stagesToRoll : List FallStage := [.idle, .causeCheck, .pilotingRoll]

/-- How the roll to avoid injury is recorded. -/
def injuryOutcome (check : PilotingCheck) (landing : Landing) : CheckOutcome :=
  ⟨check.target, landing.injuryRoll, !landing.injured⟩

/-- The report of a unit that failed to keep standing. -/
def fallDown (rules : Rules) (u : BattleUnit) (board : Option Board) (standing : FallReport) :
    Rolls (Except Refusal FallReport) := do
  match pilotingCheck rules u [.fallInjury 0] board none with
  | .error refusal => return .error refusal
  | .ok check =>
    match ← u.land rules 0 (u.movement.mode == .jumped) check with
    | .error refusal => return .error refusal
    | .ok landing =>
      return .ok
        { standing with
          stages := stagesToRoll ++ [.falling, .injuryRoll, .done]
          landing := some landing
          taken := u.absorbLanding landing
          injuryCheck := some check
          injuryOutcome := some (injuryOutcome check landing) }

/-- The roll to keep standing for a cause, and the fall if it fails. -/
def resolveCause (rules : Rules) (u : BattleUnit) (board : Option Board) (cause : FallCause)
    (damage : Int) (game : String) : Rolls (Except Refusal FallReport) := do
  let heavy := if cause = .heavyDamage then some damage else none
  match pilotingCheck rules u [cause.reason] board heavy with
  | .error refusal => return .error refusal
  | .ok check =>
    let outcome ← check.roll
    let standing : FallReport :=
      { game, unit := u.id, stages := stagesToRoll ++ [.done], cause, check, outcome }
    if outcome.success then return .ok standing else fallDown rules u board standing

/-- Whether a unit falls after hits on some components and some damage in
this phase, all of which it carries already. There is no report when
nothing forces a roll, nor when a gyro was hit that the unit does not
have. -/
def resolveFall (rules : Rules) (u : BattleUnit) (board : Option Board)
    (hits : List ComponentKind) (damage : Int) (game : String) :
    Rolls (Except Refusal (Option FallReport)) := do
  match fallCause? rules hits damage with
  | none => return .ok none
  | some cause =>
    if cause = .gyroHit ∧ u.hasComponent .gyro = false then return .ok none
    else return (← resolveCause rules u board cause damage game).map some

/-- The unit after a fall: prone, turned, damaged, and with a wounded
pilot if there was an injury. A report without a fall changes nothing. -/
def takeFall (rules : Rules) (u : BattleUnit) (r : FallReport) : BattleUnit :=
  match r.landing with
  | none => u
  | some landing =>
    let u := { u with prone := true, facing := landing.facing }.takeDamage r.taken
    if landing.injured then u.woundPilot rules 1 else u

end BattleUnit

end MechBattle
