/-
Piloting rolls: what makes them harder, and how they come out.

* `PilotingCheck`: the target number of a piloting roll, item by item;
* `PilotingCheck.ofModifiers`: the target number from its items;
* `CheckOutcome` and `PilotingCheck.roll`: the roll itself;
* `BattleUnit.standingModifiers`: what old damage counts. A component
  that is hit just now is counted by the reason of the roll, so one
  destroyed component of its kind is left out here;
* `BattleUnit.reasonModifier?`: what a reason counts;
* `BattleUnit.pilotingCheck`: the target number for a unit.
-/
import MechBattle.Dice.Rolls
import MechBattle.Refusal
import MechBattle.Rules.Lookup

namespace MechBattle

/-- One item of a piloting roll. -/
structure CheckModifier where
  factor : PilotingFactor
  name : String
  value : Int
  deriving DecidableEq, Repr

/-- The target number of a piloting roll, item by item. -/
structure PilotingCheck where
  reasons : List CheckReason
  /-- The skill of the pilot. -/
  base : Int
  modifiers : List CheckModifier
  /-- Base and items together. -/
  target : Int
  impossible : Bool
  deriving DecidableEq, Repr

/-- How a piloting roll came out. -/
structure CheckOutcome where
  target : Int
  /-- The throw, unless the target number was out of reach. -/
  roll : Option TwoDice
  success : Bool
  deriving DecidableEq, Repr

namespace PilotingCheck

/-- The piloting roll with the given items. -/
def ofModifiers (reasons : List CheckReason) (base : Int) (modifiers : List CheckModifier) :
    PilotingCheck :=
  let target := modifiers.foldl (fun n m => Counter.add n m.value) base
  { reasons, base, modifiers, target, impossible := isImpossible target }

/-- All items together. -/
def modifierTotal (c : PilotingCheck) : Int := sumOf (c.modifiers.map (·.value))

/-- Two dice against the target number. One out of reach fails without a
roll. -/
def roll (c : PilotingCheck) : Rolls CheckOutcome := do
  if c.impossible then return ⟨c.target, none, false⟩
  else
    let dice ← twoDice
    return ⟨c.target, some dice, dice.meets c.target⟩

end PilotingCheck

/-- The item of a factor that counts so many times, unless it counts for
nothing. -/
def Rules.checkModifier? (rules : Rules) (factor : PilotingFactor) (name : String)
    (times : Int) : Option CheckModifier :=
  let value := Counter.mul (rules.piloting.ofFactor factor) times
  if value = 0 then none else some ⟨factor, name, value⟩

namespace BattleUnit

/-- Whether the unit has what a reason is about. Any leg actuator below
the hip will do for one of them. -/
def hasRequired (u : BattleUnit) : CheckReason → Bool
  | .legActuatorHit => u.components.any fun (_, c) => c.kind.isLowerLeg
  | reason =>
    match reason.required? with
    | some k => u.hasComponent k
    | none => true

/-- The refusal for the first reason that the unit has nothing for. -/
def missing? (u : BattleUnit) (reasons : List CheckReason) : Option Refusal :=
  reasons.findSome? fun reason =>
    match reason.required? with
    | some k => if u.hasRequired reason then none else some (.missingComponent u.id reason k)
    | none => none

/-- Number of destroyed leg actuators below the hip. -/
def destroyedLowerLeg (u : BattleUnit) : Nat :=
  u.countComponents fun c => c.destroyed && c.kind.isLowerLeg

/-- Number of destroyed legs. -/
def destroyedLegs (u : BattleUnit) : Nat :=
  u.parts.values.countP fun p => p.location.isLeg && p.isDestroyed

/-- A count of destroyed components without the one that the roll is
about. -/
def withoutStruck (count : Nat) (reasons : List CheckReason) (reason : CheckReason) : Nat :=
  if reasons.contains reason then count - 1 else count

/-- An item that counts as often as something is there. -/
def countedModifier? (rules : Rules) (factor : PilotingFactor) (name : String) (count : Nat) :
    Option CheckModifier :=
  if count = 0 then none else rules.checkModifier? factor name count

/-- What the state of the unit counts, apart from the reasons of the
roll. A damaged gyro counts once. -/
def standingModifiers (rules : Rules) (u : BattleUnit) (pilot : Pilot)
    (reasons : List CheckReason) : List CheckModifier :=
  [countedModifier? rules .damagedGyro "Damaged gyro"
      (min 1 (withoutStruck (u.destroyedCount .gyro) reasons .gyroHit)),
    countedModifier? rules .destroyedHip "Destroyed hip actuator"
      (withoutStruck (u.destroyedCount .hip) reasons .hipHit),
    countedModifier? rules .destroyedLegActuator "Destroyed leg actuator"
      (withoutStruck u.destroyedLowerLeg reasons .legActuatorHit),
    countedModifier? rules .destroyedLeg "Destroyed leg" u.destroyedLegs,
    countedModifier? rules .pilotWound "Pilot wounds" pilot.wounds].filterMap fun m => m

/-- How often heavy damage counts: once for each full threshold, and once
at least. -/
def heavyDamageTimes (rules : Rules) : Option Int → Int
  | some damage => max 1 (damage.tdiv (max 1 rules.heavyDamageThreshold))
  | none => 1

/-- What a reason counts. -/
def reasonModifier? (rules : Rules) (damage : Option Int) : CheckReason → Option CheckModifier
  | .gyroHit => rules.checkModifier? .gyroHit "Gyro hit" 1
  | .hipHit => rules.checkModifier? .hipHit "Hip actuator hit" 1
  | .legActuatorHit => rules.checkModifier? .legActuatorHit "Leg actuator hit" 1
  | .heavyDamage => rules.checkModifier? .heavyDamage "Heavy damage" (heavyDamageTimes rules damage)
  | .fallInjury levels =>
    if levels = 0 then none
    else rules.checkModifier? .fallLevel "Levels fallen" (Counter.ofNat levels)

/-- What the ground under the unit counts. -/
def groundModifier? (rules : Rules) (u : BattleUnit) (board : Option Board) :
    Option CheckModifier := do
  let here ← u.position
  match ((← board).ground here).terrain with
  | .rough => rules.checkModifier? .roughTerrain "Rough terrain" 1
  | .rubble => rules.checkModifier? .rubble "Rubble" 1
  | _ => none

/-- The list without the elements that occurred in it before. -/
def firsts {α : Type} [BEq α] (xs : List α) : List α :=
  xs.foldl (fun seen x => if seen.contains x then seen else seen ++ [x]) []

/-- The target number of a piloting roll for some reasons, each of which
counts once. The unit carries the damage of this phase already; `damage`
is how much it was. -/
def pilotingCheck (rules : Rules) (u : BattleUnit) (reasons : List CheckReason)
    (board : Option Board) (damage : Option Int) : Except Refusal PilotingCheck :=
  match u.pilot with
  | none => .error (.missingPilot u.id)
  | some pilot =>
    match u.missing? reasons with
    | some refusal => .error refusal
    | none =>
      .ok (.ofModifiers (firsts reasons) pilot.piloting
        (standingModifiers rules u pilot reasons ++
          (firsts reasons).filterMap (reasonModifier? rules damage) ++
          (groundModifier? rules u board).toList))

end BattleUnit

end MechBattle
