/-
Staying awake: consciousness rolls of wounded pilots.

* `Pilot.takeHits`: wounds under a set of rules;
* `ConsciousnessRoll`: a roll to stay awake, or to wake up again;
* `Pilot.wakeRolls`: the queued rolls, up to the first that fails;
* `Pilot.recoveryRoll`: the roll of an unconscious pilot;
* `Pilot.afterRolls`: what the rolls do to the pilot.
-/
import MechBattle.BattleUnit
import MechBattle.Dice.Rolls
import MechBattle.Rules.Lookup

namespace MechBattle

/-- A consciousness roll. -/
structure ConsciousnessRoll where
  target : Int
  roll : TwoDice
  /-- The pilot stays awake, or wakes up. -/
  success : Bool
  /-- Made by an unconscious pilot to wake up. -/
  recovery : Bool
  deriving DecidableEq, Repr

namespace Pilot

/-- The pilot after so many hits under the rules. -/
def takeHits (rules : Rules) (hits : Nat) (p : Pilot) : Pilot :=
  p.wound rules.lethalWounds rules.consciousnessNumber? hits

/-- Two dice against a target number. -/
def rollAgainst (target : Int) (recovery : Bool) : Rolls ConsciousnessRoll := do
  let roll ← twoDice
  return { target, roll, success := roll.meets target, recovery }

/-- Rolls against target numbers in order, up to the first that fails. -/
def rollQueue : List Int → Rolls (List ConsciousnessRoll)
  | [] => return []
  | target :: rest => do
    let check ← rollAgainst target false
    if check.success then return check :: (← rollQueue rest) else return [check]

/-- The queued rolls of a pilot. Those who are unconscious or dead make
none. -/
def wakeRolls (p : Pilot) : Rolls (List ConsciousnessRoll) :=
  if p.isActive then rollQueue p.pending else return []

/-- The roll of an unconscious pilot to wake up, unless the wounds leave
no number to roll against. -/
def recoveryRoll (rules : Rules) (p : Pilot) : Rolls (Option ConsciousnessRoll) :=
  if p.conscious || p.dead then return none
  else
    match rules.consciousnessNumber? p.wounds with
    | some target => return some (← rollAgainst target true)
    | none => return none

/-- Whether a pilot is awake after one more roll. -/
def awakeAfter (awake : Bool) (check : ConsciousnessRoll) : Bool :=
  if check.recovery then awake || check.success else awake && check.success

/-- The pilot after consciousness rolls. A roll to stay awake settles the
whole queue. -/
def afterRolls (p : Pilot) (checks : List ConsciousnessRoll) : Pilot :=
  { p with
    conscious := checks.foldl awakeAfter p.conscious
    pending := if checks.any (!·.recovery) then [] else p.pending }

end Pilot

/-- The unit after so many hits on its pilot, if it has one. -/
def BattleUnit.woundPilot (rules : Rules) (hits : Nat) (u : BattleUnit) : BattleUnit :=
  { u with pilot := u.pilot.map (Pilot.takeHits rules hits) }

end MechBattle
