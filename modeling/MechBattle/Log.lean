/-
The log of a battle.

Whoever runs a battle appends each result that is applied, with the turn.
Applying the entries of a log again, in order, leads to the same state.

* `BattleEvent`: a result worth logging;
* `BattleLog`: the entries of a game;
* `BattleLog.record`, `eventsInTurn`: writing to a log and reading it.
-/
import MechBattle.Attack
import MechBattle.Critical
import MechBattle.Fall.Report
import MechBattle.Heat

namespace MechBattle

/-- A result worth logging. -/
inductive BattleEvent where
  /-- An attack and its throw, unless it missed without one. -/
  | attack (attacker target : UnitId) (solution : FiringSolution) (roll : Option TwoDice)
  /-- Damage taken by a unit. -/
  | damage (unit : UnitId) (taken : List Absorption)
  /-- Critical hits on a unit. -/
  | criticals (unit : UnitId) (reports : List CriticalReport)
  | fall (report : FallReport)
  | shutdown (check : ShutdownCheck)
  | cookOff (check : CookOffCheck)
  /-- Consciousness rolls of a unit's pilot. -/
  | consciousness (unit : UnitId) (rolls : List ConsciousnessRoll)
  deriving DecidableEq, Repr

/-- An event and its turn. -/
structure LogEntry where
  turn : Nat
  event : BattleEvent
  deriving DecidableEq, Repr

/-- The number of the form in which logs are written. -/
def logVersion : Nat := 1

/-- The log of a game. -/
structure BattleLog where
  version : Nat := logVersion
  game : String
  /-- The seed of the dice, if they had one. -/
  seed : Option Nat
  /-- Entries in the order in which they were applied. -/
  entries : List LogEntry := []
  deriving DecidableEq, Repr

namespace BattleLog

/-- An empty log. -/
def new (game : String) (seed : Option Nat) : BattleLog := { game, seed }

/-- The log with one more event. -/
def record (log : BattleLog) (turn : Nat) (event : BattleEvent) : BattleLog :=
  { log with entries := log.entries ++ [⟨turn, event⟩] }

/-- The events of a turn, in order. -/
def eventsInTurn (log : BattleLog) (turn : Nat) : List BattleEvent :=
  (log.entries.filter (·.turn == turn)).map (·.event)

/-- Number of events. -/
def length (log : BattleLog) : Nat := log.entries.length

/-- Whether nothing was logged. -/
def isEmpty (log : BattleLog) : Bool := log.entries.isEmpty

end BattleLog

end MechBattle
