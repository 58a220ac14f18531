import MechBattle.Attack
import MechBattle.Battle
import MechBattle.BattleUnit
import MechBattle.BattleUnit.Assembly
import MechBattle.BattleUnit.Document
import MechBattle.Board
import MechBattle.BodyPart
import MechBattle.CommandLine
import MechBattle.CommandLine.Arguments
import MechBattle.Component
import MechBattle.Counter
import MechBattle.Critical
import MechBattle.Damage
import MechBattle.Dice
import MechBattle.Dice.Box
import MechBattle.Dice.Keystream
import MechBattle.Dice.Rolls
import MechBattle.Dice.Script
import MechBattle.Document
import MechBattle.Document.Outline
import MechBattle.Document.Reader
import MechBattle.Fall.Landing
import MechBattle.Fall.Report
import MechBattle.Fault
import MechBattle.Files
import MechBattle.Files.Memory
import MechBattle.Heat
import MechBattle.Hex
import MechBattle.Hex.Line
import MechBattle.Location
import MechBattle.Location.Map
import MechBattle.Log
import MechBattle.Log.Bytes
import MechBattle.Log.Codec
import MechBattle.Log.Document
import MechBattle.Main
import MechBattle.Pilot
import MechBattle.Pilot.Consciousness
import MechBattle.PilotingCheck
import MechBattle.Probe
import MechBattle.Proofs.Allotment
import MechBattle.Proofs.Assembly
import MechBattle.Proofs.Balance
import MechBattle.Proofs.Batch
import MechBattle.Proofs.Codecs
import MechBattle.Proofs.Condition
import MechBattle.Proofs.CookOff
import MechBattle.Proofs.Course
import MechBattle.Proofs.Equipment
import MechBattle.Proofs.Explosions
import MechBattle.Proofs.Faces
import MechBattle.Proofs.FallCauses
import MechBattle.Proofs.Falls
import MechBattle.Proofs.Flow
import MechBattle.Proofs.HardRolls
import MechBattle.Proofs.HardShots
import MechBattle.Proofs.Ledger
import MechBattle.Proofs.LifeCycle
import MechBattle.Proofs.Line
import MechBattle.Proofs.Range
import MechBattle.Proofs.Refusals
import MechBattle.Proofs.Replay
import MechBattle.Proofs.RoundTrip
import MechBattle.Proofs.Shortest
import MechBattle.Proofs.Sight
import MechBattle.Proofs.Spelling
import MechBattle.Proofs.Strikes
import MechBattle.Proofs.Tables
import MechBattle.Refusal
import MechBattle.Rules
import MechBattle.Rules.Document
import MechBattle.Rules.Flaw
import MechBattle.Rules.Lookup
import MechBattle.Rules.Source
import MechBattle.Rules.Validation
import MechBattle.Text.Blank
import MechBattle.Text.Lines
import MechBattle.Text.Literal
import MechBattle.Text.Utf8
import MechBattle.Proofs.Losses
import MechBattle.Proofs.Detonations
import MechBattle.Proofs.CriticalDice
import MechBattle.Proofs.HitCounts
import MechBattle.Proofs.Arcs
import MechBattle.Proofs.Charges
import MechBattle.Proofs.Landings
import MechBattle.Proofs.WorstBin
import MechBattle.Proofs.Wounds
import MechBattle.Proofs.Walks
import MechBattle.Proofs.Translation
import MechBattle.Proofs.Woods
import MechBattle.Proofs.Orders
import MechBattle.Proofs.Battles
import MechBattle.Proofs.Chronicle
