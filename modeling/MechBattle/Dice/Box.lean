/-
The dice on the table: a script, or seeded dice.

* `DiceBox`: either kind of dice, as one source;
* `Rolls.play`: a rule played on a dice box. Only a script can run out,
  and then the run ends in a fault;
* `DiceBox.peek`: the faces that come next, without rolling them.
-/
import MechBattle.Dice.Script
import MechBattle.Dice.Keystream

namespace MechBattle

/-- Dice of either kind. -/
inductive DiceBox where
  | scripted (script : Script)
  | seeded (stream : Keystream)

namespace DiceBox

/-- A script without any face. -/
def empty : DiceBox := .scripted ⟨[], 0⟩

instance : DiceSource DiceBox where
  next
    | .scripted s => (DiceSource.next s).map fun (x, rest) => (x, .scripted rest)
    | .seeded k => (DiceSource.next k).map fun (x, rest) => (x, .seeded rest)

/-- What is said when the dice have run out. -/
def exhausted : DiceBox → Fault
  | .scripted s => s.exhausted
  | .seeded _ => .scriptExhausted 0

/-- The next `n` faces, or as many as there are. -/
def peek : Nat → DiceBox → List Face
  | 0, _ => []
  | n + 1, box =>
    match DiceSource.next box with
    | none => []
    | some (x, rest) => x :: peek n rest

end DiceBox

/-- A rule played on a dice box, with the dice left over. When the dice
run out, those rolled until then stay rolled. -/
def Rolls.play {α : Type} (m : Rolls α) (box : DiceBox) : Except Fault α × DiceBox :=
  match m.run box with
  | (some a, rest) => (.ok a, rest)
  | (none, rest) => (.error rest.exhausted, rest)

end MechBattle
