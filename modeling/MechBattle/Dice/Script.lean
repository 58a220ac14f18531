/-
Dice whose faces are written down in advance.

* `Script`: the faces still to come, and how many were rolled;
* `Script.ofFaces?`: a script from pips, refused unless all are one to
  six;
* `Script.ofTotals?`: a script from totals of two dice, each split into a
  first die as high as possible below the total and the rest.
-/
import MechBattle.Fault
import MechBattle.Dice.Rolls

namespace MechBattle

/-- Faces written down in advance. -/
structure Script where
  /-- Faces not yet rolled. -/
  left : List Face
  /-- Number of faces rolled so far. -/
  rolled : Nat := 0
  deriving DecidableEq, Repr

namespace Script

instance : DiceSource Script where
  next s :=
    match s.left with
    | [] => none
    | x :: rest => some (x, ⟨rest, s.rolled + 1⟩)

/-- A script of the given pips. -/
def ofFaces? (faces : List Nat) : Except Fault Script :=
  match faces.mapM Face.ofPips? with
  | some left => .ok ⟨left, 0⟩
  | none => .error (.badFaces faces)

/-- The two dice that stand for a total. -/
def splitTotal (total : Nat) : List Nat :=
  let first := min (total - 1) 6
  [first, total - first]

/-- A script of the given totals. -/
def ofTotals? (totals : List Nat) : Except Fault Script :=
  match totals.find? fun total => !(decide (2 ≤ total ∧ total ≤ 12)) with
  | some total => .error (.badTotal total)
  | none => ofFaces? (totals.flatMap splitTotal)

/-- What is said when the script has run out. -/
def exhausted (s : Script) : Fault := .scriptExhausted s.rolled

theorem next_cons (x : Face) (rest : List Face) (n : Nat) :
    DiceSource.next (⟨x :: rest, n⟩ : Script) = some (x, ⟨rest, n + 1⟩) := rfl

end Script

end MechBattle
