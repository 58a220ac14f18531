/-
Faults: misuse that ends a run on the spot.

A fault is not a result of the rules. It says that the dice were set up
wrongly or ran out, or that a division has no answer.

* `Fault`: the causes;
* `Fault.message`: their wording;
* `ceilDiv?`: division with its two faults.
-/
import MechBattle.Counter

namespace MechBattle

/-- Why a run ends before it has a result. -/
inductive Fault where
  /-- A scripted die shows something else than one to six pips. -/
  | badFaces (faces : List Nat)
  /-- A scripted total lies outside two to twelve. -/
  | badTotal (total : Nat)
  /-- A die is asked for after the last of the `rolled` scripted faces. -/
  | scriptExhausted (rolled : Nat)
  /-- A division by zero. -/
  | divisionByZero
  /-- A quotient beyond the largest counter. -/
  | divisionOverflow
  deriving DecidableEq, Repr

/-- The wording of a fault. -/
def Fault.message : Fault → String
  | .badFaces faces =>
    "scripted die faces must be 1-6: [" ++ ", ".intercalate (faces.map Nat.repr) ++ "]"
  | .badTotal total => "2d6 total out of range: " ++ total.repr
  | .scriptExhausted rolled => "dice script exhausted after " ++ rolled.repr ++ " rolls"
  | .divisionByZero => "attempt to divide by zero"
  | .divisionOverflow => "attempt to divide with overflow"

/-- `ceilDiv` on counters: no divisor is zero, and the smallest counter
has no opposite. -/
def ceilDiv? (n d : Int) : Except Fault Int :=
  if d = 0 then .error .divisionByZero
  else if n = Counter.least ∧ d = -1 then .error .divisionOverflow
  else .ok (ceilDiv n d)

end MechBattle
