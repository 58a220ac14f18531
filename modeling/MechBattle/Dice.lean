/-
Six-sided dice, thrown alone or in pairs.

* `Face`: one of the six faces of a die;
* `TwoDice`: a throw of two dice with both faces kept, its `total`, and
  whether it `meets` a target number;
* `isImpossible`: target numbers that two dice cannot reach;
* `waysToMeet`: in how many of the 36 throws a target number is met, and
  `successPercent`, the same as a percentage.
-/

namespace MechBattle

/-- A face of a die, counted from zero. -/
abbrev Face := Fin 6

namespace Face

/-- The pips on a face, one to six. -/
def pips (x : Face) : Nat := x.val + 1

/-- The face with the given pips. -/
def ofPips? (n : Nat) : Option Face :=
  if h : 1 ≤ n ∧ n ≤ 6 then some ⟨n - 1, by omega⟩ else none

theorem pips_pos (x : Face) : 1 ≤ x.pips := Nat.le_add_left 1 x.val

theorem pips_le (x : Face) : x.pips ≤ 6 := x.isLt

theorem ofPips?_pips (x : Face) : ofPips? x.pips = some x := by
  simp [ofPips?, x.pips_pos, x.pips_le]
  rfl

/-- All six faces. -/
def all : List Face := List.ofFn id

end Face

/-- A throw of two dice. Records keep the pips as they were written down,
so a throw read from a log may show other numbers than one to six. -/
structure TwoDice where
  first : Nat
  second : Nat
  deriving DecidableEq, Repr

namespace TwoDice

/-- The sum of both dice. -/
def total (d : TwoDice) : Int := d.first + d.second

/-- Whether the throw is at least the target number. -/
def meets (d : TwoDice) (target : Int) : Bool := decide (target ≤ d.total)

/-- The throw that shows two faces. -/
def ofFaces (x y : Face) : TwoDice := ⟨x.pips, y.pips⟩

theorem total_ofFaces_bounds (x y : Face) :
    2 ≤ (ofFaces x y).total ∧ (ofFaces x y).total ≤ 12 := by
  have := x.pips_pos; have := x.pips_le
  have := y.pips_pos; have := y.pips_le
  simp only [ofFaces, total]
  omega

end TwoDice

/-- Target numbers from here on cannot be thrown with two dice. -/
def impossibleTarget : Int := 13

/-- Whether two dice cannot reach a target number. -/
def isImpossible (target : Int) : Bool := decide (impossibleTarget ≤ target)

/-- In how many of the 36 throws the target number is met. -/
def waysToMeet (target : Int) : Nat :=
  (Face.all.flatMap fun x => Face.all.map (TwoDice.ofFaces x)).countP (·.meets target)

/-- The chance in percent that a throw meets the target number. -/
def successPercent (target : Int) : Float :=
  Float.ofNat (waysToMeet target) * 100 / 36

end MechBattle
