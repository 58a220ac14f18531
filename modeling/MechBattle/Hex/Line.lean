/-
Straight lines from hex to hex.

A line is sampled at as many points as there are hexes between its ends.
Points have fractional coordinates, held as whole numbers of `2⁻³²`
hexes, so that a line comes out the same everywhere. Both ends are moved
by a tiny step first, so that a line along a border between hexes always
falls to the same side.

The arithmetic of points comes from outside and is an assumption of the
library: numbers have 32 bits behind the point, a quotient is cut toward
zero, a product downward, halves are rounded away from zero, and nothing
overflows. The 32 bits before the point suffice for coordinates below `2³⁰`,
whatever their sign, of hexes fewer than `2³⁰` apart.

* `Fraction`: the arithmetic of fractional coordinates, with `quotient`
  cut toward zero, `scaled` cut downward and `nearest` rounding halves
  away from zero;
* `Hex.containing`: the hex a fractional point lies in;
* `Hex.lineTo`: the hexes on the line, without its start and with its
  end.
-/
import MechBattle.Hex

namespace MechBattle

namespace Fraction

/-- The unit of a fractional coordinate: one hex is `2³²` of them. -/
def one : Int := 4294967296

/-- A whole number as a fraction. -/
def ofInt (n : Int) : Int := n * one

/-- The quotient of two whole numbers as a fraction, cut toward zero. -/
def quotient (n d : Int) : Int := (n * one).tdiv d

/-- A fraction of a fraction, cut downward. -/
def scaled (a b : Int) : Int := (a * b).fdiv one

/-- The whole number nearest to a fraction; halves go away from zero. -/
def nearest (a : Int) : Int :=
  if 0 ≤ a then (a + one / 2) / one else -((-a + one / 2) / one)

/-- How far a fraction is from a whole number. -/
def gap (n a : Int) : Nat := (ofInt n - a).natAbs

/-- The nearest whole number is at most half a unit away. -/
theorem gap_nearest (a : Int) : 2 * (gap (nearest a) a : Int) ≤ one := by
  unfold gap nearest ofInt one
  split <;> omega

end Fraction

/-- The tiny step by which a line is moved: a millionth of a hex. -/
def lineNudge : Int := Fraction.quotient 1 1000000

namespace Hex

open Fraction

/-- The hex that a fractional point lies in. Each of the three coordinates
is rounded, and the one that moved most gives way so that they add up to
zero. -/
def containing (q r : Int) : Hex :=
  let s := -q - r
  let dq := gap (nearest q) q
  let dr := gap (nearest r) r
  let ds := gap (nearest s) s
  if dr < dq ∧ ds < dq then ⟨-nearest r - nearest s, nearest r⟩
  else if ds < dr then ⟨nearest q, -nearest q - nearest s⟩
  else ⟨nearest q, nearest r⟩

/-- The hex at step `i` of `n` on the way from `a` to `b`. -/
def sample (a b : Hex) (n i : Int) : Hex :=
  let t := quotient i n
  let along (x y : Int) :=
    ofInt x + lineNudge + scaled (ofInt y + lineNudge - (ofInt x + lineNudge)) t
  containing (along a.q b.q) (along a.r b.r)

/-- The hexes on the straight line from `a` to `b`, without `a` and with
`b`. -/
def lineTo (a b : Hex) : List Hex :=
  (List.range (a.distance b).toNat).map fun i : Nat => sample a b (a.distance b) (i + 1 : Nat)

theorem length_lineTo (a b : Hex) : (a.lineTo b).length = (a.distance b).toNat := by
  simp [lineTo]

end Hex

end MechBattle
