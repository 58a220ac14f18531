/-
Counters: whole numbers between a floor and a ceiling.

Armor, structure, heat, damage and target numbers are counters. They lie
between `-2³¹` and `2³¹ - 1`, and a rule that adds or multiplies them and
would leave this range stops at its edge instead.

* `Counter.clamp`: the counter nearest to a whole number;
* `Counter.add`, `Counter.sub`, `Counter.mul`: arithmetic that stops at
  the edges, with `Counter.mem_clamp` saying that it never leaves them
  and `Counter.clamp_of_mem` that it is exact between them;
* `Counter.ofNat`: a count read as a counter;
* `ceilDiv`: division that rounds up, as for every started ten tons;
* `sumOf`: a sum that stops at no edge.
-/

namespace MechBattle

namespace Counter

/-- The smallest counter, `-2³¹`. -/
def least : Int := -2147483648

/-- The largest counter, `2³¹ - 1`. -/
def greatest : Int := 2147483647

/-- Whether a whole number is a counter. -/
def Mem (n : Int) : Prop := least ≤ n ∧ n ≤ greatest

instance (n : Int) : Decidable (Mem n) :=
  inferInstanceAs (Decidable (_ ∧ _))

/-- The counter nearest to a whole number. -/
def clamp (n : Int) : Int := max least (min greatest n)

/-- The sum, stopped at the edges. -/
def add (a b : Int) : Int := clamp (a + b)

/-- The difference, stopped at the edges. -/
def sub (a b : Int) : Int := clamp (a - b)

/-- The product, stopped at the edges. -/
def mul (a b : Int) : Int := clamp (a * b)

/-- A count as a counter, stopped at the ceiling. -/
def ofNat (n : Nat) : Int := min greatest n

theorem mem_clamp (n : Int) : Mem (clamp n) := by
  unfold Mem clamp least greatest
  omega

theorem clamp_of_mem {n : Int} (h : Mem n) : clamp n = n := by
  unfold Mem least greatest at h
  unfold clamp least greatest
  omega

theorem clamp_le_clamp {m n : Int} (h : m ≤ n) : clamp m ≤ clamp n := by
  unfold clamp least greatest
  omega

theorem mem_ofNat (n : Nat) : Mem (ofNat n) := by
  unfold Mem ofNat least greatest
  omega

end Counter

/-- Division that rounds up for a numerator of at least zero and a
positive divisor. Elsewhere the quotient goes toward zero, and one more
is added when a positive remainder is left. -/
def ceilDiv (n d : Int) : Int :=
  if 0 < n.tmod d then n.tdiv d + 1 else n.tdiv d

/-- The sum of whole numbers, which need not be a counter. -/
def sumOf (ns : List Int) : Int := ns.foldr (· + ·) 0

end MechBattle
