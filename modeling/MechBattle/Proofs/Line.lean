/-
Where the points of a line lie.

A line from `a` to `b` is sampled at fractions of the step from `a` to `b`,
cut downward. Seen from the other end, the same points are sampled at the
same fractions cut upward. Rounding puts a point into a hex whose cell holds
it. On the axis along which the step is longest this settles one coordinate,
and on the next axis there are two hexes left to decide between.

* `Fraction.floorPart`, `Fraction.ceilPart`, `Fraction.Approx`: a fraction cut
  downward, cut upward, and one that is as close as that;
* `Hex.onLine`: the hex at a fraction of a step, with `sample_eq_onLine` and
  `sample_reverse_eq_onLine` for the samples from both ends;
* `Hex.Holds` and `holds_containing`: a hex and the points of its cell, of
  which rounding finds one; `containing_of_tie` says what it does on one kind
  of border;
* `Hex.Axis` and `coord_onLine`: along the axis on which the step is longest, the
  points of a line advance hex by hex;
* `Hex.Along` and `Hex.balance`: what decides between the two hexes of a row that
  a point may lie in, with `onLine_congr` and `onLine_ne`.
-/
import Mathlib.Tactic
import MechBattle.Board

namespace MechBattle

/-! ### Fractions -/

namespace Fraction

/-- The fraction `i / n`, cut downward. -/
def floorPart (i n : Int) : Int := i * one / n

/-- The fraction `i / n`, cut upward. -/
def ceilPart (i n : Int) : Int := -(-(i * one) / n)

/-- A fraction that is less than its smallest unit away from `i / n`. -/
def Approx (t i n : Int) : Prop := -n < n * t - i * one ∧ n * t - i * one < n

variable {i n : Int}

lemma approx_floorPart (hn : 0 < n) : Approx (floorPart i n) i n := by
  have h := Int.mul_ediv_add_emod (i * one) n
  have hle := Int.emod_nonneg (i * one) hn.ne'
  have hlt := Int.emod_lt_of_pos (i * one) hn
  rw [Approx, floorPart]
  constructor <;> omega

lemma approx_ceilPart (hn : 0 < n) : Approx (ceilPart i n) i n := by
  have h := Int.mul_ediv_add_emod (-(i * one)) n
  have hle := Int.emod_nonneg (-(i * one)) hn.ne'
  have hlt := Int.emod_lt_of_pos (-(i * one)) hn
  rw [Approx, ceilPart, Int.mul_neg]
  constructor <;> omega

/-- A fraction that has to be cut is not met. -/
lemma floorPart_short (hn : 0 < n) (hcut : ¬ n ∣ i * one) :
    n * floorPart i n - i * one < 0 := by
  have h := Int.mul_ediv_add_emod (i * one) n
  have hpos := Int.emod_pos_of_not_dvd hcut
  rw [floorPart]
  omega

lemma ceilPart_past (hn : 0 < n) (hcut : ¬ n ∣ i * one) :
    0 < n * ceilPart i n - i * one := by
  have h := Int.mul_ediv_add_emod (-(i * one)) n
  have hpos := Int.emod_pos_of_not_dvd (mt Int.dvd_neg.mp hcut)
  rw [ceilPart, Int.mul_neg]
  omega

lemma floorPart_eq_ceilPart (h : n ∣ i * one) : floorPart i n = ceilPart i n := by
  rw [floorPart, ceilPart, Int.neg_ediv_of_dvd h, neg_neg]

lemma scaled_ofInt (x y e t : Int) : scaled (ofInt y + e - (ofInt x + e)) t = (y - x) * t := by
  have h : (ofInt y + e - (ofInt x + e)) * t = (y - x) * t * one := by
    simp only [ofInt]
    ring
  rw [scaled, h]
  exact Int.mul_fdiv_cancel _ (by decide)

lemma quotient_eq_floorPart (hi : 0 ≤ i) : quotient i n = floorPart i n := by
  rw [quotient, floorPart, Int.tdiv_eq_ediv_of_nonneg (by unfold one; omega)]

/-- What is left of a whole step is cut the other way. -/
lemma floorPart_sub (hn : 0 < n) : floorPart (n - i) n = one - ceilPart i n := by
  have h : (n - i) * one = -(i * one) + n * one := by ring
  rw [floorPart, ceilPart, h, Int.add_mul_ediv_left _ _ hn.ne']
  ring

/-- Rounding moves by half a hex at most. -/
lemma nearest_spec (a : Int) :
    -one ≤ 2 * (a - nearest a * one) ∧ 2 * (a - nearest a * one) ≤ one := by
  have h := gap_nearest a
  simp only [gap, ofInt] at h
  omega

/-- The three roundings of a point miss a hex by one at most. -/
lemma nearest_sum (q r : Int) :
    nearest q + nearest r + nearest (-q - r) = -1 ∨
      nearest q + nearest r + nearest (-q - r) = 0 ∨
      nearest q + nearest r + nearest (-q - r) = 1 := by
  have hq := nearest_spec q
  have hr := nearest_spec r
  have hs := nearest_spec (-q - r)
  simp only [one] at hq hr hs
  omega

end Fraction

open Fraction

lemma lineNudge_eq : lineNudge = 4294 := rfl

namespace Hex

/-! ### Samples from both ends -/

/-- The hex at a fraction of the step `d` from `a`, a nudge further on. -/
def onLine (a d : Hex) (t : Int) : Hex :=
  containing (ofInt a.q + lineNudge + d.q * t) (ofInt a.r + lineNudge + d.r * t)

lemma sample_eq_onLine (a b : Hex) {n i : Int} (hi : 0 ≤ i) :
    sample a b n i = a.onLine (b - a) (floorPart i n) := by
  simp only [sample, onLine, scaled_ofInt, quotient_eq_floorPart hi, sub_q, sub_r]

lemma getElem_lineTo {a b : Hex} {i : Nat} (hi : i < (a.lineTo b).length) :
    (a.lineTo b)[i] = a.onLine (b - a) (floorPart (i + 1 : Nat) (a.distance b)) := by
  simp only [lineTo, List.getElem_map, List.getElem_range]
  exact sample_eq_onLine a b (Int.natCast_nonneg _)

/-- Seen from the other end, a point is sampled at the fraction cut upward. -/
lemma sample_reverse_eq_onLine (a b : Hex) {n i : Int} (hn : 0 < n) (hi : i ≤ n) :
    sample b a n (n - i) = a.onLine (b - a) (ceilPart i n) := by
  have h : ∀ x y : Int, ofInt y + lineNudge + (x - y) * (one - ceilPart i n) =
      ofInt x + lineNudge + (y - x) * ceilPart i n := by
    intro x y
    simp only [ofInt]
    ring
  rw [sample_eq_onLine b a (by omega), floorPart_sub hn]
  simp only [onLine, sub_q, sub_r, h]

/-! ### Cells -/

/-- How far a fractional coordinate lies above a whole one. -/
def above (a m : Int) : Int := a - m * one

/-- The cell of a hex holds a point, which may lie on the border: from the
middle of the hex no two coordinates move apart by more than one hex. -/
structure Holds (h : Hex) (q r : Int) : Prop where
  qr : (above q h.q - above r h.r).natAbs ≤ one
  rs : (above r h.r - above (-q - r) h.s).natAbs ≤ one
  sq : (above (-q - r) h.s - above q h.q).natAbs ≤ one

/-- **Rounding finds a hex whose cell holds the point.** -/
lemma holds_containing (q r : Int) : (containing q r).Holds q r := by
  have hq := nearest_spec q
  have hr := nearest_spec r
  have hs := nearest_spec (-q - r)
  have hsum := nearest_sum q r
  simp only [containing]
  split
  · constructor <;> simp only [above, gap, ofInt, s, one] at * <;>
      rcases hsum with h | h | h <;> omega
  · split
    · constructor <;> simp only [above, gap, ofInt, s, one] at * <;>
        rcases hsum with h | h | h <;> omega
    · constructor <;> simp only [above, gap, ofInt, s, one] at * <;>
        rcases hsum with h | h | h <;> omega

/-- On the border between two hexes of one row of the third axis, just past
the middle on both axes, the second of the two is found. -/
lemma containing_of_tie {q r Q R : Int} (tie : above q Q = above r R)
    (past : one < 2 * above q Q) (near : 3 * above q Q < 2 * one) :
    containing q r = ⟨Q + 1, R⟩ := by
  simp only [above, one] at tie past near
  have hq : nearest q = Q + 1 := by
    unfold nearest one
    split <;> omega
  have hr : nearest r = R + 1 := by
    unfold nearest one
    split <;> omega
  have hs : nearest (-q - r) = -Q - R - 1 := by
    unfold nearest one
    split <;> omega
  simp only [containing, hq, hr, hs, gap, ofInt, one]
  rw [if_neg (by omega), if_pos (by omega), mk.injEq]
  omega

/-! ### Axes -/

/-- The axes along which the coordinates of hexes run. -/
inductive Axis where
  | q
  | r
  | s
  deriving DecidableEq

/-- The coordinate of a hex along an axis. -/
def coord (a : Hex) : Axis → Int
  | .q => a.q
  | .r => a.r
  | .s => a.s

/-- The coordinate of a fractional point along an axis. -/
def pointCoord (q r : Int) : Axis → Int
  | .q => q
  | .r => r
  | .s => -q - r

/-- What the nudge adds along an axis. -/
def axisNudge : Axis → Int
  | .q => lineNudge
  | .r => lineNudge
  | .s => -2 * lineNudge

/-- A coordinate less than a third of a hex away from a whole one rounds to it. -/
lemma Holds.coord_eq {h : Hex} {q r m : Int} (holds : h.Holds q r) (x : Axis)
    (near : 3 * (above (pointCoord q r x) m).natAbs < one) : h.coord x = m := by
  obtain ⟨hqr, hrs, hsq⟩ := holds
  cases x <;> simp only [above, s, one, coord, pointCoord] at * <;> omega

lemma pointCoord_onLine (a d : Hex) (t : Int) (x : Axis) :
    pointCoord (ofInt a.q + lineNudge + d.q * t) (ofInt a.r + lineNudge + d.r * t) x =
      ofInt (a.coord x) + axisNudge x + d.coord x * t := by
  cases x <;> simp only [pointCoord, coord, axisNudge, ofInt, s]
  ring

/-- Along an axis on which the step `d` is `n` hexes long, the point at the
fraction `i / n` is found `i` hexes further on, whichever way it is cut. -/
lemma coord_onLine {a d : Hex} {x : Axis} {t i n m : Int} (hn : n < 2 ^ 30)
    (ht : Approx t i n) (hd : d.coord x = n ∧ m = i ∨ d.coord x = -n ∧ m = -i) :
    (a.onLine d t).coord x = a.coord x + m := by
  refine (holds_containing _ _).coord_eq x ?_
  rw [pointCoord_onLine]
  obtain ⟨hlo, hhi⟩ := ht
  have hnudge : -8588 ≤ axisNudge x ∧ axisNudge x ≤ 8588 := by
    cases x <;> decide
  rcases hd with ⟨hd, rfl⟩ | ⟨hd, rfl⟩
  · rw [hd]
    simp only [above, ofInt, one] at *
    omega
  · rw [hd, Int.neg_mul]
    simp only [above, ofInt, one] at *
    omega

/-- On some axis the step between two hexes is as long as their distance. -/
lemma exists_coord_eq_distance (a b : Hex) :
    ∃ x, (b - a).coord x = a.distance b ∨ (b - a).coord x = -a.distance b := by
  have hmax : (b - a).q = a.distance b ∨ (b - a).q = -a.distance b ∨
      (b - a).r = a.distance b ∨ (b - a).r = -a.distance b ∨
      (b - a).s = a.distance b ∨ (b - a).s = -a.distance b := by
    simp only [distance, s, sub_q, sub_r]
    omega
  rcases hmax with h | h | h | h | h | h
  · exact ⟨.q, .inl h⟩
  · exact ⟨.q, .inr h⟩
  · exact ⟨.r, .inl h⟩
  · exact ⟨.r, .inr h⟩
  · exact ⟨.s, .inl h⟩
  · exact ⟨.s, .inr h⟩

/-! ### The next axis -/

/-- The axis after an axis, going round. -/
def Axis.next : Axis → Axis
  | .q => .r
  | .r => .s
  | .s => .q

/-- A hex is known by two of its coordinates. -/
lemma ext_coord {h k : Hex} (x : Axis) (hx : h.coord x = k.coord x)
    (hy : h.coord x.next = k.coord x.next) : h = k := by
  obtain ⟨q, r⟩ := h
  obtain ⟨q', r'⟩ := k
  cases x <;> simp only [Axis.next, coord, s, mk.injEq] at * <;> omega

/-- How far a point leans from one row of hexes to the next one: it lies
higher above `k` along the next axis than it does, along the one after it,
above the hex in row `m`. -/
def Axis.tilt (x : Axis) (q r m k : Int) : Int :=
  above (pointCoord q r x.next) k - above (pointCoord q r x.next.next) (-m - k)

/-- A point of the cell of a hex leans from it by one hex at most. -/
lemma Holds.tilt_le {h : Hex} {q r : Int} (holds : h.Holds q r) (x : Axis) :
    (x.tilt q r (h.coord x) (h.coord x.next)).natAbs ≤ one := by
  obtain ⟨hqr, hrs, hsq⟩ := holds
  cases x <;> simp only [Axis.tilt, Axis.next, above, s, one, coord, pointCoord] at * <;> omega

/-- A point that leans by less than one hex is in the row it leans from. -/
lemma Holds.coord_next_eq {h : Hex} {q r m k : Int} (holds : h.Holds q r) {x : Axis}
    (hx : h.coord x = m) (lean : (x.tilt q r m k).natAbs < one) : h.coord x.next = k := by
  have hle := holds.tilt_le x
  rw [hx] at hle
  simp only [Axis.tilt, above, one] at lean hle
  omega

lemma Axis.tilt_succ (x : Axis) (q r m k : Int) :
    x.tilt q r m (k + 1) = x.tilt q r m k - 2 * one := by
  simp only [tilt, above]
  ring

/-- The coordinates of a hex add up to zero. -/
lemma coord_next_next (a : Hex) (x : Axis) :
    a.coord x.next.next = -a.coord x - a.coord x.next := by
  cases x <;> simp only [Axis.next, coord, s] <;> ring

/-- How a point of a line leans from the hex that is `m` and `k` hexes away from
the start: by twice what the line is ahead of that hex, by the nudge, and by the
cut of the fraction. -/
lemma tilt_onLine (a : Hex) {d : Hex} {x : Axis} {i n m : Int} (hx : d.coord x * i = m * n)
    (t k : Int) :
    n * x.tilt (ofInt a.q + lineNudge + d.q * t) (ofInt a.r + lineNudge + d.r * t)
        (a.coord x + m) (a.coord x.next + k) =
      2 * (d.coord x.next * i - k * n) * one +
        n * (axisNudge x.next - axisNudge x.next.next) +
        (d.coord x.next - d.coord x.next.next) * (n * t - i * one) := by
  rw [Axis.tilt, pointCoord_onLine, pointCoord_onLine, coord_next_next a, coord_next_next d]
  simp only [above, ofInt]
  linear_combination one * hx

/-- Step `i` of `n` along a step `d`: it is `m` hexes along an axis on which
`d` is longest, and `f / n` of a hex past the first `k` on the next one. -/
structure Along (d : Hex) (x : Axis) (i n m k f : Int) : Prop where
  longest : d.coord x = n ∧ m = i ∨ d.coord x = -n ∧ m = -i
  next : d.coord x.next * i = k * n + f
  nonneg : 0 ≤ f
  lt : f < n
  slope : (d.coord x.next - d.coord x.next.next).natAbs ≤ n

/-- What decides between two hexes along the next axis: the half of a hex that
the point is past or short of, the nudge, and the cut of the fraction. -/
def balance (d : Hex) (x : Axis) (t i n f : Int) : Int :=
  (2 * f - n) * one + n * (axisNudge x.next - axisNudge x.next.next) +
    (d.coord x.next - d.coord x.next.next) * (n * t - i * one)

/-- Up to this distance cutting fractions never outweighs the nudge. -/
def nudgeReach : Int := 8589

namespace Along

variable {a d : Hex} {x : Axis} {t i n m k f : Int}

lemma tilt_eq (h : Along d x i n m k f) (a : Hex) (t : Int) :
    n * x.tilt (ofInt a.q + lineNudge + d.q * t) (ofInt a.r + lineNudge + d.r * t)
        (a.coord x + m) (a.coord x.next + k) = n * one + balance d x t i n f := by
  have hx : d.coord x * i = m * n := by
    rcases h.longest with ⟨hd, rfl⟩ | ⟨hd, rfl⟩ <;> rw [hd] <;> ring
  rw [tilt_onLine a hx, balance]
  linear_combination 2 * one * h.next

lemma coord_onLine (h : Along d x i n m k f) (hn : n ≤ nudgeReach) (ht : Approx t i n) :
    (a.onLine d t).coord x = a.coord x + m :=
  Hex.coord_onLine (by rw [nudgeReach] at hn; omega) ht h.longest

/-- Cutting a fraction shifts the balance by so much at most. -/
lemma cut_near (h : Along d x i n m k f) (hn : n ≤ nudgeReach) (ht : Approx t i n) :
    ((d.coord x.next - d.coord x.next.next) * (n * t - i * one)).natAbs ≤ 8588 * n := by
  have hslope := h.slope
  obtain ⟨hlo, hhi⟩ := ht
  have hδ : ((n * t - i * one).natAbs : Int) ≤ 8588 := by
    rw [nudgeReach] at hn
    omega
  rw [Int.natAbs_mul, Nat.cast_mul, mul_comm]
  exact mul_le_mul hδ hslope (Int.natCast_nonneg _) (by decide)

/-- The nudge and the cut shift the balance by less than half a hex. -/
lemma balance_near (h : Along d x i n m k f) (hn : n ≤ nudgeReach) (ht : Approx t i n) :
    (2 * f - n) * one - 21470 * n ≤ balance d x t i n f ∧
      balance d x t i n f ≤ (2 * f - n) * one + 21470 * n := by
  have hcut := h.cut_near hn ht
  have hnudge : -12882 ≤ axisNudge x.next - axisNudge x.next.next ∧
      axisNudge x.next - axisNudge x.next.next ≤ 12882 := by
    cases x <;> decide
  have hn₀ : 0 < n := lt_of_le_of_lt h.nonneg h.lt
  have hlo : -12882 * n ≤ n * (axisNudge x.next - axisNudge x.next.next) := by nlinarith
  have hhi : n * (axisNudge x.next - axisNudge x.next.next) ≤ 12882 * n := by nlinarith
  rw [balance]
  omega

/-- Short of the balance, the first of the two hexes is found. -/
lemma coord_next_of_neg (h : Along d x i n m k f) (hn : n ≤ nudgeReach) (ht : Approx t i n)
    (short : balance d x t i n f < 0) : (a.onLine d t).coord x.next = a.coord x.next + k := by
  have hn₀ : 0 < n := lt_of_le_of_lt h.nonneg h.lt
  have htilt := h.tilt_eq a t
  obtain ⟨hnear, -⟩ := h.balance_near hn ht
  refine (holds_containing _ _).coord_next_eq (h.coord_onLine hn ht) ?_
  generalize x.tilt _ _ _ _ = tilt at htilt ⊢
  have hf := h.nonneg
  have hhi : tilt < one := by nlinarith
  have hlo : -one < tilt := by
    simp only [one] at *
    nlinarith
  omega

/-- Past the balance, it is the second. -/
lemma coord_next_of_pos (h : Along d x i n m k f) (hn : n ≤ nudgeReach) (ht : Approx t i n)
    (past : 0 < balance d x t i n f) : (a.onLine d t).coord x.next = a.coord x.next + k + 1 := by
  have hn₀ : 0 < n := lt_of_le_of_lt h.nonneg h.lt
  have htilt := h.tilt_eq a t
  obtain ⟨-, hnear⟩ := h.balance_near hn ht
  refine (holds_containing _ _).coord_next_eq (h.coord_onLine hn ht) ?_
  rw [Axis.tilt_succ]
  generalize x.tilt _ _ _ _ = tilt at htilt ⊢
  have hf := h.lt
  have hlo : one < tilt := by nlinarith
  have hhi : tilt < 3 * one := by
    simp only [one] at *
    nlinarith
  omega

/-- Two fractions whose balances fall to the same side find the same hex. -/
lemma onLine_congr (h : Along d x i n m k f) (hn : n ≤ nudgeReach) {t' : Int}
    (ht : Approx t i n) (ht' : Approx t' i n)
    (same : balance d x t i n f < 0 ∧ balance d x t' i n f < 0 ∨
      0 < balance d x t i n f ∧ 0 < balance d x t' i n f) :
    a.onLine d t = a.onLine d t' := by
  refine ext_coord x ?_ ?_
  · rw [h.coord_onLine hn ht, h.coord_onLine hn ht']
  · rcases same with ⟨h₁, h₂⟩ | ⟨h₁, h₂⟩
    · rw [h.coord_next_of_neg hn ht h₁, h.coord_next_of_neg hn ht' h₂]
    · rw [h.coord_next_of_pos hn ht h₁, h.coord_next_of_pos hn ht' h₂]

/-- Two fractions whose balances fall to different sides find different hexes. -/
lemma onLine_ne (h : Along d x i n m k f) (hn : n ≤ nudgeReach) {t' : Int}
    (ht : Approx t i n) (ht' : Approx t' i n) (short : balance d x t i n f < 0)
    (past : 0 < balance d x t' i n f) : a.onLine d t ≠ a.onLine d t' := by
  intro heq
  have h₁ := h.coord_next_of_neg (a := a) hn ht short
  have h₂ := h.coord_next_of_pos (a := a) hn ht' past
  rw [heq] at h₁
  omega

/-- Off the middle between two hexes the half decides, on the middle the
nudge, unless it is the same along both axes. -/
lemma onLine_eq_of_decided (h : Along d x i n m k f) (hn : n ≤ nudgeReach) {t' : Int}
    (ht : Approx t i n) (ht' : Approx t' i n) (decided : 2 * f = n → x ≠ .s) :
    a.onLine d t = a.onLine d t' := by
  refine h.onLine_congr hn ht ht' ?_
  have hn₀ : 0 < n := lt_of_le_of_lt h.nonneg h.lt
  by_cases hmid : 2 * f = n
  · have hcut := h.cut_near hn ht
    have hcut' := h.cut_near hn ht'
    have hf : 2 * f - n = 0 := by omega
    simp only [balance, hf, Int.zero_mul, Int.zero_add]
    cases x with
    | q =>
        right
        simp only [Axis.next, axisNudge, lineNudge_eq] at *
        omega
    | r =>
        left
        simp only [Axis.next, axisNudge, lineNudge_eq] at *
        omega
    | s => exact absurd rfl (decided hmid)
  · obtain ⟨hlo, hhi⟩ := h.balance_near hn ht
    obtain ⟨hlo', hhi'⟩ := h.balance_near hn ht'
    rw [nudgeReach] at hn
    simp only [one] at *
    rcases Int.lt_or_gt_of_ne hmid with hlt | hgt
    · left
      omega
    · right
      omega

/-- On the middle between two hexes that lie level with the nudge, the cut of
the fraction decides. -/
lemma balance_of_level (mid : 2 * f = n) :
    balance d .s t i n f = (d.q - d.r) * (n * t - i * one) := by
  have hf : 2 * f - n = 0 := by omega
  simp only [balance, hf, Axis.next, axisNudge, coord]
  ring

/-- Along the diagonal that runs on the border of hexes, the cut decides
nothing either: every fraction finds the same hex. -/
lemma onLine_of_diagonal (h : Along d .s i n m k f) (hn : n ≤ nudgeReach) (ht : Approx t i n)
    (mid : 2 * f = n) (diagonal : d.q = d.r) :
    a.onLine d t = ⟨a.q + k + 1, a.r + k⟩ := by
  have hn₀ : 0 < n := lt_of_le_of_lt h.nonneg h.lt
  have hy : d.q * i = k * n + f := h.next
  have hd : d.q + d.q = n ∨ d.q + d.q = -n := by
    rcases h.longest with ⟨hs, -⟩ | ⟨hs, -⟩ <;> simp only [coord, s] at hs <;> omega
  obtain ⟨hlo, hhi⟩ := ht
  have habove : 2 * above (ofInt a.q + lineNudge + d.q * t) (a.q + k) =
      one + 2 * lineNudge + (n * t - i * one) ∨
      2 * above (ofInt a.q + lineNudge + d.q * t) (a.q + k) =
      one + 2 * lineNudge - (n * t - i * one) := by
    simp only [above, ofInt]
    rcases hd with hd | hd
    · left
      have hi : n * (2 * (d.q * t) - 2 * k * one) = n * (one + (n * t - i * one)) := by
        linear_combination (n * t - i * one) * hd + 2 * one * hy + one * mid
      have := Int.eq_of_mul_eq_mul_left hn₀.ne' hi
      linear_combination this
    · right
      have hi : n * (2 * (d.q * t) - 2 * k * one) = n * (one - (n * t - i * one)) := by
        linear_combination (n * t - i * one) * hd + 2 * one * hy + one * mid
      have := Int.eq_of_mul_eq_mul_left hn₀.ne' hi
      linear_combination this
  refine containing_of_tie ?_ ?_ ?_
  · simp only [above, ofInt, diagonal]
    ring
  · rw [nudgeReach] at hn
    rw [lineNudge_eq] at habove ⊢
    omega
  · rw [nudgeReach] at hn
    simp only [lineNudge_eq, one] at *
    omega

end Along

end Hex

end MechBattle
