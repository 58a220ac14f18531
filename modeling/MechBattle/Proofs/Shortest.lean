/-
Lines are shortest ways.

Rounding puts each point of a line into a hex less than one hex away from it, along
every axis. The coordinates of the step between two hexes are no longer than their
distance, so that hex is as far from one end as the point has come, and as far from
the other end as is left to go. Whether the hexes found for two points in a row also
touch each other depends on the fractions: they are cut finely enough as long as the
square of the distance is no more than `2³²`.

* `Hex.distance_le_iff`: the distance of two hexes is the longest coordinate of the
  step between them, with `distance_triangle`;
* `Hex.onLine_near`: a hex of a line is less than one hex off along any axis;
* `Hex.distance_onLine`: how far it is from both ends;
* `Hex.distance_onLine_succ`: two hexes in a row are neighbours;
* `lineTo_shortest`: what a line is made of, from its start to its end.
-/
import Mathlib.Tactic
import MechBattle.Proofs.Line

namespace MechBattle

open Fraction

namespace Hex

variable {a b d : Hex} {i n t t' : Int}

/-! ### Distance by coordinates -/

lemma coord_sub (a b : Hex) (x : Axis) : (b - a).coord x = b.coord x - a.coord x := by
  cases x <;> simp only [coord, s, sub_q, sub_r]
  ring

/-- The distance of two hexes is the longest coordinate of the step between them. -/
lemma distance_le_iff : a.distance b ≤ n ↔ ∀ x, |(b - a).coord x| ≤ n := by
  constructor
  · intro h x
    rw [abs_le]
    cases x <;> simp only [distance, coord, s, sub_q, sub_r] at h ⊢ <;> omega
  · intro h
    have hq := abs_le.mp (h .q)
    have hr := abs_le.mp (h .r)
    have hs := abs_le.mp (h .s)
    simp only [distance, coord, s, sub_q, sub_r] at hq hr hs ⊢
    omega

lemma coord_le_distance (a b : Hex) (x : Axis) : |(b - a).coord x| ≤ a.distance b :=
  distance_le_iff.mp le_rfl x

lemma distance_triangle (a b c : Hex) : a.distance c ≤ a.distance b + b.distance c := by
  refine distance_le_iff.mpr fun x => ?_
  calc |(c - a).coord x| = |(b - a).coord x + (c - b).coord x| := by
        simp only [coord_sub]
        ring_nf
    _ ≤ |(b - a).coord x| + |(c - b).coord x| := abs_add_le _ _
    _ ≤ a.distance b + b.distance c :=
        add_le_add (coord_le_distance a b x) (coord_le_distance b c x)

/-! ### Straight rows -/

lemma coord_iterate_neighbor (a : Hex) (f : Facing) (k : Nat) (y : Axis) :
    ((·.neighbor f)^[k] a).coord y = a.coord y + k * f.step.coord y := by
  induction k with
  | zero => simp
  | succ k ih =>
      have hstep : ∀ h : Hex, (h.neighbor f).coord y = h.coord y + f.step.coord y := by
        intro h
        cases y <;> simp only [neighbor, coord, s, add_q, add_r]
        ring
      rw [Function.iterate_succ_apply', hstep, ih]
      push_cast
      ring

lemma distance_iterate_neighbor (a : Hex) {f : Facing} (hf : f.index < 6) (k : Nat) :
    a.distance ((·.neighbor f)^[k] a) = k := by
  have hq := coord_iterate_neighbor a f k .q
  have hr := coord_iterate_neighbor a f k .r
  simp only [coord] at hq hr
  rw [distance, hq, hr]
  obtain ⟨m⟩ := f
  have : m = 0 ∨ m = 1 ∨ m = 2 ∨ m = 3 ∨ m = 4 ∨ m = 5 := by
    simp only at hf
    omega
  rcases this with rfl | rfl | rfl | rfl | rfl | rfl <;> simp only [Facing.step] <;> omega

/-- A hex of the same row is reached across the same hexside again and again. -/
lemma exists_iterate_neighbor {x : Axis} (hx : b.coord x = a.coord x) :
    ∃ f : Facing, f.index < 6 ∧ b = (·.neighbor f)^[(a.distance b).toNat] a := by
  have hstep : ∃ f : Facing, f.index < 6 ∧ b.q = a.q + a.distance b * f.step.q ∧
      b.r = a.r + a.distance b * f.step.r := by
    have hcases : b.q = a.q + a.distance b * 0 ∧ b.r = a.r + a.distance b * -1 ∨
        b.q = a.q + a.distance b * 1 ∧ b.r = a.r + a.distance b * -1 ∨
        b.q = a.q + a.distance b * 1 ∧ b.r = a.r + a.distance b * 0 ∨
        b.q = a.q + a.distance b * 0 ∧ b.r = a.r + a.distance b * 1 ∨
        b.q = a.q + a.distance b * -1 ∧ b.r = a.r + a.distance b * 1 ∨
        b.q = a.q + a.distance b * -1 ∧ b.r = a.r + a.distance b * 0 := by
      cases x <;> simp only [coord, s, distance] at hx ⊢ <;> omega
    rcases hcases with h | h | h | h | h | h
    · exact ⟨⟨0⟩, by decide, h⟩
    · exact ⟨⟨1⟩, by decide, h⟩
    · exact ⟨⟨2⟩, by decide, h⟩
    · exact ⟨⟨3⟩, by decide, h⟩
    · exact ⟨⟨4⟩, by decide, h⟩
    · exact ⟨⟨5⟩, by decide, h⟩
  obtain ⟨f, hf, hq, hr⟩ := hstep
  have hn := Int.toNat_of_nonneg (distance_nonneg a b)
  refine ⟨f, hf, ext_coord .q ?_ ?_⟩
  · rwa [coord_iterate_neighbor, hn]
  · rwa [coord_iterate_neighbor, hn]

/-- Hexes one hex apart share a hexside. -/
lemma exists_neighbor (h : a.distance b = 1) :
    ∃ f : Facing, f.index < 6 ∧ b = a.neighbor f := by
  have hrow : ∃ x, b.coord x = a.coord x := by
    have hcases : b.q = a.q ∨ b.r = a.r ∨ -b.q - b.r = -a.q - a.r := by
      simp only [distance] at h
      omega
    rcases hcases with hq | hr | hs
    · exact ⟨.q, hq⟩
    · exact ⟨.r, hr⟩
    · exact ⟨.s, hs⟩
  obtain ⟨x, hx⟩ := hrow
  obtain ⟨f, hf, hb⟩ := exists_iterate_neighbor hx
  rw [h] at hb
  exact ⟨f, hf, hb⟩

/-! ### Hexes of a line -/

lemma Axis.eq_or_next (x y : Axis) : y = x ∨ y = x.next ∨ y = x.next.next := by
  cases x <;> cases y <;> decide

/-- Along the axis on which the step is longest the line is on the rows of hexes. -/
lemma coord_onLine_longest {x : Axis} (hfar : a.distance b < 2 ^ 30)
    (ht : Approx t i (a.distance b))
    (hx : (b - a).coord x = a.distance b ∨ (b - a).coord x = -a.distance b) :
    ((a.onLine (b - a) t).coord x - a.coord x) * a.distance b = (b - a).coord x * i := by
  rcases hx with hx | hx
  · rw [coord_onLine hfar ht (.inl ⟨hx, rfl⟩), hx]
    ring
  · rw [coord_onLine hfar ht (.inr ⟨hx, rfl⟩), hx]
    ring

/-- The point at the fraction `t` leans from the hex that is found for it by one hex
at most. -/
lemma lean_onLine {x : Axis} (hn : 0 ≤ n)
    (hx : ((a.onLine d t).coord x - a.coord x) * n = d.coord x * i) :
    |2 * (d.coord x.next * i - ((a.onLine d t).coord x.next - a.coord x.next) * n) * one +
        n * (axisNudge x.next - axisNudge x.next.next) +
        (d.coord x.next - d.coord x.next.next) * (n * t - i * one)| ≤ n * one := by
  have hle := (holds_containing (ofInt a.q + lineNudge + d.q * t)
    (ofInt a.r + lineNudge + d.r * t)).tilt_le x
  have htilt := tilt_onLine a hx.symm t ((a.onLine d t).coord x.next - a.coord x.next)
  rw [add_sub_cancel, add_sub_cancel] at htilt
  rw [← htilt, abs_mul, abs_of_nonneg hn]
  refine mul_le_mul_of_nonneg_left ?_ hn
  rwa [← Int.natCast_natAbs]

/-- Along the two axes other than the longest, a step is alike up to its length. -/
lemma slope_le {x : Axis} (hx : (b - a).coord x = a.distance b ∨ (b - a).coord x = -a.distance b) :
    |(b - a).coord x.next - (b - a).coord x.next.next| ≤ a.distance b := by
  have hnext := coord_le_distance a b x.next
  have hlast := coord_le_distance a b x.next.next
  have hsum := coord_next_next (b - a) x
  rw [abs_le] at *
  omega

/-- **A hex of a line is less than one hex off the line**, along any axis. -/
lemma onLine_near (hfar : a.distance b < 2 ^ 30) (ht : Approx t i (a.distance b)) (y : Axis) :
    |((a.onLine (b - a) t).coord y - a.coord y) * a.distance b - (b - a).coord y * i| <
      a.distance b := by
  obtain ⟨x, hx⟩ := exists_coord_eq_distance a b
  have hlongest := coord_onLine_longest hfar ht hx
  obtain ⟨hlo, hhi⟩ := ht
  have hn : 0 < a.distance b := by omega
  have hnext : |((a.onLine (b - a) t).coord x.next - a.coord x.next) * a.distance b -
      (b - a).coord x.next * i| < a.distance b := by
    have hlean := lean_onLine hn.le hlongest
    have hnudge : |axisNudge x.next - axisNudge x.next.next| ≤ 12882 := by
      cases x <;> decide
    have hcut : |((b - a).coord x.next - (b - a).coord x.next.next) *
        (a.distance b * t - i * one)| ≤ a.distance b * 2 ^ 30 := by
      rw [abs_mul]
      refine mul_le_mul (slope_le hx) ?_ (abs_nonneg _) hn.le
      rw [abs_le]
      omega
    have hpull : |a.distance b * (axisNudge x.next - axisNudge x.next.next)| ≤
        a.distance b * 12882 := by
      rw [abs_mul, abs_of_pos hn]
      exact mul_le_mul_of_nonneg_left hnudge hn.le
    simp only [abs_le, abs_lt, one] at *
    omega
  rcases x.eq_or_next y with rfl | rfl | rfl
  · rw [hlongest, sub_self, abs_zero]
    exact hn
  · exact hnext
  · -- the three coordinates add up to zero, so the last one is off by as much as the second
    have hflip : ((a.onLine (b - a) t).coord x.next.next - a.coord x.next.next) * a.distance b -
        (b - a).coord x.next.next * i =
        -(((a.onLine (b - a) t).coord x.next - a.coord x.next) * a.distance b -
          (b - a).coord x.next * i) := by
      rw [coord_next_next, coord_next_next a, coord_next_next (b - a)]
      linear_combination -hlongest
    rwa [hflip, abs_neg]

/-- Where the step is a smaller one repeated over the whole distance, the line repeats
it too. -/
lemma coord_onLine_of_repeated (hfar : a.distance b < 2 ^ 30) (ht : Approx t i (a.distance b))
    {y : Axis} {k : Int} (hy : (b - a).coord y = a.distance b * k) :
    (a.onLine (b - a) t).coord y = a.coord y + i * k := by
  have hnear := onLine_near hfar ht y
  have hoff : ((a.onLine (b - a) t).coord y - a.coord y) * a.distance b - (b - a).coord y * i =
      a.distance b * ((a.onLine (b - a) t).coord y - a.coord y - i * k) := by
    rw [hy]
    ring
  rw [hoff] at hnear
  have hn : a.distance b ≠ 0 := ((abs_nonneg _).trans_lt hnear).ne'
  have hzero := Int.eq_zero_of_abs_lt_dvd (dvd_mul_right _ _) hnear
  have := (mul_eq_zero.mp hzero).resolve_left hn
  omega

/-- **How far a hex of a line is from both ends**: as far as the point has come, and
as far as is left to go. -/
lemma distance_onLine (hfar : a.distance b < 2 ^ 30) (ht : Approx t i (a.distance b))
    (hi : 0 ≤ i) (hin : i ≤ a.distance b) :
    a.distance (a.onLine (b - a) t) = i ∧
      (a.onLine (b - a) t).distance b = a.distance b - i := by
  have hn : 0 < a.distance b := by
    obtain ⟨hlo, hhi⟩ := ht
    omega
  have hcome : a.distance (a.onLine (b - a) t) ≤ i := by
    refine distance_le_iff.mpr fun y => ?_
    have hnear := abs_lt.mp (onLine_near hfar ht y)
    have hlong := abs_le.mp (coord_le_distance a b y)
    rw [coord_sub, abs_le]
    constructor <;> nlinarith
  have hleft : (a.onLine (b - a) t).distance b ≤ a.distance b - i := by
    refine distance_le_iff.mpr fun y => ?_
    have hnear := abs_lt.mp (onLine_near hfar ht y)
    have hlong := abs_le.mp (coord_le_distance a b y)
    rw [coord_sub] at *
    rw [abs_le]
    constructor <;> nlinarith
  have := distance_triangle a (a.onLine (b - a) t) b
  omega

/-- Up to this distance the cuts of two fractions in a row are fine enough. -/
def chainReach : Int := 65536

/-- What two cuts in a row shift a line that is not straight is less than twice the unit
of fractions. -/
lemma cut_succ_lt {x : Axis} (hreach : a.distance b ≤ chainReach)
    (hx : (b - a).coord x = a.distance b ∨ (b - a).coord x = -a.distance b)
    (hnext : (b - a).coord x.next ≠ 0) (hlast : (b - a).coord x.next.next ≠ 0)
    (ht : Approx t i (a.distance b)) (ht' : Approx t' (i + 1) (a.distance b)) :
    |((b - a).coord x.next - (b - a).coord x.next.next) *
      (a.distance b * t' - (i + 1) * one - (a.distance b * t - i * one))| < 2 * one := by
  have hsum := coord_next_next (b - a) x
  have hslope := abs_le.mp (slope_le hx)
  obtain ⟨hlo, hhi⟩ := ht
  obtain ⟨hlo', hhi'⟩ := ht'
  have hn : 0 < a.distance b := by omega
  have hsteep : |(b - a).coord x.next - (b - a).coord x.next.next| ≤ a.distance b - 2 := by
    rw [abs_le]
    omega
  have hcut : |a.distance b * t' - (i + 1) * one - (a.distance b * t - i * one)| ≤
      2 * a.distance b := by
    rw [abs_le]
    omega
  rw [abs_mul]
  calc _ ≤ (a.distance b - 2) * (2 * a.distance b) :=
        mul_le_mul hsteep hcut (abs_nonneg _) ((abs_nonneg _).trans hsteep)
    _ < 2 * (chainReach * chainReach) := by
        rw [chainReach] at *
        nlinarith
    _ = 2 * one := rfl

/-- Of the whole numbers, only two are at most one away from a fraction between them. -/
lemma eq_of_abs_sub_mul_le {n y k : Int} (hlo : -n < y) (hhi : y < 0)
    (h : |y - k * n| ≤ n) : k = -1 ∨ k = 0 := by
  obtain ⟨hl, hr⟩ := abs_le.mp h
  have hn : 0 < n := by omega
  have hlt : k * n < 1 * n := by omega
  have hgt : -2 * n < k * n := by omega
  have := lt_of_mul_lt_mul_right hlt hn.le
  have := lt_of_mul_lt_mul_right hgt hn.le
  omega

/-- Of the two coordinates along which the step is not longest, one stays as it is from
hex to hex. -/
lemma coord_onLine_succ {x : Axis} (hreach : a.distance b ≤ chainReach)
    (hx : (b - a).coord x = a.distance b ∨ (b - a).coord x = -a.distance b)
    (ht : Approx t i (a.distance b)) (ht' : Approx t' (i + 1) (a.distance b)) :
    (a.onLine (b - a) t').coord x.next = (a.onLine (b - a) t).coord x.next ∨
      (a.onLine (b - a) t').coord x.next.next = (a.onLine (b - a) t).coord x.next.next := by
  have hfar : a.distance b < 2 ^ 30 := hreach.trans_lt (by decide)
  have hrow : ∀ y, (b - a).coord y = 0 →
      (a.onLine (b - a) t').coord y = (a.onLine (b - a) t).coord y := by
    intro y hy
    have hy : (b - a).coord y = a.distance b * 0 := by rw [hy, mul_zero]
    rw [coord_onLine_of_repeated hfar ht hy, coord_onLine_of_repeated hfar ht' hy]
    ring
  by_cases hnext : (b - a).coord x.next = 0
  · exact .inl (hrow _ hnext)
  by_cases hlast : (b - a).coord x.next.next = 0
  · exact .inr (hrow _ hlast)
  have hn : 0 < a.distance b := by
    obtain ⟨hlo, hhi⟩ := ht
    omega
  have hlong := coord_onLine_longest hfar ht hx
  have hlong' := coord_onLine_longest hfar ht' hx
  have hlean := abs_le.mp (lean_onLine hn.le hlong)
  have hlean' := abs_le.mp (lean_onLine hn.le hlong')
  have hcut := abs_lt.mp (cut_succ_lt hreach hx hnext hlast ht ht')
  -- the row found next is off by at most one hex from where the step leads
  have hmove : |(b - a).coord x.next - ((a.onLine (b - a) t').coord x.next -
      (a.onLine (b - a) t).coord x.next) * a.distance b| ≤ a.distance b := by
    rw [abs_le]
    simp only [one] at hlean hlean' hcut ⊢
    constructor <;> linarith
  have hbox := abs_le.mp (coord_le_distance a b x.next)
  have hbox' := abs_le.mp (coord_le_distance a b x.next.next)
  have hsum := coord_next_next (b - a) x
  rw [coord_next_next, coord_next_next (a.onLine (b - a) t)]
  rcases hx with hx | hx
  · rw [coord_onLine hfar ht (.inl ⟨hx, rfl⟩), coord_onLine hfar ht' (.inl ⟨hx, rfl⟩)]
    rcases eq_of_abs_sub_mul_le (by omega) (by omega) hmove with h | h <;> omega
  · rw [coord_onLine hfar ht (.inr ⟨hx, rfl⟩), coord_onLine hfar ht' (.inr ⟨hx, rfl⟩)]
    rw [← abs_neg, neg_sub', ← neg_mul] at hmove
    rcases eq_of_abs_sub_mul_le (by omega) (by omega) hmove with h | h <;> omega

/-- **Two hexes of a line in a row are neighbours.** -/
lemma distance_onLine_succ (hreach : a.distance b ≤ chainReach)
    (ht : Approx t i (a.distance b)) (ht' : Approx t' (i + 1) (a.distance b)) :
    (a.onLine (b - a) t).distance (a.onLine (b - a) t') = 1 := by
  have hfar : a.distance b < 2 ^ 30 := hreach.trans_lt (by decide)
  obtain ⟨x, hx⟩ := exists_coord_eq_distance a b
  have hlong : |(a.onLine (b - a) t').coord x - (a.onLine (b - a) t).coord x| = 1 := by
    rcases hx with hx | hx
    · rw [coord_onLine hfar ht (.inl ⟨hx, rfl⟩), coord_onLine hfar ht' (.inl ⟨hx, rfl⟩)]
      rw [add_sub_add_left_eq_sub, add_sub_cancel_left, abs_one]
    · rw [coord_onLine hfar ht (.inr ⟨hx, rfl⟩), coord_onLine hfar ht' (.inr ⟨hx, rfl⟩)]
      rw [add_sub_add_left_eq_sub, neg_sub_neg, sub_add_cancel_left, abs_neg, abs_one]
  have hstep := coord_onLine_succ hreach hx ht ht'
  refine le_antisymm (distance_le_iff.mpr fun y => ?_) ?_
  · have hsum := coord_next_next (a.onLine (b - a) t) x
    have hsum' := coord_next_next (a.onLine (b - a) t') x
    rw [coord_sub]
    rw [abs_eq (by decide)] at hlong
    rw [abs_le]
    rcases x.eq_or_next y with rfl | rfl | rfl <;> omega
  · rw [← hlong, ← coord_sub]
    exact coord_le_distance _ _ x

/-! ### Whole lines -/

lemma length_lineTo_eq (a b : Hex) : ((a.lineTo b).length : Int) = a.distance b := by
  rw [length_lineTo]
  exact Int.toNat_of_nonneg (distance_nonneg a b)

/-- How far each hex of a line is from its ends. -/
lemma distance_getElem_lineTo (hfar : a.distance b < 2 ^ 30) {i : Nat}
    (hi : i < (a.lineTo b).length) :
    a.distance (a.lineTo b)[i] = i + 1 ∧
      (a.lineTo b)[i].distance b = a.distance b - (i + 1) := by
  have hlen := length_lineTo_eq a b
  rw [getElem_lineTo hi]
  exact distance_onLine hfar (approx_floorPart (by omega)) (by omega) (by omega)

/-- Each hex of a line, the start included, is a neighbour of the next. -/
lemma isChain_lineTo (hreach : a.distance b ≤ chainReach) :
    (a :: a.lineTo b).IsChain fun h k => h.distance k = 1 := by
  have hfar : a.distance b < 2 ^ 30 := hreach.trans_lt (by decide)
  have hlen := length_lineTo_eq a b
  rw [List.isChain_iff_getElem]
  intro i hi
  rw [List.length_cons] at hi
  rw [List.getElem_cons_succ]
  cases i with
  | zero => exact (distance_getElem_lineTo hfar _).1
  | succ i =>
      rw [List.getElem_cons_succ, getElem_lineTo, getElem_lineTo]
      exact distance_onLine_succ hreach (approx_floorPart (by omega)) (approx_floorPart (by omega))

/-- Across the same hexside again and again, a line goes straight ahead. -/
lemma lineTo_iterate_neighbor (a : Hex) {f : Facing} (hf : f.index < 6) {n : Nat}
    (hn : n < 2 ^ 30) :
    a.lineTo ((·.neighbor f)^[n] a) =
      (List.range n).map fun i => (·.neighbor f)^[i + 1] a := by
  have hdist := distance_iterate_neighbor a hf n
  refine List.ext_getElem ?_ fun i hi _ => ?_
  · rw [length_lineTo, hdist, List.length_map, List.length_range, Int.toNat_natCast]
  · rw [length_lineTo, hdist, Int.toNat_natCast] at hi
    rw [getElem_lineTo, List.getElem_map, List.getElem_range]
    have hfar : a.distance ((·.neighbor f)^[n] a) < 2 ^ 30 := by omega
    have hcoord : ∀ y, (a.onLine ((·.neighbor f)^[n] a - a)
        (floorPart (i + 1 : Nat) (a.distance ((·.neighbor f)^[n] a)))).coord y =
        ((·.neighbor f)^[i + 1] a).coord y := by
      intro y
      rw [coord_iterate_neighbor]
      refine coord_onLine_of_repeated hfar (approx_floorPart (by omega)) ?_
      rw [coord_sub, coord_iterate_neighbor, hdist]
      ring
    exact ext_coord .q (hcoord _) (hcoord _)

end Hex

/-- **Lines are shortest ways.** The line to a hex has as many hexes as that hex is far
away, and each of them is one hex further from the start and one hex nearer to the end.
So it ends where it should, it never comes back to its start or to any hex, and from its
start on each hex shares a hexside with the next. Between hexes of one row, in any of the
three directions of rows, it keeps crossing the same hexside. Coordinates of up to `2¹³`
are no more than `2¹⁵` hexes apart. -/
theorem lineTo_shortest (a b : Hex) (hreach : a.distance b ≤ 2 ^ 16) :
    ((a.lineTo b).length : Int) = a.distance b ∧
      (∀ i (hi : i < (a.lineTo b).length), a.distance (a.lineTo b)[i] = i + 1 ∧
        (a.lineTo b)[i].distance b = a.distance b - (i + 1)) ∧
      (a ≠ b → (a.lineTo b).getLast? = some b) ∧ a ∉ a.lineTo b ∧ (a.lineTo b).Nodup ∧
      ((a :: a.lineTo b).IsChain fun h k => ∃ f : Facing, f.index < 6 ∧ k = h.neighbor f) ∧
      ∀ x, b.coord x = a.coord x → ∃ f : Facing, f.index < 6 ∧
        a.lineTo b = (List.range (a.distance b).toNat).map fun i => (·.neighbor f)^[i + 1] a := by
  have hlen := Hex.length_lineTo_eq a b
  have hfar : a.distance b < 2 ^ 30 := hreach.trans_lt (by decide)
  have hdist : ∀ i (hi : i < (a.lineTo b).length), a.distance (a.lineTo b)[i] = i + 1 ∧
      (a.lineTo b)[i].distance b = a.distance b - (i + 1) :=
    fun i hi => Hex.distance_getElem_lineTo hfar hi
  refine ⟨hlen, hdist, fun hne => ?_, fun hmem => ?_, ?_, ?_, ?_⟩
  · have hpos : a.distance b ≠ 0 := mt Hex.distance_eq_zero.mp hne
    have hnonneg := Hex.distance_nonneg a b
    have hlast := (hdist ((a.lineTo b).length - 1) (by omega)).2
    rw [List.getLast?_eq_getElem?, List.getElem?_eq_getElem (by omega)]
    refine congrArg some (Hex.distance_eq_zero.mp ?_)
    omega
  · obtain ⟨i, hi, heq⟩ := List.getElem_of_mem hmem
    have := (hdist i hi).1
    rw [heq, Hex.distance_eq_zero.mpr rfl] at this
    omega
  · rw [List.nodup_iff_injective_get]
    intro i j heq
    have hi := (hdist i i.isLt).1
    have hj := (hdist j j.isLt).1
    rw [← List.get_eq_getElem, heq, List.get_eq_getElem] at hi
    exact Fin.ext (by omega)
  · exact (Hex.isChain_lineTo hreach).imp fun _ _ h => Hex.exists_neighbor h
  · intro x hx
    obtain ⟨f, hf, hb⟩ := Hex.exists_iterate_neighbor hx
    refine ⟨f, hf, ?_⟩
    nth_rewrite 1 [hb]
    exact Hex.lineTo_iterate_neighbor a hf (by omega)

/-- From corner to corner of a board of `2¹⁴` columns and rows. -/
theorem lineTo_shortest_corners :
    (⟨-8192, -8192⟩ : Hex).distance ⟨8192, 8191⟩ ≤ 2 ^ 16 ∧
      (Hex.lineTo ⟨-8192, -8192⟩ ⟨8192, 8191⟩).length = 32767 ∧
      (Hex.lineTo ⟨-8192, -8192⟩ ⟨8192, 8191⟩).getLast? = some ⟨8192, 8191⟩ ∧
      (Hex.lineTo ⟨-8192, -8192⟩ ⟨8192, 8191⟩).Nodup ∧
      ((⟨-8192, -8192⟩ :: Hex.lineTo ⟨-8192, -8192⟩ ⟨8192, 8191⟩).IsChain fun h k =>
        ∃ f : Facing, f.index < 6 ∧ k = h.neighbor f) := by
  have hreach : (⟨-8192, -8192⟩ : Hex).distance ⟨8192, 8191⟩ ≤ 2 ^ 16 := by decide
  obtain ⟨hlen, -, hlast, -, hnodup, hchain, -⟩ := lineTo_shortest _ _ hreach
  refine ⟨hreach, ?_, hlast (by decide), hnodup, hchain⟩
  exact Int.ofNat_inj.mp (hlen.trans (by decide))

end MechBattle
