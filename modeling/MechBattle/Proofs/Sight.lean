/-
When two units see each other.

The rule on what hides a unit is the same from both ends. The line is not: its
points are cut downward from the end it starts at. Where it runs exactly
between two hexes, the nudge is there to decide, but it moves the line equally
far along both columns and rows, so a border between two neighbours in the
third row is left to the cut, and each end then looks past another hex.

* `Hex.between`: the hexes that can hide two units from each other, with
  `mem_between` and `mem_between_reverse` for the two directions;
* `Board.sees_ridge`: a single ridge hides two units iff the line passes it;
* `Hex.Contested`: a step that crosses such a border at a cut fraction;
* `sees_comm_iff`: sight is mutual on every board iff the line passes the same
  hexes both ways, which is iff the step is not contested.
-/
import Mathlib.Tactic
import MechBattle.Proofs.Line

namespace MechBattle

open Fraction

namespace Hex

variable {a b h : Hex}

/-! ### The hexes in between -/

/-- The hexes strictly between two hexes, on the line from the first of them. -/
def between (a b : Hex) : List Hex := (a.lineTo b).dropLast

/-- The line from the first hex is cut downward. -/
lemma between_eq (a b : Hex) :
    a.between b = (List.range ((a.distance b).toNat - 1)).map fun i : Nat =>
      a.onLine (b - a) (floorPart (i + 1 : Nat) (a.distance b)) := by
  rw [between]
  refine List.ext_getElem ?_ fun i hi _ => ?_
  · rw [List.length_dropLast, length_lineTo, List.length_map, List.length_range]
  · rw [List.getElem_dropLast, List.getElem_map, List.getElem_range, getElem_lineTo]

/-- Seen from its start, the line from the second hex is cut upward. -/
lemma between_reverse (a b : Hex) :
    (b.between a).reverse = (List.range ((a.distance b).toNat - 1)).map fun i : Nat =>
      a.onLine (b - a) (ceilPart (i + 1 : Nat) (a.distance b)) := by
  have hlen : (b.between a).length = (a.distance b).toNat - 1 := by
    rw [between, List.length_dropLast, length_lineTo, distance_comm]
  refine List.ext_getElem ?_ fun i hi _ => ?_
  · rw [List.length_reverse, hlen, List.length_map, List.length_range]
  · rw [List.length_reverse, hlen] at hi
    rw [List.getElem_reverse]
    simp only [between, List.getElem_dropLast, lineTo, List.getElem_map, List.getElem_range]
    rw [← sample_reverse_eq_onLine a b (by omega) (by omega), distance_comm b a]
    congr 1
    rw [List.length_dropLast, List.length_map, List.length_range]
    omega

lemma mem_between :
    h ∈ a.between b ↔
      ∃ i, 0 < i ∧ i < a.distance b ∧ a.onLine (b - a) (floorPart i (a.distance b)) = h := by
  rw [between_eq, List.mem_map]
  constructor
  · rintro ⟨i, hi, rfl⟩
    rw [List.mem_range] at hi
    exact ⟨(i + 1 : Nat), by omega, by omega, rfl⟩
  · rintro ⟨i, hi, hlt, rfl⟩
    have hcast : ((i - 1).toNat + 1 : Nat) = i := by omega
    exact ⟨(i - 1).toNat, List.mem_range.mpr (by omega), by rw [hcast]⟩

lemma mem_between_reverse :
    h ∈ b.between a ↔
      ∃ i, 0 < i ∧ i < a.distance b ∧ a.onLine (b - a) (ceilPart i (a.distance b)) = h := by
  rw [← List.mem_reverse, between_reverse, List.mem_map]
  constructor
  · rintro ⟨i, hi, rfl⟩
    rw [List.mem_range] at hi
    exact ⟨(i + 1 : Nat), by omega, by omega, rfl⟩
  · rintro ⟨i, hi, hlt, rfl⟩
    have hcast : ((i - 1).toNat + 1 : Nat) = i := by omega
    exact ⟨(i - 1).toNat, List.mem_range.mpr (by omega), by rw [hcast]⟩

/-- Step `i` from `a` to `b` finds the same hex whichever way it is cut. -/
def Steady (a b : Hex) (i : Int) : Prop :=
  a.onLine (b - a) (floorPart i (a.distance b)) = a.onLine (b - a) (ceilPart i (a.distance b))

/-- The line passes the same hexes both ways iff every step between is steady. -/
lemma between_eq_reverse_iff :
    b.between a = (a.between b).reverse ↔ ∀ i, 0 < i → i < a.distance b → Steady a b i := by
  rw [← List.reverse_eq_iff, between_reverse, between_eq, List.map_inj_left]
  constructor
  · intro heq i hi hlt
    have hcast : ((i - 1).toNat + 1 : Nat) = i := by omega
    have hi := heq (i - 1).toNat (List.mem_range.mpr (by omega))
    rw [hcast] at hi
    exact hi.symm
  · intro steady i hi
    rw [List.mem_range] at hi
    exact (steady (i + 1 : Nat) (by omega) (by omega)).symm

/-- No two steps of a line find one hex, however they are cut. -/
lemma onLine_inj (hfar : a.distance b < 2 ^ 30) {t t' i j : Int}
    (ht : Approx t i (a.distance b)) (ht' : Approx t' j (a.distance b))
    (heq : a.onLine (b - a) t = a.onLine (b - a) t') : i = j := by
  obtain ⟨x, hd | hd⟩ := exists_coord_eq_distance a b
  · have hi := coord_onLine (a := a) hfar ht (.inl ⟨hd, rfl⟩)
    have hj := coord_onLine (a := a) hfar ht' (.inl ⟨hd, rfl⟩)
    rw [heq] at hi
    omega
  · have hi := coord_onLine (a := a) hfar ht (.inr ⟨hd, rfl⟩)
    have hj := coord_onLine (a := a) hfar ht' (.inr ⟨hd, rfl⟩)
    rw [heq] at hi
    omega

/-- A step between the ends finds neither of them. -/
lemma onLine_ne_ends (hfar : a.distance b < 2 ^ 30) {t i : Int} (hi : 0 < i)
    (hlt : i < a.distance b) (ht : Approx t i (a.distance b)) :
    a.onLine (b - a) t ≠ a ∧ a.onLine (b - a) t ≠ b := by
  have hb : ∀ x, b.coord x = a.coord x + (b - a).coord x := by
    intro x
    cases x <;> simp only [coord, s, sub_q, sub_r] <;> ring
  obtain ⟨x, hd | hd⟩ := exists_coord_eq_distance a b
  · have hx := coord_onLine (a := a) hfar ht (.inl ⟨hd, rfl⟩)
    constructor <;> intro heq <;> rw [heq] at hx
    · omega
    · rw [hb, hd] at hx
      omega
  · have hx := coord_onLine (a := a) hfar ht (.inr ⟨hd, rfl⟩)
    constructor <;> intro heq <;> rw [heq] at hx
    · omega
    · rw [hb, hd] at hx
      omega

end Hex

/-! ### What hides a unit -/

namespace Board

variable {a b h : Hex}

lemma sees_eq (board : Board) (a b : Hex) :
    board.sees a b =
      (((a.between b).map board.ground).all
          (fun g => decide (g.elevation ≤ board.sightCeiling a b)) &&
        decide ((((a.between b).map board.ground).map fun g => g.terrain.density).sum <
          densityLimit)) := rfl

lemma sightCeiling_comm (board : Board) (a b : Hex) :
    board.sightCeiling a b = board.sightCeiling b a := max_comm _ _

/-- The rule does not tell one end from the other. -/
lemma sees_comm_of_between (board : Board) (heq : b.between a = (a.between b).reverse) :
    board.sees a b = board.sees b a := by
  rw [sees_eq, sees_eq, heq, sightCeiling_comm, List.map_reverse, List.all_reverse,
    List.map_reverse, List.sum_reverse]

/-- A board that is clear and level but for one ridge. -/
def ridge (h : Hex) : Board := empty.lay h ⟨.clear, 2⟩

lemma ground_ridge (h k : Hex) : (ridge h).ground k = ⟨.clear, if h = k then 2 else 0⟩ := by
  rw [ridge, ground_lay, ground_empty]
  split <;> rfl

/-- **A ridge hides two units iff the line passes it.** -/
lemma sees_ridge (ha : h ≠ a) (hb : h ≠ b) : (ridge h).sees a b = true ↔ h ∉ a.between b := by
  have hceiling : (ridge h).sightCeiling a b = 1 := by
    rw [sightCeiling, ground_ridge, ground_ridge, if_neg ha, if_neg hb]
    rfl
  have hdensity :
      (((a.between b).map (ridge h).ground).map fun g => g.terrain.density).sum = 0 := by
    refine List.sum_eq_zero fun x hx => ?_
    rw [List.map_map] at hx
    obtain ⟨k, -, rfl⟩ := List.mem_map.mp hx
    rw [Function.comp_apply, ground_ridge]
    rfl
  have hpass : ∀ k, ((ridge h).ground k).elevation ≤ 1 ↔ h ≠ k := by
    intro k
    rw [ground_ridge]
    by_cases hk : h = k <;> simp [hk]
  rw [sees_eq, hdensity, hceiling]
  simp only [densityLimit, List.all_map, Function.comp_def, hpass, Bool.and_eq_true,
    List.all_eq_true, decide_eq_true_eq]
  constructor
  · rintro ⟨hall, -⟩ hmem
    exact hall h hmem rfl
  · intro hmem
    refine ⟨fun k hk heq => hmem (heq ▸ hk), by decide⟩

/-- A ridge at a step that is not steady hides `b` from `a`, but not `a` from `b`. -/
lemma sees_ridge_of_not_steady (hfar : a.distance b < 2 ^ 30) {i : Int} (hi : 0 < i)
    (hlt : i < a.distance b) (hst : ¬ a.Steady b i) :
    (ridge (a.onLine (b - a) (floorPart i (a.distance b)))).sees a b = false ∧
      (ridge (a.onLine (b - a) (floorPart i (a.distance b)))).sees b a = true := by
  have hn : 0 < a.distance b := by omega
  obtain ⟨ha, hb⟩ := Hex.onLine_ne_ends hfar hi hlt (approx_floorPart hn)
  constructor
  · rw [← Bool.not_eq_true, sees_ridge ha hb, not_not]
    exact Hex.mem_between.mpr ⟨i, hi, hlt, rfl⟩
  · rw [sees_ridge hb ha, Hex.mem_between_reverse]
    rintro ⟨j, -, -, heq⟩
    obtain rfl := Hex.onLine_inj hfar (approx_ceilPart hn) (approx_floorPart hn) heq
    exact hst heq.symm

/-- **Sight is mutual iff the line passes the same hexes both ways.** -/
lemma sees_comm_iff_between (hfar : a.distance b < 2 ^ 30) :
    (∀ board : Board, board.sees a b = board.sees b a) ↔
      b.between a = (a.between b).reverse := by
  constructor
  · intro hcomm
    rw [Hex.between_eq_reverse_iff]
    intro i hi hlt
    by_contra hst
    obtain ⟨hhidden, hseen⟩ := sees_ridge_of_not_steady hfar hi hlt hst
    rw [hcomm, hseen] at hhidden
    exact absurd hhidden (by decide)
  · intro heq board
    exact sees_comm_of_between board heq

end Board

/-! ### Contested borders -/

namespace Hex

variable {a b d : Hex} {i n : Int}

lemma exists_along {x : Axis} (hn : 0 < n) (hd : d.coord x = n ∨ d.coord x = -n)
    (slope : (d.coord x.next - d.coord x.next.next).natAbs ≤ n) (i : Int) :
    ∃ m, Along d x i n m (d.coord x.next * i / n) (d.coord x.next * i % n) := by
  have hdiv : d.coord x.next * i = d.coord x.next * i / n * n + d.coord x.next * i % n := by
    rw [mul_comm (_ / n)]
    exact (Int.mul_ediv_add_emod _ _).symm
  have hlo := Int.emod_nonneg (d.coord x.next * i) hn.ne'
  have hhi := Int.emod_lt_of_pos (d.coord x.next * i) hn
  rcases hd with hd | hd
  · exact ⟨i, .inl ⟨hd, rfl⟩, hdiv, hlo, hhi, slope⟩
  · exact ⟨-i, .inr ⟨hd, rfl⟩, hdiv, hlo, hhi, slope⟩

/-- A step that does not run between columns and rows alike is longest along one
of the first two axes. -/
lemma exists_longest (h : (b - a).q * (b - a).r ≤ 0) :
    ∃ x, x ≠ .s ∧ ((b - a).coord x = a.distance b ∨ (b - a).coord x = -a.distance b) ∧
      ((b - a).coord x.next - (b - a).coord x.next.next).natAbs ≤ a.distance b := by
  have hsigns : 0 ≤ (b - a).q ∧ (b - a).r ≤ 0 ∨ (b - a).q ≤ 0 ∧ 0 ≤ (b - a).r :=
    mul_nonpos_iff.mp h
  simp only [sub_q, sub_r] at hsigns
  rcases le_total (b.q - a.q).natAbs (b.r - a.r).natAbs with hle | hle
  · refine ⟨.r, by decide, ?_, ?_⟩ <;>
      simp only [Axis.next, coord, s, sub_q, sub_r, distance] <;> omega
  · refine ⟨.q, by decide, ?_, ?_⟩ <;>
      simp only [Axis.next, coord, s, sub_q, sub_r, distance] <;> omega

/-- A step along columns and rows alike is longest along the third axis. -/
lemma longest_third (h : 0 < (b - a).q * (b - a).r) :
    ((b - a).coord .s = a.distance b ∨ (b - a).coord .s = -a.distance b) ∧
      ((b - a).coord .q - (b - a).coord .r).natAbs ≤ a.distance b := by
  have hsigns : 0 < (b - a).q ∧ 0 < (b - a).r ∨ (b - a).q < 0 ∧ (b - a).r < 0 :=
    mul_pos_iff.mp h
  simp only [sub_q, sub_r] at hsigns
  simp only [coord, s, sub_q, sub_r, distance]
  omega

lemma steady_of_nonpos (h : (b - a).q * (b - a).r ≤ 0) (hn : 0 < a.distance b)
    (hreach : a.distance b ≤ nudgeReach) : Steady a b i := by
  obtain ⟨x, hx, hd, slope⟩ := exists_longest h
  obtain ⟨m, along⟩ := exists_along hn hd slope i
  exact along.onLine_eq_of_decided hreach (approx_floorPart hn) (approx_ceilPart hn)
    fun _ => hx

/-- A step along columns and rows alike passes the middle between two hexes,
at a fraction that has to be cut. -/
structure Torn (d : Hex) (i n : Int) : Prop where
  slanted : d.q ≠ d.r
  middle : 2 * (d.q * i % n) = n
  cut : ¬ n ∣ i * one

lemma steady_iff_not_torn (h : 0 < (b - a).q * (b - a).r) (hn : 0 < a.distance b)
    (hreach : a.distance b ≤ nudgeReach) : Steady a b i ↔ ¬ (b - a).Torn i (a.distance b) := by
  obtain ⟨hd, slope⟩ := longest_third h
  obtain ⟨m, along⟩ := exists_along (x := .s) hn hd slope i
  have hfloor := approx_floorPart (i := i) hn
  have hceil := approx_ceilPart (i := i) hn
  constructor
  · intro steady torn
    have hshort := floorPart_short hn torn.cut
    have hpast := ceilPart_past hn torn.cut
    have hlevel : ∀ t, balance (b - a) .s t i (a.distance b) ((b - a).q * i % a.distance b) =
        ((b - a).q - (b - a).r) * (a.distance b * t - i * one) :=
      fun t => Along.balance_of_level torn.middle
    -- one cut falls short of the middle and the other past it, on either slant
    rcases lt_or_gt_of_ne torn.slanted with hlt | hgt
    · refine along.onLine_ne hreach hceil hfloor ?_ ?_ steady.symm
      · exact lt_of_eq_of_lt (hlevel _) (mul_neg_of_neg_of_pos (by omega) hpast)
      · exact lt_of_lt_of_eq (mul_pos_of_neg_of_neg (by omega) hshort) (hlevel _).symm
    · refine along.onLine_ne hreach hfloor hceil ?_ ?_ steady
      · exact lt_of_eq_of_lt (hlevel _) (mul_neg_of_pos_of_neg (by omega) hshort)
      · exact lt_of_lt_of_eq (mul_pos (by omega) hpast) (hlevel _).symm
  · intro htorn
    by_cases hmid : 2 * ((b - a).q * i % a.distance b) = a.distance b
    · by_cases hcut : a.distance b ∣ i * one
      · rw [Steady, floorPart_eq_ceilPart hcut]
      · have hdiag : (b - a).q = (b - a).r := by
          by_contra hne
          exact htorn ⟨hne, hmid, hcut⟩
        rw [Steady, along.onLine_of_diagonal hreach hfloor hmid hdiag,
          along.onLine_of_diagonal hreach hceil hmid hdiag]
    · exact along.onLine_eq_of_decided hreach hfloor hceil fun h => absurd h hmid

/-- A step that runs along columns and rows alike, but not evenly, and meets
the border between two hexes in its middle at a fraction that has to be cut:
what is left of it without the common divisor is odd both ways, and that
divisor is no power of two. -/
structure Contested (d : Hex) : Prop where
  alike : 0 < d.q * d.r
  slanted : d.q ≠ d.r
  q_odd : Odd (d.q / Int.gcd d.q d.r)
  r_odd : Odd (d.r / Int.gcd d.q d.r)
  gcd_ne : ∀ k, Int.gcd d.q d.r ≠ 2 ^ k

lemma middle_iff (hn : 0 < n) (y : Int) : 2 * (y % n) = n ↔ ∃ k, 2 * y = (2 * k + 1) * n := by
  constructor
  · intro h
    have hdiv := Int.mul_ediv_add_emod y n
    exact ⟨y / n, by linear_combination h - 2 * hdiv⟩
  · rintro ⟨k, hk⟩
    calc 2 * (y % n) = 2 * y % (2 * n) := (Int.mul_emod_mul_of_pos _ _ (by decide)).symm
      _ = (n + 2 * n * k) % (2 * n) := by rw [hk]; ring_nf
      _ = n % (2 * n) := Int.add_mul_emod_self_left _ _ _
      _ = n := Int.emod_eq_of_lt hn.le (by omega)

/-- A step is a multiple of one without a common divisor. -/
lemma exists_reduced (alike : 0 < d.q * d.r) :
    0 < Int.gcd d.q d.r ∧
      ∃ u v, d.q = u * Int.gcd d.q d.r ∧ d.r = v * Int.gcd d.q d.r ∧ IsCoprime u v ∧
        d.q / Int.gcd d.q d.r = u ∧ d.r / Int.gcd d.q d.r = v := by
  have hq : d.q ≠ 0 := left_ne_zero_of_mul alike.ne'
  have hg : 0 < Int.gcd d.q d.r := Int.gcd_pos_of_ne_zero_left _ hq
  obtain ⟨u, v, huv, hu, hv⟩ := Int.exists_gcd_one hg
  have hg' : (Int.gcd d.q d.r : Int) ≠ 0 := by exact_mod_cast hg.ne'
  exact ⟨hg, u, v, hu, hv, Int.isCoprime_iff_gcd_eq_one.mpr huv,
    Int.ediv_eq_of_eq_mul_left hg' hu, Int.ediv_eq_of_eq_mul_left hg' hv⟩

/-- A contested step is torn halfway along the first of its repeats. -/
lemma Contested.exists_torn (h : Contested d) :
    ∃ i : Int, 0 < i ∧ i < (d.q + d.r).natAbs ∧ Torn d i (d.q + d.r).natAbs := by
  obtain ⟨hg, u, v, hu, hv, -, hqu, hrv⟩ := exists_reduced h.alike
  obtain ⟨c, hc⟩ := hqu ▸ h.q_odd
  obtain ⟨c', hc'⟩ := hrv ▸ h.r_odd
  have hgcd := h.gcd_ne
  have alike := h.alike
  generalize Int.gcd d.q d.r = g at *
  have hsum : d.q + d.r = (u + v) * g := by
    rw [hu, hv]
    ring
  obtain ⟨i, hi⟩ : ∃ i : Int, ((u + v).natAbs : Int) = 2 * i := ⟨(u + v).natAbs / 2, by omega⟩
  have hlen : ((d.q + d.r).natAbs : Int) = 2 * i * g := by
    rw [hsum, Int.natAbs_mul, Nat.cast_mul, hi, Int.natAbs_natCast]
  have hi₀ : 0 < i := by
    have hne : d.q + d.r ≠ 0 := by
      rcases mul_pos_iff.mp alike with ⟨hq, hr⟩ | ⟨hq, hr⟩ <;> omega
    have hne : u + v ≠ 0 := left_ne_zero_of_mul (hsum ▸ hne)
    omega
  refine ⟨i, hi₀, ?_, h.slanted, ?_, ?_⟩
  · rw [hlen]
    nlinarith
  · have hn : (0 : Int) < (d.q + d.r).natAbs := by
      rw [hlen]
      positivity
    refine (middle_iff hn _).mpr ⟨c, ?_⟩
    rw [hlen, hu, hc]
    ring
  · rintro ⟨m, hm⟩
    have hdvd : (g : Int) ∣ 2 ^ 31 := by
      refine ⟨m, Int.eq_of_mul_eq_mul_left (show (2 * i : Int) ≠ 0 by omega) ?_⟩
      rw [hlen] at hm
      rw [one] at hm
      linear_combination hm
    have hdvd : g ∣ 2 ^ 31 := by exact_mod_cast hdvd
    obtain ⟨k, -, hk⟩ := (Nat.dvd_prime_pow Nat.prime_two).mp hdvd
    exact hgcd k hk

/-- Two coprime numbers with an even sum are odd. -/
lemma odd_of_even_add {u v : Int} (coprime : IsCoprime u v) (even : Even (u + v)) :
    Odd u ∧ Odd v := by
  have hiff : Even u ↔ Even v := Int.even_add.mp even
  have hu : ¬ Even u := by
    intro hu
    have h2 : IsUnit (2 : Int) :=
      coprime.isUnit_of_dvd' hu.two_dvd (hiff.mp hu).two_dvd
    exact absurd h2 (by decide)
  exact ⟨Int.not_even_iff_odd.mp hu, Int.not_even_iff_odd.mp (mt hiff.mpr hu)⟩

/-- A step reaches the middle between two hexes only at multiples of half a
repeat, and only if both coordinates of a repeat are odd. -/
lemma exists_half (alike : 0 < d.q * d.r)
    (h : 2 * (d.q * i % (d.q + d.r).natAbs) = (d.q + d.r).natAbs) :
    Odd (d.q / Int.gcd d.q d.r) ∧ Odd (d.r / Int.gcd d.q d.r) ∧
      ∃ m : Int, 0 < m ∧ ((d.q + d.r).natAbs : Int) = 2 * m * Int.gcd d.q d.r ∧ m ∣ i := by
  obtain ⟨hg, u, v, hu, hv, coprime, hqu, hrv⟩ := exists_reduced alike
  have hn : (0 : Int) < (d.q + d.r).natAbs := by
    rcases mul_pos_iff.mp alike with ⟨hq, hr⟩ | ⟨hq, hr⟩ <;> omega
  obtain ⟨k, hk⟩ := (middle_iff hn _).mp h
  have hlen : ((d.q + d.r).natAbs : Int) = (u + v).natAbs * Int.gcd d.q d.r := by
    have hsum : d.q + d.r = (u + v) * Int.gcd d.q d.r := by
      rw [add_mul, ← hu, ← hv]
    rw [hsum, Int.natAbs_mul, Nat.cast_mul, Int.natAbs_natCast]
  have hmid : 2 * (u * i) = (2 * k + 1) * (u + v).natAbs := by
    refine Int.eq_of_mul_eq_mul_right (Int.natCast_ne_zero.mpr hg.ne') ?_
    rw [hlen] at hk
    nth_rewrite 1 [hu] at hk
    linear_combination hk
  have heven : Even (u + v) := by
    have hprod : Even ((2 * k + 1) * ((u + v).natAbs : Int)) := ⟨u * i, by rw [← hmid]; ring⟩
    rcases Int.even_mul.mp hprod with hodd | heven
    · exact absurd hodd (Int.not_even_iff_odd.mpr ⟨k, rfl⟩)
    · exact Int.natAbs_even.mp ((Int.even_coe_nat _).mp heven)
  obtain ⟨uodd, vodd⟩ := odd_of_even_add coprime heven
  obtain ⟨m, hm⟩ : ∃ m : Int, ((u + v).natAbs : Int) = 2 * m := by
    obtain ⟨c, hc⟩ := heven
    exact ⟨c.natAbs, by omega⟩
  have hm₀ : m ≠ 0 := by
    rintro rfl
    rw [hlen, hm, mul_zero, zero_mul] at hn
    exact hn.false
  refine ⟨hqu.symm ▸ uodd, hrv.symm ▸ vodd, m, by omega, by rw [hlen, hm], ?_⟩
  have hsum : IsCoprime (u + v) u := by
    obtain ⟨a, b, hab⟩ := coprime
    exact ⟨b, a - b, by linear_combination hab⟩
  have hmu : IsCoprime m u := by
    refine hsum.of_isCoprime_of_dvd_left ?_
    exact (Dvd.intro_left 2 hm.symm).trans (Int.natAbs_dvd.mpr dvd_rfl)
  refine hmu.dvd_of_dvd_mul_left ⟨2 * k + 1, ?_⟩
  refine Int.eq_of_mul_eq_mul_left (show (2 : Int) ≠ 0 by decide) ?_
  rw [hm] at hmid
  linear_combination hmid

/-- A step that is torn somewhere is contested: with a power of two for
divisor, no fraction at half a repeat has to be cut. -/
lemma Torn.contested (h : Torn d i (d.q + d.r).natAbs) (alike : 0 < d.q * d.r)
    (hreach : (d.q + d.r).natAbs ≤ nudgeReach) : Contested d := by
  obtain ⟨qodd, rodd, m, hm, hlen, j, rfl⟩ := exists_half alike h.middle
  refine ⟨alike, h.slanted, qodd, rodd, ?_⟩
  intro e he
  have hlt : e < 31 := by
    have hle : (2 : Int) ^ e < 2 ^ 31 := by
      rw [hlen, he, nudgeReach] at hreach
      push_cast at hreach
      nlinarith [pow_pos (show (0 : Int) < 2 by decide) e]
    exact (pow_lt_pow_iff_right₀ (by decide)).mp hle
  have hpow : (2 : Int) ^ e * 2 ^ (31 - e) = 2 ^ 31 := by
    rw [← pow_add, Nat.add_sub_cancel' hlt.le]
  refine h.cut ⟨j * 2 ^ (31 - e), ?_⟩
  rw [hlen, he, one]
  push_cast
  linear_combination -(2 * m * j) * hpow

lemma distance_of_alike (alike : 0 < (b - a).q * (b - a).r) :
    a.distance b = ((b - a).q + (b - a).r).natAbs := by
  have hsigns : 0 < (b - a).q ∧ 0 < (b - a).r ∨ (b - a).q < 0 ∧ (b - a).r < 0 :=
    mul_pos_iff.mp alike
  simp only [sub_q, sub_r] at hsigns ⊢
  simp only [distance]
  omega

/-- Where the nudge outweighs the cut, only contested steps are not steady. -/
lemma steady_iff_not_contested (hreach : a.distance b ≤ nudgeReach) :
    (∀ i, 0 < i → i < a.distance b → Steady a b i) ↔ ¬ (b - a).Contested := by
  constructor
  · intro steady contested
    obtain ⟨i, hi, hlt, torn⟩ := contested.exists_torn
    rw [← distance_of_alike contested.alike] at hlt torn
    exact (steady_iff_not_torn contested.alike (by omega) hreach).mp (steady i hi hlt) torn
  · intro free i hi hlt
    rcases le_or_gt ((b - a).q * (b - a).r) 0 with hle | alike
    · exact steady_of_nonpos hle (by omega) hreach
    · refine (steady_iff_not_torn alike (by omega) hreach).mpr fun torn => free ?_
      rw [distance_of_alike alike] at torn hreach
      exact torn.contested alike hreach

end Hex

/-- **When sight is mutual.** Two hexes see each other alike on every board iff
the line between them passes the same hexes both ways. As far as the nudge
outweighs the cut of a fraction, that is so unless the step from one to the
other is contested. -/
theorem sees_comm_iff (a b : Hex) (hfar : a.distance b < 2 ^ 30) :
    ((∀ board : Board, board.sees a b = board.sees b a) ↔
        b.between a = (a.between b).reverse) ∧
      (a.distance b ≤ Hex.nudgeReach →
        ((∀ board : Board, board.sees a b = board.sees b a) ↔ ¬ (b - a).Contested)) := by
  have hlines := Board.sees_comm_iff_between hfar
  refine ⟨hlines, fun hreach => ?_⟩
  rw [hlines, Hex.between_eq_reverse_iff]
  exact Hex.steady_iff_not_contested hreach

/-- Three columns and nine rows apart, the line is contested: a repeat is one
column and three rows, and there are three of them. -/
theorem sees_comm_iff_three_nine :
    (⟨0, 0⟩ : Hex).distance ⟨3, 9⟩ < 2 ^ 30 ∧
      ((∀ board : Board, board.sees ⟨0, 0⟩ ⟨3, 9⟩ = board.sees ⟨3, 9⟩ ⟨0, 0⟩) ↔
        Hex.between ⟨3, 9⟩ ⟨0, 0⟩ = (Hex.between ⟨0, 0⟩ ⟨3, 9⟩).reverse) ∧
      ((⟨0, 0⟩ : Hex).distance ⟨3, 9⟩ ≤ Hex.nudgeReach →
        ((∀ board : Board, board.sees ⟨0, 0⟩ ⟨3, 9⟩ = board.sees ⟨3, 9⟩ ⟨0, 0⟩) ↔
          ¬ (⟨3, 9⟩ - ⟨0, 0⟩ : Hex).Contested)) := by
  have hfar : (⟨0, 0⟩ : Hex).distance ⟨3, 9⟩ < 2 ^ 30 := by decide
  exact ⟨hfar, sees_comm_iff ⟨0, 0⟩ ⟨3, 9⟩ hfar⟩

/-- A ridge on the border is seen past from one end only. -/
theorem sees_ridge_one_way :
    (Board.ridge ⟨1, 1⟩).sees ⟨0, 0⟩ ⟨3, 9⟩ = false ∧
      (Board.ridge ⟨1, 1⟩).sees ⟨3, 9⟩ ⟨0, 0⟩ = true := by
  constructor
  · rw [← Bool.not_eq_true, Board.sees_ridge (by decide) (by decide)]
    decide
  · rw [Board.sees_ridge (by decide) (by decide)]
    decide

end MechBattle
