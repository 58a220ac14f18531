/-
Lines carried over to another part of the board.

Rounding sends halves away from zero, so a point that is carried over to the other side of
zero may be found in another hex, but only if one of its coordinates is just a half. The
points of a line keep clear of halves. The nudge moves every coordinate off them, by so
many units of a fraction, and a cut brings none of them back as long as the line has no
more hexes than that. So a line has the same hexes wherever on the board it lies, and the
same can be seen along it.

* `Fraction.Half`, with `nearest_add`: rounding goes along with whole numbers off halves;
* `Hex.not_half_onLine`: no coordinate of a point of a line is a half;
* `Hex.onLine_add` and `Hex.lineTo_add`: points and lines that are carried over;
* `Board.carried` with `Board.ground_carried`: a board that is carried over;
* `lineTo_sees_add`: lines, the ground along them and sight, carried over.
-/
import MechBattle.Proofs.Shortest
import MechBattle.Proofs.Sight

namespace MechBattle

/-! ### Halves -/

namespace Fraction

variable {a : Int}

/-- A fraction halfway between two whole numbers. -/
def Half (a : Int) : Prop := a % one = one / 2

/-- Off halves, rounding goes along with whole numbers. -/
lemma nearest_add (h : ¬ Half a) (m : Int) : nearest (a + ofInt m) = nearest a + m := by
  unfold Half one at h
  unfold nearest ofInt one
  split <;> split <;> omega

lemma gap_add (n a m : Int) : gap (n + m) (a + ofInt m) = gap n a := by
  have h : ofInt (n + m) - (a + ofInt m) = ofInt n - a := by
    simp only [ofInt]
    ring
  rw [gap, gap, h]

/-- A half is an odd number of times half a unit. -/
lemma exists_of_half (h : Half a) : ∃ k, 2 * a = (2 * k + 1) * one := by
  unfold Half one at h
  exact ⟨a / one, by unfold one; omega⟩

end Fraction

open Fraction

namespace Hex

variable {a b d : Hex} {i n t : Int}

/-- A point of which no coordinate is a half is carried over with its hex. -/
lemma containing_add {q r : Int} (off : ∀ x, ¬ Half (pointCoord q r x)) (v : Hex) :
    containing (q + ofInt v.q) (r + ofInt v.r) = containing q r + v := by
  have hq : nearest (q + ofInt v.q) = nearest q + v.q := nearest_add (off .q) v.q
  have hr : nearest (r + ofInt v.r) = nearest r + v.r := nearest_add (off .r) v.r
  have hs : nearest (-q - r + ofInt v.s) = nearest (-q - r) + v.s := nearest_add (off .s) v.s
  have hpoint : -(q + ofInt v.q) - (r + ofInt v.r) = -q - r + ofInt v.s := by
    simp only [ofInt, s]
    ring
  simp only [containing, hpoint, hq, hr, hs, gap_add]
  split
  · refine ext_coord .r rfl ?_
    simp only [coord, Axis.next, add_q, add_r, s]
    ring
  · split
    · refine ext_coord .q rfl ?_
      simp only [coord, Axis.next, add_r, s]
      ring
    · rfl

/-- Up to this distance a cut never outweighs the nudge along any axis. -/
def halfReach : Int := 4294

/-- **No coordinate of a point of a line is a half.** -/
lemma not_half_onLine {x : Axis} (hreach : n ≤ halfReach) (ht : Approx t i n)
    (hd : |d.coord x| ≤ n) (a : Hex) :
    ¬ Half (pointCoord (ofInt a.q + lineNudge + d.q * t) (ofInt a.r + lineNudge + d.r * t) x) := by
  rw [pointCoord_onLine]
  intro half
  obtain ⟨k, hk⟩ := exists_of_half half
  obtain ⟨hlo, hhi⟩ := ht
  rw [halfReach] at hreach
  have hn : 0 < n := by omega
  have hcut : |d.coord x * (n * t - i * one)| ≤ n * 4293 := by
    rw [abs_mul]
    refine mul_le_mul hd ?_ (abs_nonneg _) hn.le
    rw [abs_le]
    omega
  have hdvd : one ∣ 2 * (n * axisNudge x + d.coord x * (n * t - i * one)) := by
    refine ⟨n * (2 * k + 1 - 2 * a.coord x) - 2 * d.coord x * i, ?_⟩
    rw [ofInt] at hk
    linear_combination n * hk
  have hnudge : axisNudge x = 4294 ∨ axisNudge x = -8588 := by
    cases x <;> simp [axisNudge, lineNudge_eq]
  generalize d.coord x * (n * t - i * one) = cut at hcut hdvd
  rw [abs_le] at hcut
  have hsmall : |2 * (n * axisNudge x + cut)| < one := by
    rw [abs_lt, one]
    rcases hnudge with h | h <;> rw [h] <;> omega
  have hzero := Int.eq_zero_of_abs_lt_dvd hdvd hsmall
  rcases hnudge with h | h <;> rw [h] at hzero <;> omega

/-- A point of a line is carried over with the start of the line. -/
lemma onLine_add (hreach : a.distance b ≤ halfReach) (ht : Approx t i (a.distance b)) (v : Hex) :
    (a + v).onLine (b - a) t = a.onLine (b - a) t + v := by
  have hq : ofInt (a + v).q + lineNudge + (b - a).q * t =
      ofInt a.q + lineNudge + (b - a).q * t + ofInt v.q := by
    simp only [ofInt, add_q]
    ring
  have hr : ofInt (a + v).r + lineNudge + (b - a).r * t =
      ofInt a.r + lineNudge + (b - a).r * t + ofInt v.r := by
    simp only [ofInt, add_r]
    ring
  rw [onLine, hq, hr, onLine]
  exact containing_add (fun x => not_half_onLine hreach ht (coord_le_distance a b x) a) v

lemma add_sub_add (a b v : Hex) : b + v - (a + v) = b - a := by
  refine ext_coord .q ?_ ?_ <;> simp [coord, Axis.next, sub_q, sub_r, add_q, add_r]

lemma distance_add (a b v : Hex) : (a + v).distance (b + v) = a.distance b := by
  simp only [distance, add_q, add_r, add_sub_add_right_eq_sub]

/-- Hexes near the origin are within reach of each other. -/
lemma distance_le_of_abs_le {m : Int} (haq : |a.q| ≤ m) (har : |a.r| ≤ m) (hbq : |b.q| ≤ m)
    (hbr : |b.r| ≤ m) : a.distance b ≤ 4 * m := by
  rw [abs_le] at haq har hbq hbr
  rw [distance_le_iff]
  intro x
  rw [abs_le]
  cases x <;> simp only [coord, s, sub_q, sub_r] <;> omega

/-- **A line is carried over with its ends.** -/
lemma lineTo_add (hreach : a.distance b ≤ halfReach) (v : Hex) :
    (a + v).lineTo (b + v) = (a.lineTo b).map (· + v) := by
  refine List.ext_getElem ?_ fun i hi hi' => ?_
  · rw [List.length_map, length_lineTo, length_lineTo, distance_add]
  · rw [length_lineTo, distance_add] at hi
    rw [List.getElem_map, getElem_lineTo, getElem_lineTo, add_sub_add, distance_add]
    exact onLine_add hreach (approx_floorPart (by omega)) v

lemma between_add (hreach : a.distance b ≤ halfReach) (v : Hex) :
    (a + v).between (b + v) = (a.between b).map (· + v) := by
  rw [between, lineTo_add hreach, between, List.map_dropLast]

end Hex

/-! ### Boards -/

namespace Board

variable {a b v : Hex} {board board' : Board}

/-- The board carried over by a step, with all that is laid on it. -/
def carried (board : Board) (v : Hex) : Board :=
  ⟨Std.HashMap.ofList (board.laid.toList.map fun (h, g) => (h + v, g))⟩

/-- Ground is found where it was carried. -/
lemma ground_carried (board : Board) (v h : Hex) :
    (board.carried v).ground (h + v) = board.ground h := by
  have hinj : ∀ {h k : Hex}, h + v = k + v → h = k := by
    intro h k heq
    have hq := congrArg Hex.q heq
    have hr := congrArg Hex.r heq
    simp only [Hex.add_q, Hex.add_r, add_left_inj] at hq hr
    exact Hex.ext_coord .q hq hr
  have hkeys : (board.laid.toList.map fun (h, g) => (h + v, g)).Pairwise
      fun x y => (x.1 == y.1) = false := by
    rw [List.pairwise_map]
    refine Std.HashMap.distinct_keys_toList.imp fun {x y} hne => ?_
    rw [beq_eq_false_iff_ne] at hne ⊢
    exact mt hinj hne
  rw [ground, ground, carried, Std.HashMap.getD_eq_getD_getElem? (m := board.laid)]
  cases hlaid : board.laid[h]? with
  | some g =>
      refine Std.HashMap.getD_ofList_of_mem (beq_self_eq_true _) hkeys ?_
      exact List.mem_map.mpr ⟨(h, g), Std.HashMap.mem_toList_iff_getElem?_eq_some.mpr hlaid, rfl⟩
  | none =>
      refine Std.HashMap.getD_ofList_of_contains_eq_false ?_
      rw [List.map_map, ← Bool.not_eq_true, List.contains_iff_mem, List.mem_map]
      rintro ⟨⟨k, g⟩, hk, heq⟩
      obtain rfl := hinj heq
      rw [Std.HashMap.mem_toList_iff_getElem?_eq_some, hlaid] at hk
      cases hk

lemma along_add (carried : ∀ h, board'.ground (h + v) = board.ground h)
    (hreach : a.distance b ≤ Hex.halfReach) :
    board'.along (a + v) (b + v) = (board.along a b).map fun (h, g) => (h + v, g) := by
  rw [along, Hex.lineTo_add hreach, along, List.map_map, List.map_map]
  exact List.map_congr_left fun h _ => by rw [Function.comp_apply, carried]; rfl

lemma sees_add (carried : ∀ h, board'.ground (h + v) = board.ground h)
    (hreach : a.distance b ≤ Hex.halfReach) : board'.sees (a + v) (b + v) = board.sees a b := by
  have hbetween : ((a + v).between (b + v)).map board'.ground = (a.between b).map board.ground := by
    rw [Hex.between_add hreach, List.map_map]
    exact List.map_congr_left fun h _ => carried h
  have hceiling : board'.sightCeiling (a + v) (b + v) = board.sightCeiling a b := by
    rw [sightCeiling, carried, carried, sightCeiling]
  rw [sees_eq, sees_eq, hbetween, hceiling]

end Board

/-- **Lines do not depend on where on the board they lie.** Carried over with its ends by any
step, a line has the same hexes, carried over; and on a board carried over as well, they
have the same ground, and the ends see each other just as before. Hexes with coordinates of
up to 1000 are no more than 4000 hexes apart (`Hex.distance_le_of_abs_le`). -/
theorem lineTo_sees_add (a b v : Hex) (hreach : a.distance b ≤ 4294) :
    (a + v).lineTo (b + v) = (a.lineTo b).map (· + v) ∧
      ∀ board board' : Board, (∀ h, board'.ground (h + v) = board.ground h) →
        board'.along (a + v) (b + v) = (board.along a b).map (fun (h, g) => (h + v, g)) ∧
          board'.sees (a + v) (b + v) = board.sees a b :=
  ⟨Hex.lineTo_add hreach v, fun _ _ carried =>
    ⟨Board.along_add carried hreach, Board.sees_add carried hreach⟩⟩

/-- A line between two corners, which runs on the borders of hexes all the way, carried over
from both sides of zero to one. A ridge on it is carried along. -/
theorem lineTo_sees_add_corners :
    let a : Hex := ⟨-1000, -1000⟩
    let b : Hex := ⟨1000, 1000⟩
    let v : Hex := ⟨-1048576, 1048576⟩
    let board := Board.ridge ⟨1, 0⟩
    a.distance b = 4000 ∧ a.distance b ≤ 4294 ∧
      (a + v).lineTo (b + v) = (a.lineTo b).map (· + v) ∧
      (∀ h, (board.carried v).ground (h + v) = board.ground h) ∧
      (board.carried v).along (a + v) (b + v) =
        (board.along a b).map (fun (h, g) => (h + v, g)) ∧
      (board.carried v).sees (a + v) (b + v) = board.sees a b := by
  intro a b v board
  have hfar : a.distance b = 4000 := by decide
  have hnear : a.distance b ≤ 4 * 1000 :=
    Hex.distance_le_of_abs_le (by decide) (by decide) (by decide) (by decide)
  have hreach : a.distance b ≤ 4294 := by omega
  have hground := board.ground_carried v
  obtain ⟨hline, hboards⟩ := lineTo_sees_add a b v hreach
  exact ⟨hfar, hreach, hline, hground, hboards board (board.carried v) hground⟩

end MechBattle
