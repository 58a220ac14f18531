/-
Distance counts steps.

A step to a neighbour changes the distance to any hex by one at most, so no way is
shorter than the distance. What is left to go to another hex goes up along one axis and
down along another, and so does the step across one of the hexsides: the hex behind it is
one nearer, so a way as long as the distance can be walked.

* `Hex.two_mul_distance`: the formula for the distance never halves an odd number;
* `Hex.Walk.distance_le`: a way is at least as long as its ends are apart;
* `Hex.exists_neighbor_nearer` and `Hex.exists_walk`: a way of just that length;
* `distance_isLeast`: the distance is the length of the shortest way, and a metric.
-/
import MechBattle.Proofs.Shortest

namespace MechBattle

namespace Hex

variable {a b : Hex} {n : Nat}

/-- What is halved in the formula for the distance is even. -/
lemma two_mul_distance (a b : Hex) :
    2 * a.distance b = |a.q - b.q| + |a.r - b.r| + |a.q - b.q + (a.r - b.r)| := by
  simp only [distance, Nat.cast_add, Int.natCast_natAbs, abs_eq_max_neg]
  omega

lemma distance_neighbor (a : Hex) {f : Facing} (hf : f.index < 6) :
    a.distance (a.neighbor f) = 1 :=
  distance_iterate_neighbor a hf 1

/-- **No way is shorter than the distance of its ends.** -/
lemma Walk.distance_le (walk : Walk n a b) : a.distance b ≤ n := by
  induction walk with
  | stay a => exact (distance_eq_zero.mpr rfl).le
  | @step n a b f hf _ ih =>
      calc a.distance b ≤ a.distance (a.neighbor f) + (a.neighbor f).distance b :=
            distance_triangle _ _ _
        _ ≤ 1 + n := add_le_add (distance_neighbor a hf).le ih
        _ = (n + 1 : Nat) := by push_cast; ring

/-- For any two axes, the step across some hexside goes up along the first of them and
down along the second. -/
lemma exists_step {x y : Axis} (hxy : x ≠ y) :
    ∃ f : Facing, f.index < 6 ∧ f.step.coord x = 1 ∧ f.step.coord y = -1 := by
  cases x <;> cases y
  case q.r => exact ⟨⟨1⟩, by simp, rfl, rfl⟩
  case q.s => exact ⟨⟨2⟩, by simp, rfl, rfl⟩
  case r.q => exact ⟨⟨4⟩, by simp, rfl, rfl⟩
  case r.s => exact ⟨⟨3⟩, by simp, rfl, rfl⟩
  case s.q => exact ⟨⟨5⟩, by simp, rfl, rfl⟩
  case s.r => exact ⟨⟨0⟩, by simp, rfl, rfl⟩
  all_goals exact absurd rfl hxy

/-- Such a step leads one hex nearer to whatever lies up along the first axis and down
along the second. -/
lemma distance_neighbor_add_one {f : Facing} {x y : Axis} (up : f.step.coord x = 1)
    (down : f.step.coord y = -1) (hx : 0 < (b - a).coord x) (hy : (b - a).coord y < 0) :
    (a.neighbor f).distance b + 1 = a.distance b := by
  cases x <;> cases y <;>
    simp only [coord, s, sub_q, sub_r, neighbor, distance, add_q, add_r] at * <;> omega

/-- The coordinates of the step between two hexes add up to zero, so it goes up along some
axis and down along another. -/
lemma exists_up_down (hne : a ≠ b) : ∃ x y, 0 < (b - a).coord x ∧ (b - a).coord y < 0 := by
  obtain ⟨x, hx⟩ := exists_coord_eq_distance a b
  have hsum := coord_next_next (b - a) x
  have hpos : 0 < a.distance b :=
    (distance_nonneg a b).lt_of_ne' (mt distance_eq_zero.mp hne)
  rcases hx with hup | hdown
  · rcases lt_or_ge ((b - a).coord x.next) 0 with hneg | hnonneg
    · exact ⟨x, x.next, by omega, hneg⟩
    · exact ⟨x, x.next.next, by omega, by omega⟩
  · rcases lt_or_ge 0 ((b - a).coord x.next) with hpos | hnonpos
    · exact ⟨x.next, x, hpos, by omega⟩
    · exact ⟨x.next.next, x, by omega, by omega⟩

/-- From every other hex, a step across some hexside leads one hex nearer. -/
lemma exists_neighbor_nearer (hne : a ≠ b) :
    ∃ f : Facing, f.index < 6 ∧ (a.neighbor f).distance b + 1 = a.distance b := by
  obtain ⟨x, y, hx, hy⟩ := exists_up_down hne
  obtain ⟨f, hf, up, down⟩ := exists_step (x := x) (y := y) (by rintro rfl; omega)
  exact ⟨f, hf, distance_neighbor_add_one up down hx hy⟩

/-- **A way as long as the distance**, always to a neighbour that is nearer. -/
lemma exists_walk (h : a.distance b = n) : Walk n a b := by
  induction n generalizing a with
  | zero =>
      obtain rfl := distance_eq_zero.mp h
      exact .stay a
  | succ n ih =>
      have hne : a ≠ b := by
        rintro rfl
        rw [distance_eq_zero.mpr rfl] at h
        omega
      obtain ⟨f, hf, hnearer⟩ := exists_neighbor_nearer hne
      exact .step f hf (ih (by omega))

end Hex

/-- **Distance is the number of steps.** Between any two hexes there is a way of as many
steps to neighbouring hexes as they are far apart, and none of fewer steps. The sum in
the formula for the distance is even, only a hex itself is no step away, the way back is
as long, and no detour is shorter. -/
theorem distance_isLeast (a b : Hex) :
    (∃ n : Nat, a.distance b = n ∧ IsLeast {k | Hex.Walk k a b} n) ∧
      2 * a.distance b = |a.q - b.q| + |a.r - b.r| + |a.q - b.q + (a.r - b.r)| ∧
      (a.distance b = 0 ↔ a = b) ∧ a.distance b = b.distance a ∧
      ∀ c, a.distance c ≤ a.distance b + b.distance c := by
  obtain ⟨n, hn⟩ := Int.eq_ofNat_of_zero_le (Hex.distance_nonneg a b)
  have hleast : IsLeast {k | Hex.Walk k a b} n := by
    refine ⟨Hex.exists_walk hn, fun k walk => ?_⟩
    have hle : a.distance b ≤ k := walk.distance_le
    omega
  exact ⟨⟨n, hn, hleast⟩, Hex.two_mul_distance a b, Hex.distance_eq_zero,
    Hex.distance_comm a b, Hex.distance_triangle a b⟩

end MechBattle
