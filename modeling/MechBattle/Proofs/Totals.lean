/-
Totals: items added up in order, stopping at the edges of a counter.

The number to throw is such a total, for a shot as for a piloting roll. A total that has
stopped at an edge forgets how far beyond it the items reach, but it never turns their
order around, whatever the sign of the items that follow.

* `Counter.add_le_add`, `Counter.mul_le_mul_of_nonneg_left`: arithmetic that stops at the
  edges keeps the order;
* `Counter.foldl_add_le`: larger items, in the same places, have a larger total;
* `Counter.foldl_add_of_nonneg`: without negative items, the total is exact up to the
  ceiling;
* `Counter.foldl_add_of_inits`: a total that does not stop on the way is the sum;
* `Counter.foldl_add_filterMap`, `sum_filterMap`: an item that counts for nothing may be left out,
  of a total as of a sum;
* `isImpossible_of_le`: what is above a number out of reach is out of reach.
-/
import Mathlib.Tactic
import MechBattle.Counter
import MechBattle.Dice

namespace MechBattle

namespace Counter

variable {α β : Type} {a b c d m n : Int} {ms ns : List Int}

lemma add_le_add (hac : a ≤ c) (hbd : b ≤ d) : add a b ≤ add c d :=
  clamp_le_clamp (Int.add_le_add hac hbd)

lemma mul_le_mul_of_nonneg_left (hab : a ≤ b) (hc : 0 ≤ c) : mul c a ≤ mul c b :=
  clamp_le_clamp (Int.mul_le_mul_of_nonneg_left hab hc)

lemma mul_le_mul_of_nonneg_right (hab : a ≤ b) (hc : 0 ≤ c) : mul a c ≤ mul b c :=
  clamp_le_clamp (Int.mul_le_mul_of_nonneg_right hab hc)

lemma ofNat_le_ofNat {i j : Nat} (h : i ≤ j) : ofNat i ≤ ofNat j := by
  unfold ofNat
  omega

lemma add_zero (h : Mem a) : add a 0 = a := by
  rw [add, Int.add_zero, clamp_of_mem h]

lemma mem_zero : Mem 0 := by decide

/-- A total is a counter when it starts from one. -/
lemma mem_foldl_add (ha : Mem a) (ms : List Int) : Mem (ms.foldl add a) := by
  induction ms generalizing a with
  | nil => exact ha
  | cons m ms ih => exact ih (mem_clamp (a + m))

/-- **Larger items have a larger total.** -/
lemma foldl_add_le (items : List.Forall₂ (· ≤ ·) ms ns) (hab : a ≤ b) :
    ms.foldl add a ≤ ns.foldl add b := by
  induction items generalizing a b with
  | nil => exact hab
  | cons hmn _ ih => exact ih (add_le_add hab hmn)

lemma foldl_add_mono (hab : a ≤ b) (ms : List Int) : ms.foldl add a ≤ ms.foldl add b :=
  foldl_add_le (List.forall₂_same.mpr fun _ _ => le_rfl) hab

/-- A total of items of which none is negative stops at the ceiling alone. -/
lemma foldl_add_of_nonneg (ha : 0 ≤ a) (hle : a ≤ greatest) (nonneg : ∀ m ∈ ms, 0 ≤ m) :
    ms.foldl add a = min greatest (a + ms.sum) := by
  induction ms generalizing a with
  | nil => rw [List.foldl_nil, List.sum_nil, Int.add_zero, min_eq_right hle]
  | cons m ms ih =>
      obtain ⟨hm, hms⟩ := List.forall_mem_cons.mp nonneg
      have hsum : 0 ≤ ms.sum := List.sum_nonneg hms
      have hadd : add a m = min greatest (a + m) := by
        unfold add clamp least
        omega
      have hgreatest : 0 ≤ greatest := ha.trans hle
      rw [List.foldl_cons, hadd, ih (by omega) (by omega) hms, List.sum_cons]
      omega

/-- An item that counts for nothing may be left out of a total. -/
lemma foldl_add_filterMap (ha : Mem a) (f : α → Option β) (value : β → Int) (xs : List α) :
    ((xs.filterMap f).map value).foldl add a =
      (xs.map fun x => ((f x).map value).getD 0).foldl add a := by
  induction xs generalizing a with
  | nil => rfl
  | cons x xs ih =>
      cases hx : f x with
      | none =>
          rw [List.filterMap_cons_none hx, List.map_cons, List.foldl_cons, hx, Option.map_none,
            Option.getD_none, add_zero ha, ih ha]
      | some y =>
          have hsum : Mem (add a (value y)) := mem_clamp _
          rw [List.filterMap_cons_some hx, List.map_cons, List.map_cons, List.foldl_cons,
            List.foldl_cons, hx, Option.map_some, Option.getD_some, ih hsum]

/-- A total that stays between the edges on the way is the sum. -/
lemma foldl_add_of_inits (h : ∀ front ∈ ms.inits, Mem (a + front.sum)) :
    ms.foldl add a = a + ms.sum := by
  induction ms generalizing a with
  | nil => rw [List.foldl_nil, List.sum_nil, Int.add_zero]
  | cons m ms ih =>
      have hfirst : Mem (a + m) := by
        have := h [m] (by simp)
        rwa [List.sum_singleton] at this
      have hrest : ∀ front ∈ ms.inits, Mem (a + m + front.sum) := by
        intro front hfront
        have := h (m :: front) (by simpa using hfront)
        rwa [List.sum_cons, ← Int.add_assoc] at this
      rw [List.foldl_cons, add, clamp_of_mem hfirst, ih hrest, List.sum_cons, Int.add_assoc]

end Counter

/-- What is left out of a list counts for nothing in a sum. -/
lemma sum_filterMap {α M : Type} [AddMonoid M] (f : α → Option M) (xs : List α) :
    (xs.filterMap f).sum = (xs.map fun x => (f x).getD 0).sum := by
  induction xs with
  | nil => rfl
  | cons x rest ih =>
      rw [List.filterMap_cons, List.map_cons, List.sum_cons, ← ih]
      cases f x with
      | none => rw [Option.getD_none, zero_add]
      | some n => rw [List.sum_cons, Option.getD_some]

lemma isImpossible_of_le {m n : Int} (hmn : m ≤ n) (hm : isImpossible m = true) :
    isImpossible n = true := by
  rw [isImpossible, decide_eq_true_eq] at hm ⊢
  exact hm.trans hmn

end MechBattle
