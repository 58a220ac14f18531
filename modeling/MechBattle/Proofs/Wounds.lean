/-
Wounds add up.

Wounds are suffered one after the other, and each looks only at what the one before has
left. So it makes no difference in how many lots they arrive. What becomes of a pilot can
be told from their number alone, under any rules: whether the lethal number is among the
counts passed on the way, and which numbers the counts put into the queue.

* `Pilot.woundsAfter`, `Pilot.queuedBy` and `Pilot.killed`: the count, the queue and the
  end of a pilot after so many wounds;
* `Pilot.woundedBy`: the pilot after all of them, and `Pilot.wound_eq_woundedBy`: going
  through them one by one leads there;
* `Pilot.wound_add`: two lots of wounds are one lot of both;
* `Pilot.foldl_wound_eq_wound_sum`: any number of lots, in any division.
-/
import Mathlib.Tactic
import MechBattle.Pilot.Consciousness

namespace MechBattle

namespace Pilot

variable {lethal : Nat} {target? : Nat → Option Int} {p : Pilot} {hits : Nat}

/-! ### Wounds told at once -/

/-- The count of wounds after so many more. -/
def woundsAfter (p : Pilot) (hits : Nat) : Nat := min woundLimit (p.wounds + hits)

/-- The numbers that so many wounds put into the queue, oldest first. -/
def queuedBy (target? : Nat → Option Int) (p : Pilot) (hits : Nat) : List Int :=
  (List.range hits).filterMap fun k => target? (p.woundsAfter (k + 1))

/-- The pilot killed by wounds. The count stays at the first that is lethal, and no roll is
left. -/
def killed (lethal : Nat) (p : Pilot) : Pilot :=
  { p with
    wounds := max lethal (p.woundsAfter 1)
    conscious := false
    dead := true
    pending := [] }

/-- The pilot after so many wounds, all at once. -/
def woundedBy (lethal : Nat) (target? : Nat → Option Int) (hits : Nat) (p : Pilot) : Pilot :=
  if p.dead ∨ hits = 0 then p
  else if lethal ≤ p.woundsAfter hits then p.killed lethal
  else { p with
    wounds := p.woundsAfter hits
    pending := p.pending ++ p.queuedBy target? hits }

lemma woundedBy_of_dead (dead : p.dead = true) : p.woundedBy lethal target? hits = p := by
  simp [woundedBy, dead]

lemma woundedBy_zero : p.woundedBy lethal target? 0 = p := by
  simp [woundedBy]

lemma woundedBy_of_lethal (alive : p.dead = false) (hpos : 0 < hits)
    (hlethal : lethal ≤ p.woundsAfter hits) :
    p.woundedBy lethal target? hits = p.killed lethal := by
  simp [woundedBy, alive, hpos.ne', hlethal]

lemma woundedBy_of_survived (alive : p.dead = false) (hpos : 0 < hits)
    (hsurvives : p.woundsAfter hits < lethal) :
    p.woundedBy lethal target? hits =
      { p with
        wounds := p.woundsAfter hits
        pending := p.pending ++ p.queuedBy target? hits } := by
  simp [woundedBy, alive, hpos.ne', hsurvives]

/-! ### One wound after the other -/

lemma woundOnce_of_lethal (hlethal : lethal ≤ p.woundsAfter 1) :
    p.woundOnce lethal target? = p.killed lethal := by
  have hcount : max lethal (p.woundsAfter 1) = p.woundsAfter 1 := max_eq_right hlethal
  rw [killed, hcount, woundOnce, woundsAfter] at *
  exact if_pos hlethal

lemma woundOnce_of_survived (hsurvives : p.woundsAfter 1 < lethal) :
    p.woundOnce lethal target? =
      { p with
        wounds := p.woundsAfter 1
        pending := p.pending ++ (target? (p.woundsAfter 1)).toList } :=
  if_neg hsurvives.not_ge

lemma woundsAfter_mono (p : Pilot) {m n : Nat} (h : m ≤ n) :
    p.woundsAfter m ≤ p.woundsAfter n := by
  simp only [woundsAfter]
  omega

lemma woundsAfter_succ_le (p : Pilot) (hits : Nat) :
    p.woundsAfter (hits + 1) ≤ p.woundsAfter hits + 1 := by
  simp only [woundsAfter]
  omega

/-- Counting goes on where one more wound has left the count. -/
lemma woundsAfter_of_first {q : Pilot} (hq : q.wounds = p.woundsAfter 1) (hits : Nat) :
    q.woundsAfter hits = p.woundsAfter (hits + 1) := by
  simp only [woundsAfter] at *
  omega

/-- The first of some wounds queues its number first. -/
lemma queuedBy_succ {q : Pilot} (hq : q.wounds = p.woundsAfter 1) (hits : Nat) :
    p.queuedBy target? (hits + 1) =
      (target? (p.woundsAfter 1)).toList ++ q.queuedBy target? hits := by
  rw [queuedBy, queuedBy, List.range_succ_eq_map, List.filterMap_cons, List.filterMap_map]
  simp only [woundsAfter_of_first hq, Function.comp_def, Nat.zero_add]
  cases target? (p.woundsAfter 1) <;> rfl

/-- The wounds after the first are those of a pilot who has taken it. -/
lemma woundedBy_succ (alive : p.dead = false) (hits : Nat) :
    p.woundedBy lethal target? (hits + 1) =
      (p.woundOnce lethal target?).woundedBy lethal target? hits := by
  rcases le_or_gt lethal (p.woundsAfter 1) with hfirst | hfirst
  · have hlethal : lethal ≤ p.woundsAfter (hits + 1) :=
      hfirst.trans (p.woundsAfter_mono (Nat.le_add_left 1 hits))
    have hdead : (p.killed lethal).dead = true := rfl
    rw [woundOnce_of_lethal hfirst, woundedBy_of_dead hdead,
      woundedBy_of_lethal alive hits.succ_pos hlethal]
  · obtain ⟨q, hq⟩ : ∃ q, q = p.woundOnce lethal target? := ⟨_, rfl⟩
    rw [← hq]
    rw [woundOnce_of_survived hfirst] at hq
    have halive : q.dead = false := by rw [hq]; exact alive
    have hwounds : q.wounds = p.woundsAfter 1 := by rw [hq]
    have hcount := woundsAfter_of_first hwounds
    rcases Nat.eq_zero_or_pos hits with rfl | hpos
    · rw [woundedBy_zero, woundedBy_of_survived alive Nat.one_pos hfirst, queuedBy_succ hwounds, hq]
      simp [queuedBy]
    · rcases le_or_gt lethal (p.woundsAfter (hits + 1)) with hlethal | hsurvives
      · -- counts go up by one at a time, so the first lethal one is `lethal` itself
        have hsecond : p.woundsAfter 2 ≤ p.woundsAfter 1 + 1 := p.woundsAfter_succ_le 1
        have hkilled : max lethal (p.woundsAfter 1) = max lethal (p.woundsAfter 2) := by omega
        rw [woundedBy_of_lethal alive hits.succ_pos hlethal,
          woundedBy_of_lethal halive hpos (by rwa [hcount]), killed, killed, hcount, hkilled, hq]
      · rw [woundedBy_of_survived alive hits.succ_pos hsurvives,
          woundedBy_of_survived halive hpos (by rwa [hcount]), hcount, queuedBy_succ hwounds]
        generalize q.queuedBy target? hits = later
        rw [hq, List.append_assoc]

/-- **One by one or all at once**, wounds have the same end. -/
lemma wound_eq_woundedBy (lethal : Nat) (target? : Nat → Option Int) (hits : Nat) (p : Pilot) :
    p.wound lethal target? hits = p.woundedBy lethal target? hits := by
  induction hits generalizing p with
  | zero => rw [wound, woundedBy_zero]
  | succ hits ih =>
      cases hdead : p.dead with
      | true => rw [wound_of_dead hdead, woundedBy_of_dead hdead]
      | false => rw [wound, hdead, if_neg Bool.false_ne_true, ih, woundedBy_succ hdead]

/-- Two lots of wounds, one after the other, are one lot of both. -/
lemma wound_add (lethal : Nat) (target? : Nat → Option Int) (m n : Nat) (p : Pilot) :
    p.wound lethal target? (m + n) = (p.wound lethal target? m).wound lethal target? n := by
  induction m generalizing p with
  | zero => rw [Nat.zero_add, wound.eq_1]
  | succ m ih =>
      cases hdead : p.dead with
      | true => rw [wound_of_dead hdead, wound_of_dead hdead, wound_of_dead hdead]
      | false =>
          rw [Nat.succ_add, wound, wound, hdead, if_neg Bool.false_ne_true,
            if_neg Bool.false_ne_true, ih]

lemma foldl_wound (lethal : Nat) (target? : Nat → Option Int) (lots : List Nat) (p : Pilot) :
    lots.foldl (fun q hits => q.wound lethal target? hits) p =
      p.wound lethal target? lots.sum := by
  induction lots generalizing p with
  | nil => rfl
  | cons hits rest ih => rw [List.foldl_cons, ih, List.sum_cons, wound_add]

/-- **Wounds add up however they arrive.** Under any rules, whether or not their numbers go
together, lots of wounds one after the other leave any pilot as all of them at once do, and
so does every other division of as many wounds. The dead stay as they are. A pilot whose
count passes the lethal number dies with just the first lethal count and an empty queue,
though wounds of the same lot be left over; any other pilot has the whole count, up to its
limit, and in the queue a number for each count that has one. -/
theorem foldl_wound_eq_wound_sum (lethal : Nat) (target? : Nat → Option Int) (p : Pilot)
    (lots : List Nat) :
    lots.foldl (fun q hits => q.wound lethal target? hits) p =
        p.wound lethal target? lots.sum ∧
      p.wound lethal target? lots.sum = p.woundedBy lethal target? lots.sum ∧
      ∀ others : List Nat, others.sum = lots.sum →
        others.foldl (fun q hits => q.wound lethal target? hits) p =
          lots.foldl (fun q hits => q.wound lethal target? hits) p := by
  refine ⟨foldl_wound lethal target? lots p, wound_eq_woundedBy lethal target? lots.sum p,
    fun others hsum => ?_⟩
  calc others.foldl (fun q hits => q.wound lethal target? hits) p
      = p.wound lethal target? others.sum := foldl_wound lethal target? others p
    _ = p.wound lethal target? lots.sum := by rw [hsum]
    _ = lots.foldl (fun q hits => q.wound lethal target? hits) p :=
        (foldl_wound lethal target? lots p).symm

/-- The fourth wound is lethal and the second has no number. Five wounds kill in the middle
of the first lot or of the last, and two leave a pilot with one more roll. -/
theorem foldl_wound_eq_wound_sum_scarred :
    let p : Pilot := { name := "Natasha", gunnery := 3, piloting := 4, wounds := 1, pending := [3] }
    let target? : Nat → Option Int := fun wounds => if wounds = 2 then none else some (wounds + 4)
    let dead : Pilot := { p with wounds := 4, conscious := false, dead := true, pending := [] }
    [4, 1].sum = [2, 0, 3].sum ∧
      [4, 1].foldl (fun q hits => q.wound 4 target? hits) p = dead ∧
      [2, 0, 3].foldl (fun q hits => q.wound 4 target? hits) p = dead ∧
      [1, 1].foldl (fun q hits => q.wound 4 target? hits) p =
        { p with wounds := 3, pending := [3, 7] } := by
  intro p target? dead
  obtain ⟨hall, htold, hothers⟩ := foldl_wound_eq_wound_sum 4 target? p [2, 0, 3]
  have hsum : [4, 1].sum = [2, 0, 3].sum := rfl
  have hdead : [2, 0, 3].foldl (fun q hits => q.wound 4 target? hits) p = dead := by
    rw [hall, htold]
    rfl
  refine ⟨hsum, (hothers [4, 1] hsum).trans hdead, hdead, ?_⟩
  obtain ⟨hall, htold, -⟩ := foldl_wound_eq_wound_sum 4 target? p [1, 1]
  rw [hall, htold]
  rfl

end Pilot

end MechBattle
