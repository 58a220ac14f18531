/-
What a hit adds to a piloting roll.

A component that is hit makes the roll harder twice: as the reason of the roll, and as one of
those that are destroyed. The reason is counted and one of the destroyed is not, so the hit is
charged once.

* `PilotingCheck.Unclipped`: the items of a roll add up without stopping at an edge;
* `firsts_eq_eraseDups`, `firsts_append_cons_of_mem`, `perm_firsts`: the reasons of a roll, each
  once;
* `pilotingCheck_append_cons_of_mem`: a reason given again changes nothing;
* `StruckClass`: the components whose hits are reasons of a roll, with what a hit and what the
  destroyed ones count;
* `target_eq_sum`: the number to throw, item by item;
* `sum_standingValues_cons`: what the destroyed components count with and without a hit;
* `target_struck`: what a hit adds.
-/
import MechBattle.Proofs.HardRolls

namespace MechBattle

/-! ### Sums and products that do not stop -/

namespace Counter

/-- Fewer times a number are between the edges where more times are. -/
lemma mem_mul_of_le {m : Int} {i j : Nat} (hij : i ≤ j) (h : Mem (m * j)) : Mem (m * i) := by
  obtain ⟨hlow, hhigh⟩ := h
  have hzero : Mem 0 := mem_zero
  have hle : (i : Int) ≤ j := Int.ofNat_le.mpr hij
  rcases le_total 0 m with hm | hm
  · exact ⟨hzero.1.trans (Int.mul_nonneg hm (Int.natCast_nonneg i)),
      (Int.mul_le_mul_of_nonneg_left hle hm).trans hhigh⟩
  · exact ⟨hlow.trans (Int.mul_le_mul_of_nonpos_left hm hle),
      (Int.mul_nonpos_of_nonpos_of_nonneg hm (Int.natCast_nonneg i)).trans hzero.2⟩

end Counter

/-- Whether the skill and the items of a roll add up without stopping at an edge on the way. -/
def PilotingCheck.Unclipped (c : PilotingCheck) : Prop :=
  ∀ front ∈ (c.modifiers.map (·.value)).inits, Counter.Mem (c.base + front.sum)

instance (c : PilotingCheck) : Decidable c.Unclipped :=
  inferInstanceAs (Decidable (∀ _ ∈ _, _))

namespace BattleUnit

/-! ### Reasons, each once -/

section firsts

variable {α : Type} [BEq α] [LawfulBEq α] {x : α} {front back xs ys : List α}

omit [LawfulBEq α] in
lemma firsts_concat (xs : List α) (x : α) :
    firsts (xs ++ [x]) = if (firsts xs).contains x then firsts xs else firsts xs ++ [x] := by
  rw [firsts, List.foldl_append]
  rfl

/-- Each element once, where it occurs first. -/
lemma firsts_eq_eraseDups (xs : List α) : firsts xs = xs.eraseDups := by
  induction xs using List.reverseRecOn with
  | nil => rfl
  | append_singleton xs x ih =>
      have hcontains : xs.eraseDups.contains x = xs.contains x := by
        rw [Bool.eq_iff_iff, List.contains_iff_mem, List.contains_iff_mem, List.mem_eraseDups]
      rw [firsts_concat, ih, hcontains, List.eraseDups_append, List.cons_removeAll]
      cases xs.contains x with
      | true => exact (List.append_nil _).symm
      | false => rfl

lemma mem_firsts : x ∈ firsts xs ↔ x ∈ xs := by
  rw [firsts_eq_eraseDups, List.mem_eraseDups]

lemma nodup_firsts (xs : List α) : (firsts xs).Nodup := by
  induction xs using List.reverseRecOn with
  | nil => exact .nil
  | append_singleton xs x ih =>
      rw [firsts_concat]
      split
      · exact ih
      · next hnew =>
          rw [← List.concat_eq_append]
          exact ih.concat (mt List.contains_iff_mem.mpr hnew)

lemma firsts_cons_of_not_mem (h : x ∉ xs) : firsts (x :: xs) = x :: firsts xs := by
  have hother : xs.filter (fun y => !y == x) = xs := by
    refine List.filter_eq_self.mpr fun y hy => ?_
    rw [Bool.not_eq_true', beq_eq_false_iff_ne]
    rintro rfl
    exact h hy
  rw [firsts_eq_eraseDups, firsts_eq_eraseDups, List.eraseDups_cons, hother]

/-- What occurred before is left out, wherever it stands. -/
lemma firsts_append_cons_of_mem (h : x ∈ front) :
    firsts (front ++ x :: back) = firsts (front ++ back) := by
  have hbefore : ¬front.contains x = false := by
    rwa [Bool.not_eq_false, List.contains_iff_mem]
  rw [firsts_eq_eraseDups, firsts_eq_eraseDups, List.eraseDups_append, List.eraseDups_append,
    List.cons_removeAll, if_neg hbefore]

/-- Lists of the same elements have the same elements once each, if in another order. -/
lemma perm_firsts (h : ∀ x, x ∈ xs ↔ x ∈ ys) : (firsts xs).Perm (firsts ys) := by
  refine (List.perm_ext_iff_of_nodup (nodup_firsts xs) (nodup_firsts ys)).mpr fun x => ?_
  rw [mem_firsts, mem_firsts, h]

end firsts

/-! ### Rolls for the same reasons -/

variable {rules : Rules} {u : BattleUnit} {xs ys front back rest : List CheckReason}
  {reason : CheckReason} {board : Option Board} {damage : Option Int}

lemma contains_congr (h : ∀ r, r ∈ xs ↔ r ∈ ys) (reason : CheckReason) :
    xs.contains reason = ys.contains reason := by
  rw [Bool.eq_iff_iff, List.contains_iff_mem, List.contains_iff_mem, h]

lemma standingModifiers_congr (h : ∀ r, r ∈ xs ↔ r ∈ ys) (pilot : Pilot) :
    standingModifiers rules u pilot xs = standingModifiers rules u pilot ys := by
  simp only [standingModifiers, withoutStruck, contains_congr h]

lemma missing?_eq_none_congr (h : ∀ r, r ∈ xs ↔ r ∈ ys) :
    u.missing? xs = none ↔ u.missing? ys = none := by
  simp only [missing?, List.findSome?_eq_none_iff, h]

lemma missing?_append_cons_of_mem (h : reason ∈ front) :
    u.missing? (front ++ reason :: back) = u.missing? (front ++ back) := by
  rw [missing?, missing?, List.findSome?_append, List.findSome?_append, List.findSome?_cons]
  split
  · next refusal hrefused =>
      -- Whatever refuses the reason here has refused it before.
      cases hfront : front.findSome? _ with
      | none =>
          rw [List.findSome?_eq_none_iff.mp hfront reason h] at hrefused
          cases hrefused
      | some first => rfl
  · rfl

/-- **A reason given again changes nothing**, wherever it stands behind the first time. -/
lemma pilotingCheck_append_cons_of_mem (h : reason ∈ front) :
    pilotingCheck rules u (front ++ reason :: back) board damage =
      pilotingCheck rules u (front ++ back) board damage := by
  have hmem : ∀ r, r ∈ front ++ reason :: back ↔ r ∈ front ++ back := by
    intro r
    rw [List.mem_append, List.mem_append, List.mem_cons]
    constructor
    · rintro (hfront | rfl | hback)
      · exact .inl hfront
      · exact .inl h
      · exact .inr hback
    · exact Or.imp_right .inr
  simp only [pilotingCheck, missing?_append_cons_of_mem h, firsts_append_cons_of_mem h,
    standingModifiers_congr hmem]

/-! ### The number to throw as a sum -/

/-- What a reason adds to the number to throw. -/
def reasonValue (rules : Rules) (damage : Option Int) (reason : CheckReason) : Int :=
  ((reasonModifier? rules damage reason).map (·.value)).getD 0

lemma sum_standingModifiers (rules : Rules) (u : BattleUnit) (pilot : Pilot)
    (reasons : List CheckReason) :
    ((standingModifiers rules u pilot reasons).map (·.value)).sum =
      (standingValues rules u pilot reasons).sum := by
  rw [standingModifiers, List.map_filterMap, sum_filterMap]
  simp only [List.map_cons, List.map_nil, value_countedModifier?, standingValues,
    PilotingTables.ofFactor]

/-- **The number to throw, item by item**, where no sum stops at an edge. -/
lemma target_eq_sum {pilot : Pilot} (hpilot : u.pilot = some pilot) {c : PilotingCheck}
    (hc : pilotingCheck rules u xs board damage = .ok c) (unclipped : c.Unclipped) :
    c.target = pilot.piloting + ((standingValues rules u pilot xs).sum +
      ((firsts xs).map (reasonValue rules damage)).sum +
      ((groundModifier? rules u board).toList.map (·.value)).sum) := by
  obtain ⟨found, hfound, -, rfl⟩ := pilotingCheck_eq_ok_iff.mp hc
  obtain rfl := Option.some.inj (hpilot.symm.trans hfound)
  calc _ = ((standingModifiers rules u pilot xs ++
          otherModifiers rules u xs board damage).map (·.value)).foldl Counter.add
            pilot.piloting := by
        rw [List.foldl_map]
        rfl
    _ = pilot.piloting + ((standingModifiers rules u pilot xs ++
          otherModifiers rules u xs board damage).map (·.value)).sum :=
        Counter.foldl_add_of_inits unclipped
    _ = _ := by
        rw [otherModifiers, List.map_append, List.sum_append, List.map_append, List.sum_append,
          sum_standingModifiers, List.map_filterMap, sum_filterMap, Int.add_assoc]
        rfl

/-- For the same reasons, in whatever order and however often, a roll takes the same number. -/
lemma target_congr (h : ∀ r, r ∈ xs ↔ r ∈ ys) {c : PilotingCheck}
    (hc : pilotingCheck rules u ys board damage = .ok c) (unclipped : c.Unclipped) :
    ∃ e, pilotingCheck rules u xs board damage = .ok e ∧ (e.Unclipped → e.target = c.target) := by
  obtain ⟨pilot, hpilot, hmissing, -⟩ := pilotingCheck_eq_ok_iff.mp hc
  have hxs : pilotingCheck rules u xs board damage = .ok _ :=
    pilotingCheck_eq_ok_iff.mpr ⟨pilot, hpilot, (missing?_eq_none_congr h).mpr hmissing, rfl⟩
  refine ⟨_, hxs, fun hunclipped => ?_⟩
  have hstanding : (standingValues rules u pilot xs).sum =
      (standingValues rules u pilot ys).sum := by
    rw [← sum_standingModifiers, ← sum_standingModifiers, standingModifiers_congr h]
  have hreasons := ((perm_firsts h).map (reasonValue rules damage)).sum_eq
  rw [target_eq_sum hpilot hxs hunclipped, target_eq_sum hpilot hc unclipped, hstanding, hreasons]

end BattleUnit

/-! ### Components that are hit -/

/-- The components whose hits are reasons of a roll. -/
inductive StruckClass where
  | gyro
  | hip
  /-- Leg actuators below the hip. -/
  | lowerLeg
  deriving DecidableEq

namespace StruckClass

/-- The reason for a roll that a hit is. -/
def reason : StruckClass → CheckReason
  | gyro => .gyroHit
  | hip => .hipHit
  | lowerLeg => .legActuatorHit

lemma reason_inj {j k : StruckClass} : j.reason = k.reason ↔ j = k := by
  cases j <;> cases k <;> decide

/-- What a hit counts. -/
def hitFactor : StruckClass → PilotingFactor
  | gyro => .gyroHit
  | hip => .hipHit
  | lowerLeg => .legActuatorHit

/-- What a destroyed component counts. -/
def standingFactor : StruckClass → PilotingFactor
  | gyro => .damagedGyro
  | hip => .destroyedHip
  | lowerLeg => .destroyedLegActuator

/-- How many components of the class are destroyed. -/
def destroyed (u : BattleUnit) : StruckClass → Nat
  | gyro => u.destroyedCount .gyro
  | hip => u.destroyedCount .hip
  | lowerLeg => u.destroyedLowerLeg

/-- How often so many destroyed components count: gyros once at most, all others each. -/
def times : StruckClass → Nat → Nat
  | gyro, n => min 1 n
  | hip, n => n
  | lowerLeg, n => n

lemma times_sub_one_le (k : StruckClass) (n : Nat) : k.times (n - 1) ≤ k.times n := by
  cases k <;> simp only [times] <;> omega

/-- One destroyed component fewer counts once less, unless there is none or another gyro counts
in its place. -/
lemma times_sub_times_sub_one (k : StruckClass) (n : Nat) :
    (k.times n : Int) - k.times (n - 1) = if n = 0 ∨ (k = gyro ∧ 2 ≤ n) then 0 else 1 := by
  cases k with
  | gyro =>
      simp only [times, true_and]
      split <;> omega
  | hip =>
      simp only [times, reduceCtorEq, false_and, or_false]
      split <;> omega
  | lowerLeg =>
      simp only [times, reduceCtorEq, false_and, or_false]
      split <;> omega

end StruckClass

namespace BattleUnit

variable {rules : Rules} {u : BattleUnit} {rest : List CheckReason} {board : Option Board}
  {damage : Option Int} {k : StruckClass}

lemma withoutStruck_cons_self (n : Nat) (reason : CheckReason) :
    withoutStruck n (reason :: rest) reason = n - 1 := by
  rw [withoutStruck, List.contains_cons, beq_self_eq_true, Bool.true_or, if_pos rfl]

lemma withoutStruck_of_not_mem {reason : CheckReason} (h : reason ∉ rest) (n : Nat) :
    withoutStruck n rest reason = n :=
  if_neg (mt List.contains_iff_mem.mp h)

lemma withoutStruck_cons_of_ne {reason other : CheckReason} (h : other ≠ reason) (n : Nat) :
    withoutStruck n (reason :: rest) other = withoutStruck n rest other := by
  rw [withoutStruck, withoutStruck, List.contains_cons, beq_eq_false_iff_ne.mpr h, Bool.false_or]

/-- What the destroyed components of a class count. -/
def standingValue (rules : Rules) (u : BattleUnit) (reasons : List CheckReason) (k : StruckClass) :
    Int :=
  Counter.mul (rules.piloting.ofFactor k.standingFactor)
    (k.times (withoutStruck (k.destroyed u) reasons k.reason))

lemma sum_standingValues (rules : Rules) (u : BattleUnit) (pilot : Pilot)
    (reasons : List CheckReason) :
    (standingValues rules u pilot reasons).sum =
      standingValue rules u reasons .gyro + standingValue rules u reasons .hip +
        standingValue rules u reasons .lowerLeg +
        (Counter.mul rules.piloting.destroyedLeg u.destroyedLegs +
          Counter.mul rules.piloting.pilotWound pilot.wounds) := by
  simp only [standingValues, standingValue, StruckClass.standingFactor, StruckClass.times,
    StruckClass.destroyed, StruckClass.reason, PilotingTables.ofFactor, List.sum_cons, List.sum_nil]
  ring

lemma standingValue_cons_of_ne {j : StruckClass} (h : j ≠ k) :
    standingValue rules u (k.reason :: rest) j = standingValue rules u rest j := by
  rw [standingValue, standingValue, withoutStruck_cons_of_ne (mt StruckClass.reason_inj.mp h)]

/-- **A hit leaves one destroyed component of its class out**, and all other standing items as
they are. -/
lemma sum_standingValues_cons (rules : Rules) (u : BattleUnit) (pilot : Pilot)
    (absent : k.reason ∉ rest) :
    (standingValues rules u pilot (k.reason :: rest)).sum -
        (standingValues rules u pilot rest).sum =
      Counter.mul (rules.piloting.ofFactor k.standingFactor) (k.times (k.destroyed u - 1)) -
        Counter.mul (rules.piloting.ofFactor k.standingFactor) (k.times (k.destroyed u)) := by
  have hwith : standingValue rules u (k.reason :: rest) k =
      Counter.mul (rules.piloting.ofFactor k.standingFactor) (k.times (k.destroyed u - 1)) := by
    rw [standingValue, withoutStruck_cons_self]
  have hwithout : standingValue rules u rest k =
      Counter.mul (rules.piloting.ofFactor k.standingFactor) (k.times (k.destroyed u)) := by
    rw [standingValue, withoutStruck_of_not_mem absent]
  rw [sum_standingValues, sum_standingValues, ← hwith, ← hwithout]
  cases k with
  | gyro =>
      rw [standingValue_cons_of_ne (j := .hip) (by decide),
        standingValue_cons_of_ne (j := .lowerLeg) (by decide)]
      ring
  | hip =>
      rw [standingValue_cons_of_ne (j := .gyro) (by decide),
        standingValue_cons_of_ne (j := .lowerLeg) (by decide)]
      ring
  | lowerLeg =>
      rw [standingValue_cons_of_ne (j := .gyro) (by decide),
        standingValue_cons_of_ne (j := .hip) (by decide)]
      ring

lemma reasonValue_reason (rules : Rules) (damage : Option Int) (k : StruckClass) :
    reasonValue rules damage k.reason = Counter.mul (rules.piloting.ofFactor k.hitFactor) 1 := by
  cases k <;> exact value_checkModifier? rules _ _ 1

/-- **A critical hit is charged once.** Where nothing stops at an edge, a hit on a gyro, a hip or
a leg actuator adds what a hit counts to the number to throw, less what a destroyed component of
its class counts if one is destroyed; a gyro counts its damage all the same while another one is
destroyed. Given again, a reason changes nothing, and neither does the order of the reasons. -/
theorem target_struck (rules : Rules) (u : BattleUnit) (board : Option Board)
    (damage : Option Int) (k : StruckClass) {rest : List CheckReason} (absent : k.reason ∉ rest)
    {c d : PilotingCheck} (hc : pilotingCheck rules u (k.reason :: rest) board damage = .ok c)
    (hd : pilotingCheck rules u rest board damage = .ok d)
    (hcsum : c.Unclipped) (hdsum : d.Unclipped)
    (hit : Counter.Mem (rules.piloting.ofFactor k.hitFactor))
    (standing : Counter.Mem
      (rules.piloting.ofFactor k.standingFactor * k.times (k.destroyed u))) :
    c.target - d.target = rules.piloting.ofFactor k.hitFactor -
        (if k.destroyed u = 0 ∨ (k = .gyro ∧ 2 ≤ k.destroyed u) then 0
          else rules.piloting.ofFactor k.standingFactor) ∧
      (∀ front back reason, reason ∈ front →
        pilotingCheck rules u (front ++ reason :: back) board damage =
          pilotingCheck rules u (front ++ back) board damage) ∧
      ∀ other, (∀ reason, reason ∈ other ↔ reason ∈ k.reason :: rest) →
        ∃ e, pilotingCheck rules u other board damage = .ok e ∧
          (e.Unclipped → e.target = c.target) := by
  refine ⟨?_, fun front back reason h => pilotingCheck_append_cons_of_mem h,
    fun other h => target_congr h hc hcsum⟩
  obtain ⟨pilot, hpilot, -, -⟩ := pilotingCheck_eq_ok_iff.mp hd
  have hless := Counter.mem_mul_of_le (k.times_sub_one_le (k.destroyed u)) standing
  have hstanding := sum_standingValues_cons rules u pilot absent
  have hreason := reasonValue_reason rules damage k
  rw [Counter.mul, Counter.mul, Counter.clamp_of_mem hless, Counter.clamp_of_mem standing]
    at hstanding
  rw [Counter.mul, Int.mul_one, Counter.clamp_of_mem hit] at hreason
  have hdifference : c.target - d.target = rules.piloting.ofFactor k.hitFactor -
      rules.piloting.ofFactor k.standingFactor *
        (k.times (k.destroyed u) - k.times (k.destroyed u - 1) : Int) := by
    rw [target_eq_sum hpilot hc hcsum, target_eq_sum hpilot hd hdsum,
      firsts_cons_of_not_mem absent, List.map_cons, List.sum_cons, hreason]
    linear_combination hstanding
  rw [hdifference, k.times_sub_times_sub_one]
  split
  · rw [Int.mul_zero]
  · rw [Int.mul_one]

/-- House rules in which a hit on a hip counts much and a destroyed one little. -/
def softHips : Rules where
  piloting := { hipHit := 4, destroyedHip := 1 }

/-- A mech with both hips destroyed. -/
def limping : BattleUnit :=
  (((((BattleUnit.blank 4 "Target" .mech 50).withPart (.intact .leftLeg 10 0 12)).withPart
    (.intact .rightLeg 10 0 12)).mount .leftLeg (Component.intact "Hip" .hip 0 1).wrecked).mount
      .rightLeg (Component.intact "Hip" .hip 0 1).wrecked).withPilot
    { name := "Pilot", gunnery := 4, piloting := 5 }

/-- The hip that was hit last counts four as a hit and no longer the one that it counts as
destroyed; the other one still counts. -/
theorem target_struck_limping :
    ∃ c d, .hipHit ∉ [CheckReason.heavyDamage] ∧
      pilotingCheck softHips limping [.hipHit, .heavyDamage] none none = .ok c ∧
      pilotingCheck softHips limping [.heavyDamage] none none = .ok d ∧
      c.Unclipped ∧ d.Unclipped ∧ c.target = 11 ∧ c.target - d.target = 4 - 1 ∧
      pilotingCheck softHips limping [.hipHit, .heavyDamage, .hipHit] none none = .ok c := by
  obtain ⟨c, hc, hcsum, hctarget⟩ :
      ∃ c, pilotingCheck softHips limping [.hipHit, .heavyDamage] none none = .ok c ∧
        c.Unclipped ∧ c.target = 11 := ⟨_, rfl, by decide, rfl⟩
  obtain ⟨d, hd, hdsum⟩ :
      ∃ d, pilotingCheck softHips limping [.heavyDamage] none none = .ok d ∧ d.Unclipped :=
    ⟨_, rfl, by decide⟩
  have absent : StruckClass.hip.reason ∉ [CheckReason.heavyDamage] := by decide
  obtain ⟨htarget, hagain, -⟩ := target_struck softHips limping none none .hip absent hc hd hcsum
    hdsum (by decide) (by decide)
  refine ⟨c, d, absent, hc, hd, hcsum, hdsum, hctarget, htarget.trans (by decide), ?_⟩
  rw [← hc]
  exact hagain [.hipHit, .heavyDamage] [] .hipHit List.mem_cons_self

end BattleUnit

end MechBattle
