/-
The life of a pilot.

Wounds, rolls to stay awake and rolls to wake up follow each other in any order. Wounds
are counted up to the lethal number, which is death. Until then each of them queues a
roll, and only rolls to stay awake clear the queue.

* `Trial`: what can happen to a pilot, `Career` a pilot with the wounds taken since the
  queue was last cleared;
* `Career.go` and `Career.run`: one trial, and one after the other;
* `Pilot.Accounted`: wounds, queue and state agree, with `accounted_takeHits` for wounds
  and `Accounted.afterRolls` for rolls;
* `accounted_of_go`: every trial keeps the account, and `run_of_dead`: no trial changes
  the dead;
* `life_of_run`: what is known of a pilot after any career.
-/
import MechBattle.Dice.Script
import MechBattle.Proofs.Course
import MechBattle.Proofs.Tables

namespace MechBattle

/-! ### Careers -/

/-- What can happen to a pilot. -/
inductive Trial where
  /-- So many wounds at once. -/
  | hits (hits : Nat)
  /-- The queued rolls to stay awake, applied at once. -/
  | wake
  /-- The roll to wake up, applied at once. -/
  | recover

/-- The wounds since the queue was cleared, when a pilot `p` has become `q`. Death
clears the queue. -/
def Pilot.freshAfter (fresh : Nat) (p q : Pilot) : Nat :=
  if q.dead then 0 else fresh + (q.wounds - p.wounds)

/-- A pilot on the way through a battle. -/
structure Career where
  pilot : Pilot
  /-- Wounds taken since the queue of rolls was last cleared. -/
  fresh : Nat := 0
  deriving DecidableEq

namespace Career

/-- A pilot without a wound. -/
def start (name : String) (gunnery piloting : Int) : Career := ⟨{ name, gunnery, piloting }, 0⟩

/-- The career after more wounds. -/
def hurt (rules : Rules) (c : Career) (hits : Nat) : Career where
  pilot := c.pilot.takeHits rules hits
  fresh := Pilot.freshAfter c.fresh c.pilot (c.pilot.takeHits rules hits)

/-- The career after consciousness rolls. A roll to stay awake clears the queue. -/
def settle (c : Career) (checks : List ConsciousnessRoll) : Career where
  pilot := c.pilot.afterRolls checks
  fresh := if checks.any (!·.recovery) then 0 else c.fresh

/-- One trial. -/
def go (rules : Rules) (c : Career) : Trial → Rolls Career
  | .hits hits => return c.hurt rules hits
  | .wake => return c.settle (← c.pilot.wakeRolls)
  | .recover => return c.settle (← c.pilot.recoveryRoll rules).toList

/-- Trials, one after the other. -/
def run (rules : Rules) (c : Career) : List Trial → Rolls Career
  | [] => return c
  | t :: rest => do (← c.go rules t).run rules rest

end Career

/-! ### The account of a pilot -/

namespace Pilot

open Rolls

variable {rules : Rules} {p : Pilot} {fresh : Nat} {checks : List ConsciousnessRoll}

/-- The wounds, the queue and the state of a pilot agree: the dead have all lethal wounds
and the living fewer, and the queue holds the numbers of the last `fresh` wounds, oldest
first. -/
structure Accounted (rules : Rules) (fresh : Nat) (p : Pilot) : Prop where
  living : p.dead = false → p.wounds < rules.lethalWounds
  lethal : p.dead = true → p.wounds = rules.lethalWounds ∧ p.conscious = false ∧ fresh = 0
  fresh_le : fresh ≤ p.wounds
  pending : p.pending.map some =
    (List.range' (p.wounds + 1 - fresh) fresh).map rules.consciousnessNumber?
  wounded : p.conscious = false → 0 < p.wounds

/-- Without wounds since the queue was cleared nothing is queued. -/
lemma Accounted.pending_eq_nil (h : p.Accounted rules 0) : p.pending = [] := by
  simpa using h.pending

lemma takeHits_of_dead (h : p.dead = true) (hits : Nat) : p.takeHits rules hits = p :=
  wound_of_dead h hits

lemma takeHits_succ (alive : p.dead = false) (hits : Nat) :
    p.takeHits rules (hits + 1) =
      (p.woundOnce rules.lethalWounds rules.consciousnessNumber?).takeHits rules hits := by
  rw [takeHits, wound, alive, if_neg Bool.false_ne_true, takeHits]

lemma Accounted.freshAfter_self (h : p.Accounted rules fresh) : freshAfter fresh p p = fresh := by
  cases hdead : p.dead with
  | false => simp [freshAfter, hdead]
  | true => simp [freshAfter, hdead, (h.lethal hdead).2.2]

/-- Wounds since the queue was cleared are counted on. -/
lemma freshAfter_trans {q r : Pilot} (hpq : p.wounds ≤ q.wounds) (hqr : q.wounds ≤ r.wounds)
    (hdead : q.dead = true → r.dead = true) :
    freshAfter (freshAfter fresh p q) q r = freshAfter fresh p r := by
  cases hr : r.dead with
  | true => simp [freshAfter, hr]
  | false =>
      have hq : q.dead = false := by
        by_contra hq
        rw [hdead (Bool.eq_true_of_not_eq_false hq)] at hr
        cases hr
      simp only [freshAfter, hq, hr, Bool.false_eq_true, if_false]
      omega

/-- One wound keeps the account of the living. -/
lemma accounted_woundOnce (sound : rules.Sound) (counted : rules.lethalWounds ≤ woundLimit)
    (h : p.Accounted rules fresh) (alive : p.dead = false) {q : Pilot}
    (hq : p.woundOnce rules.lethalWounds rules.consciousnessNumber? = q) :
    p.wounds ≤ q.wounds ∧ q.Accounted rules (freshAfter fresh p q) := by
  have hliving := h.living alive
  have hwounds : min woundLimit (p.wounds + 1) = p.wounds + 1 := by omega
  rw [woundOnce, hwounds] at hq
  split at hq
  · next hdead =>
      subst hq
      refine ⟨Nat.le_succ _, ?_, ?_, Nat.zero_le _, rfl, fun _ => Nat.succ_pos _⟩
      · rintro ⟨⟩
      · intro _
        exact ⟨by dsimp only; omega, rfl, rfl⟩
  · next hsurvives =>
      obtain ⟨number, hnumber⟩ := Option.isSome_iff_exists.mp
        ((Rules.isSome_consciousnessNumber? sound (p.wounds + 1)).mpr (by omega))
      have hle := h.fresh_le
      have hfirst : p.wounds + 1 + 1 - (fresh + 1) = p.wounds + 1 - fresh := by omega
      have hlast : p.wounds + 1 - fresh + fresh = p.wounds + 1 := by omega
      have hfresh : freshAfter fresh p q = fresh + 1 := by
        rw [← hq, freshAfter, alive, if_neg Bool.false_ne_true]
        dsimp only
        omega
      rw [hfresh]
      subst hq
      refine ⟨Nat.le_succ _, fun _ => by dsimp only; omega, ?_, by dsimp only; omega, ?_,
        fun _ => Nat.succ_pos _⟩
      · intro hdead
        rw [alive] at hdead
        cases hdead
      · simp only [List.map_append, h.pending, hnumber, hfirst, List.range'_1_concat, hlast,
          Option.toList_some, List.map_cons, List.map_nil]

/-- Wounds keep the account. -/
lemma accounted_takeHits (sound : rules.Sound) (counted : rules.lethalWounds ≤ woundLimit)
    (h : p.Accounted rules fresh) (hits : Nat) :
    p.wounds ≤ (p.takeHits rules hits).wounds ∧
      (p.takeHits rules hits).Accounted rules
        (freshAfter fresh p (p.takeHits rules hits)) := by
  induction hits generalizing p fresh with
  | zero =>
      rw [takeHits, wound, h.freshAfter_self]
      exact ⟨le_rfl, h⟩
  | succ hits ih =>
      cases hdead : p.dead with
      | true =>
          rw [takeHits_of_dead hdead, h.freshAfter_self]
          exact ⟨le_rfl, h⟩
      | false =>
          obtain ⟨hle, hfirst⟩ := accounted_woundOnce sound counted h hdead rfl
          obtain ⟨hle', hrest⟩ := ih hfirst
          rw [takeHits_succ hdead]
          refine ⟨hle.trans hle', ?_⟩
          rwa [freshAfter_trans hle hle' fun hd => by rwa [takeHits_of_dead hd]] at hrest

/-- Those who only roll to wake up do not fall asleep. -/
lemma foldl_awakeAfter_true (h : ∀ check ∈ checks, check.recovery = true) :
    checks.foldl awakeAfter true = true := by
  induction checks with
  | nil => rfl
  | cons check rest ih =>
      obtain ⟨hcheck, hrest⟩ := List.forall_mem_cons.mp h
      rw [List.foldl_cons, awakeAfter, if_pos hcheck, Bool.true_or]
      exact ih hrest

/-- Rolls keep the account of the living, if only the wounded roll to stay awake. -/
lemma Accounted.afterRolls (h : p.Accounted rules fresh) (alive : p.dead = false)
    (wounded : p.wounds = 0 → ∀ check ∈ checks, check.recovery = true) :
    (p.afterRolls checks).Accounted rules
      (if checks.any (!·.recovery) then 0 else fresh) := by
  have hdead : (p.afterRolls checks).dead ≠ true := by
    rw [Pilot.afterRolls, alive]
    exact Bool.false_ne_true
  refine ⟨fun _ => h.living alive, fun hd => absurd hd hdead, ?_, ?_, fun hasleep => ?_⟩
  · split
    · exact Nat.zero_le _
    · exact h.fresh_le
  · rw [Pilot.afterRolls]
    split
    · rfl
    · exact h.pending
  · by_contra hnone
    have hzero : p.wounds = 0 := Nat.eq_zero_of_not_pos hnone
    have hawake : p.conscious = true := by
      by_contra hp
      exact hnone (h.wounded (Bool.eq_false_iff.mpr hp))
    rw [Pilot.afterRolls, hawake, foldl_awakeAfter_true (wounded hzero)] at hasleep
    cases hasleep

/-! ### Rolls of a pilot -/

/-- Without a queue there are no rolls to stay awake. -/
lemma wakeRolls_of_pending (h : p.pending = []) : p.wakeRolls = pure [] := by
  rw [wakeRolls, h, rollQueue, ite_self]

lemma wakeRolls_of_dead (h : p.dead = true) : p.wakeRolls = pure [] := by
  rw [wakeRolls, isActive, h]
  simp

lemma recoveryRoll_of_dead (h : p.dead = true) : p.recoveryRoll rules = pure none := by
  rw [recoveryRoll, h]
  simp

lemma recoveryRoll_of_conscious (h : p.conscious = true) : p.recoveryRoll rules = pure none := by
  rw [recoveryRoll, h]
  simp

/-- Those who are unconscious and alive roll to wake up against the number for their
wounds. -/
lemma recoveryRoll_of_asleep {target : Int} (asleep : p.conscious = false)
    (alive : p.dead = false) (htarget : rules.consciousnessNumber? p.wounds = some target) :
    p.recoveryRoll rules = some <$> rollAgainst target true := by
  rw [recoveryRoll, asleep, alive, htarget]
  simp

lemma recovery_of_recoveryRoll {found : Option ConsciousnessRoll}
    (h : (p.recoveryRoll rules).Yields found) : ∀ check ∈ found.toList, check.recovery = true := by
  rw [recoveryRoll] at h
  split at h
  · rw [yields_pure.mp h]
    simp
  · split at h
    · obtain ⟨check, hcheck, h⟩ := yields_bind.mp h
      obtain ⟨roll, -, hroll⟩ := yields_bind.mp hcheck
      rw [yields_pure.mp h, yields_pure.mp hroll]
      simp
    · rw [yields_pure.mp h]
      simp

end Pilot

/-! ### Every trial keeps the account -/

namespace Career

open Rolls

variable {rules : Rules} {c d : Career}

/-- Whether the account of a career is right. -/
def Accounted (rules : Rules) (c : Career) : Prop := c.pilot.Accounted rules c.fresh

lemma accounted_start (name : String) (gunnery piloting : Int) (lethal : 0 < rules.lethalWounds) :
    (start name gunnery piloting).Accounted rules where
  living _ := lethal
  lethal := by rintro ⟨⟩
  fresh_le := le_rfl
  pending := rfl
  wounded := by rintro ⟨⟩

lemma settle_nil (c : Career) : c.settle [] = c := rfl

/-- No trial changes the dead, nor does it take a die. -/
lemma go_of_dead (h : c.Accounted rules) (dead : c.pilot.dead = true) (t : Trial) :
    c.go rules t = pure c := by
  cases t with
  | hits hits =>
      rw [go, hurt, Pilot.takeHits_of_dead dead, h.freshAfter_self]
  | wake => rw [go, Pilot.wakeRolls_of_dead dead, pure_bind, settle_nil]
  | recover =>
      rw [go, Pilot.recoveryRoll_of_dead dead, pure_bind, Option.toList_none, settle_nil]

/-- Nothing happens to the dead any more. -/
lemma run_of_dead (h : c.Accounted rules) (dead : c.pilot.dead = true) (trials : List Trial) :
    c.run rules trials = pure c := by
  induction trials with
  | nil => rfl
  | cons t rest ih => rw [run, go_of_dead h dead, pure_bind, ih]

/-- **Every trial keeps the account**, whatever the dice show. -/
lemma accounted_of_go (sound : rules.Sound) (counted : rules.lethalWounds ≤ Pilot.woundLimit)
    (h : c.Accounted rules) {t : Trial} (hgo : (c.go rules t).Yields d) : d.Accounted rules := by
  cases hdead : c.pilot.dead with
  | true =>
      rw [go_of_dead h hdead, yields_pure] at hgo
      rw [hgo]
      exact h
  | false =>
      cases t with
      | hits hits =>
          rw [yields_pure.mp hgo]
          exact (Pilot.accounted_takeHits sound counted h hits).2
      | wake =>
          obtain ⟨checks, hchecks, hgo⟩ := yields_bind.mp hgo
          rw [yields_pure.mp hgo]
          refine h.afterRolls hdead fun hzero => ?_
          -- without a wound nothing is queued
          have hfresh : c.fresh = 0 := by
            have := h.fresh_le
            omega
          have hnone : c.pilot.pending = [] := by
            rw [Accounted, hfresh] at h
            exact h.pending_eq_nil
          rw [Pilot.wakeRolls_of_pending hnone, yields_pure] at hchecks
          rw [hchecks]
          exact fun _ hc => absurd hc List.not_mem_nil
      | recover =>
          obtain ⟨found, hfound, hgo⟩ := yields_bind.mp hgo
          rw [yields_pure.mp hgo]
          exact h.afterRolls hdead fun _ => Pilot.recovery_of_recoveryRoll hfound

lemma accounted_of_run (sound : rules.Sound) (counted : rules.lethalWounds ≤ Pilot.woundLimit)
    (h : c.Accounted rules) {trials : List Trial} (hrun : (c.run rules trials).Yields d) :
    d.Accounted rules := by
  induction trials generalizing c with
  | nil =>
      rw [yields_pure.mp hrun]
      exact h
  | cons t rest ih =>
      obtain ⟨e, hgo, hrun⟩ := yields_bind.mp hrun
      exact ih (accounted_of_go sound counted h hgo) hrun

end Career

/-- **The life of a pilot.** Whatever happens to a pilot who had no wound, wounds stay
within the lethal number, which means death. The dead are unconscious, have nothing left
to roll, and nothing changes them or takes a die for them any more. The queue of the
living holds the numbers of their last wounds, oldest first, as many as they took since
the queue was last cleared. A roll to wake up is made just by those who are unconscious
and alive, against the number for their wounds. -/
theorem life_of_run {σ : Type} [DiceSource σ] (rules : Rules) (sound : rules.Sound)
    (lethal : 1 ≤ rules.lethalWounds) (counted : rules.lethalWounds ≤ Pilot.woundLimit)
    (name : String) (gunnery piloting : Int) (trials : List Trial) (c : Career) (dice rest : σ)
    (h : ((Career.start name gunnery piloting).run rules trials).run dice = (some c, rest)) :
    c.pilot.wounds ≤ rules.lethalWounds ∧
      (c.pilot.dead = true ↔ c.pilot.wounds = rules.lethalWounds) ∧
      (c.pilot.dead = true → c.pilot.conscious = false ∧ c.pilot.pending = [] ∧
        ∀ later, c.run rules later = pure c) ∧
      (c.pilot.dead = false → c.fresh ≤ c.pilot.wounds ∧
        c.pilot.pending.map some = (List.range' (c.pilot.wounds + 1 - c.fresh) c.fresh).map
          rules.consciousnessNumber?) ∧
      (c.pilot.conscious = false ∧ c.pilot.dead = false →
        ∃ target, rules.consciousnessNumber? c.pilot.wounds = some target ∧
          c.pilot.recoveryRoll rules = some <$> Pilot.rollAgainst target true) ∧
      (¬ (c.pilot.conscious = false ∧ c.pilot.dead = false) →
        c.pilot.recoveryRoll rules = pure none) := by
  have hc : c.Accounted rules := Career.accounted_of_run sound counted
    (Career.accounted_start name gunnery piloting lethal) (Rolls.yields_of_run h)
  refine ⟨?_, ⟨fun hdead => (hc.lethal hdead).1, fun hwounds => ?_⟩, fun hdead => ?_,
    fun _ => ⟨hc.fresh_le, hc.pending⟩, ?_, fun hnot => ?_⟩
  · cases hdead : c.pilot.dead with
    | true => exact (hc.lethal hdead).1.le
    | false => exact (hc.living hdead).le
  · by_contra hdead
    have hlt := hc.living (Bool.eq_false_iff.mpr hdead)
    omega
  · obtain ⟨-, hasleep, hfresh⟩ := hc.lethal hdead
    refine ⟨hasleep, ?_, fun later => Career.run_of_dead hc hdead later⟩
    rw [Career.Accounted, hfresh] at hc
    exact hc.pending_eq_nil
  · rintro ⟨hasleep, halive⟩
    obtain ⟨target, htarget⟩ := Option.isSome_iff_exists.mp
      ((Rules.isSome_consciousnessNumber? sound c.pilot.wounds).mpr
        ⟨hc.wounded hasleep, hc.living halive⟩)
    exact ⟨target, htarget, Pilot.recoveryRoll_of_asleep hasleep halive htarget⟩
  · cases hawake : c.pilot.conscious with
    | true => exact Pilot.recoveryRoll_of_conscious hawake
    | false =>
        refine Pilot.recoveryRoll_of_dead ?_
        by_contra hdead
        exact hnot ⟨hawake, Bool.eq_false_iff.mpr hdead⟩

/-- A pilot who is knocked out, wounded again and wakes up has one number left to roll
against. Nine more wounds are more than it takes. -/
theorem life_of_run_knocked_out :
    let trials : List Trial := [.hits 2, .wake, .hits 1, .recover]
    let awake : Career :=
      ⟨{ name := "Pilot", gunnery := 4, piloting := 5, wounds := 3, pending := [7] }, 1⟩
    let killed : Career :=
      ⟨{ name := "Pilot", gunnery := 4, piloting := 5, wounds := 6, conscious := false,
         dead := true }, 0⟩
    ((Career.start "Pilot" 4 5).run {} trials).run (⟨[2, 2, 1, 1, 3, 3], 0⟩ : Script) =
        (some awake, ⟨[], 6⟩) ∧
      awake.pilot.pending.map some =
        (List.range' 3 1).map Rules.standard.consciousnessNumber? ∧
      ((Career.start "Pilot" 4 5).run {} (trials ++ [.hits 9])).run
        (⟨[2, 2, 1, 1, 3, 3], 0⟩ : Script) = (some killed, ⟨[], 6⟩) ∧
      ∀ later, killed.run {} later = pure killed := by
  intro trials awake killed
  have hawake : ((Career.start "Pilot" 4 5).run {} trials).run
      (⟨[2, 2, 1, 1, 3, 3], 0⟩ : Script) = (some awake, ⟨[], 6⟩) := by decide +kernel
  have hkilled : ((Career.start "Pilot" 4 5).run {} (trials ++ [.hits 9])).run
      (⟨[2, 2, 1, 1, 3, 3], 0⟩ : Script) = (some killed, ⟨[], 6⟩) := by decide +kernel
  obtain ⟨-, -, -, hliving, -⟩ := life_of_run {} Rules.sound_standard (by decide) (by decide)
    "Pilot" 4 5 _ awake _ _ hawake
  obtain ⟨-, -, hdead, -⟩ := life_of_run {} Rules.sound_standard (by decide) (by decide)
    "Pilot" 4 5 _ killed _ _ hkilled
  exact ⟨hawake, (hliving rfl).2, hkilled, (hdead rfl).2.2⟩

end MechBattle
