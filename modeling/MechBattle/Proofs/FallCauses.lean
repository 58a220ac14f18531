/-
Why a unit has to roll, and what stops the roll.

Hits on what a mech stands with are causes of a roll, the gyro before the hip before
the other leg actuators, and much damage is one where no hit is. A roll is refused
without a pilot; a fall is refused to units that are no mechs or not on the board.

* `FallCause.Raised`, `FallCause.Presses`: what raises a cause, and the most pressing of
  those that are raised, with `fallCause?_eq_some_iff`: it is the one that is looked for;
* `Rolls.run_bind_eq_iff`: a run of two rules in a row, seen from its end;
* `BattleUnit.FailsToStand`: the roll to keep standing fails on some dice;
* `run_resolveCause_refused_iff`: what a roll and the fall after it are refused for;
* `refusals_of_resolveFall`: which answer there is, exactly;
* `run_resolveFall_filter_iff`: a hit on a gyro that is not there ends it all, whatever
  else was hit.
-/
import MechBattle.BattleUnit.Assembly
import MechBattle.Dice.Script
import MechBattle.Fall.Report
import MechBattle.Proofs.Course

namespace MechBattle

universe u v

/-! ### The most pressing cause -/

namespace FallCause

variable {rules : Rules} {hits : List ComponentKind} {damage : Int}

/-- How pressing a cause is, the most pressing first. -/
def rank : FallCause → Nat
  | gyroHit => 0
  | hipHit => 1
  | legActuatorHit => 2
  | heavyDamage => 3

/-- Whether hits on components and damage raise a cause. -/
def Raised (rules : Rules) (hits : List ComponentKind) (damage : Int) : FallCause → Prop
  | gyroHit => .gyro ∈ hits
  | hipHit => .hip ∈ hits
  | legActuatorHit => ∃ k ∈ hits, k.isLowerLeg = true
  | heavyDamage => rules.heavyDamageThreshold ≤ damage

/-- Whether a cause is the most pressing one that is raised. -/
def Presses (rules : Rules) (hits : List ComponentKind) (damage : Int) (cause : FallCause) :
    Prop :=
  cause.Raised rules hits damage ∧
    ∀ other : FallCause, other.rank < cause.rank → ¬ other.Raised rules hits damage

lemma mem_all (cause : FallCause) : cause ∈ all := by
  cases cause <;> decide

lemma rank_injective : Function.Injective rank := by
  intro c d h
  cases c <;> cases d <;> simp_all [rank]

/-- One cause presses most. -/
lemma Presses.unique {c d : FallCause} (hc : c.Presses rules hits damage)
    (hd : d.Presses rules hits damage) : c = d := by
  rcases lt_trichotomy c.rank d.rank with h | h | h
  · exact absurd hc.1 (hd.2 c h)
  · exact rank_injective h
  · exact absurd hd.1 (hc.2 d h)

lemma ofComponent?_eq_gyroHit {k : ComponentKind} : ofComponent? k = some gyroHit ↔ k = .gyro := by
  cases k <;> simp [ofComponent?]

lemma ofComponent?_eq_hipHit {k : ComponentKind} : ofComponent? k = some hipHit ↔ k = .hip := by
  cases k <;> simp [ofComponent?]

lemma ofComponent?_eq_legActuatorHit {k : ComponentKind} :
    ofComponent? k = some legActuatorHit ↔ k.isLowerLeg = true := by
  cases k <;> decide

lemma ofComponent?_ne_heavyDamage (k : ComponentKind) : ofComponent? k ≠ some heavyDamage := by
  cases k <;> simp [ofComponent?]

/-- The causes among the hits are those that hits raise. -/
lemma contains_causes (rules : Rules) (hits : List ComponentKind) (damage : Int)
    (cause : FallCause) :
    (hits.filterMap ofComponent?).contains cause = true ↔
      cause ≠ heavyDamage ∧ cause.Raised rules hits damage := by
  rw [List.contains_iff_mem, List.mem_filterMap]
  cases cause with
  | gyroHit => simp [ofComponent?_eq_gyroHit, Raised]
  | hipHit => simp [ofComponent?_eq_hipHit, Raised]
  | legActuatorHit => simp [ofComponent?_eq_legActuatorHit, Raised]
  | heavyDamage => simp [ofComponent?_ne_heavyDamage]

end FallCause

section causes

open FallCause

variable {rules : Rules} {hits : List ComponentKind} {damage : Int}

/-- What is looked for is the first cause of all that is raised. -/
lemma fallCause?_eq_find? [DecidablePred (Raised rules hits damage)] :
    fallCause? rules hits damage =
      FallCause.all.find? fun c => decide (c.Raised rules hits damage) := by
  have hcontains : ∀ c, c ≠ heavyDamage → (hits.filterMap ofComponent?).contains c =
      decide (c.Raised rules hits damage) := by
    intro c hc
    rw [Bool.eq_iff_iff, contains_causes rules hits damage, decide_eq_true_iff]
    exact and_iff_right hc
  have hheavy : (hits.filterMap ofComponent?).contains heavyDamage = false := by
    rw [Bool.eq_false_iff, ne_eq, contains_causes rules hits damage]
    exact fun h => h.1 rfl
  simp only [fallCause?, FallCause.all, List.find?_cons, List.find?_nil, hheavy,
    hcontains gyroHit (by decide), hcontains hipHit (by decide),
    hcontains legActuatorHit (by decide)]
  cases decide (Raised rules hits damage gyroHit) with
  | true => rfl
  | false =>
      cases decide (Raised rules hits damage hipHit) with
      | true => rfl
      | false =>
          cases decide (Raised rules hits damage legActuatorHit) with
          | true => rfl
          | false => by_cases h : rules.heavyDamageThreshold ≤ damage <;> simp [Raised, h]

lemma fallCause?_eq_none_iff :
    fallCause? rules hits damage = none ↔
      ∀ cause : FallCause, ¬ cause.Raised rules hits damage := by
  classical
  rw [fallCause?_eq_find?, List.find?_eq_none]
  simp only [decide_eq_true_iff]
  exact ⟨fun h cause => h cause (mem_all cause), fun h cause _ => h cause⟩

lemma presses_of_fallCause? {cause : FallCause} (h : fallCause? rules hits damage = some cause) :
    cause.Presses rules hits damage := by
  classical
  rw [fallCause?_eq_find?, List.find?_eq_some_iff_append] at h
  obtain ⟨hraised, before, after, hall, hbefore⟩ := h
  refine ⟨of_decide_eq_true hraised, fun other hlt hother => ?_⟩
  -- causes stand in the order of their ranks, so a more pressing one stands before
  have hsorted : FallCause.all.Pairwise fun c d => c.rank < d.rank := by decide
  have hmem := mem_all other
  rw [hall] at hsorted hmem
  rcases List.mem_append.mp hmem with hb | hb
  · simpa [hother] using hbefore other hb
  · rcases List.mem_cons.mp hb with rfl | ha
    · exact lt_irrefl _ hlt
    · have := List.rel_of_pairwise_cons (List.pairwise_append.mp hsorted).2.1 ha
      omega

/-- **The cause that is looked for** is the most pressing one that is raised. -/
lemma fallCause?_eq_some_iff {cause : FallCause} :
    fallCause? rules hits damage = some cause ↔ cause.Presses rules hits damage := by
  refine ⟨presses_of_fallCause?, fun h => ?_⟩
  cases hfound : fallCause? rules hits damage with
  | none => exact absurd h.1 (fallCause?_eq_none_iff.mp hfound cause)
  | some found => rw [h.unique (presses_of_fallCause? hfound)]

/-- Whether nothing raises a cause: no hit is on a gyro, a hip or another leg actuator,
and damage is below the threshold. -/
def Calm (rules : Rules) (hits : List ComponentKind) (damage : Int) : Prop :=
  (∀ k ∈ hits, k ≠ .gyro ∧ k.isLegActuator = false) ∧ damage < rules.heavyDamageThreshold

lemma calm_iff : Calm rules hits damage ↔ fallCause? rules hits damage = none := by
  have hactuator : ∀ k : ComponentKind,
      k.isLegActuator = false ↔ k ≠ .hip ∧ k.isLowerLeg = false := by
    intro k
    cases k <;> decide
  rw [fallCause?_eq_none_iff, Calm]
  constructor
  · rintro ⟨hhits, hdamage⟩ cause hraised
    cases cause with
    | gyroHit => exact (hhits _ hraised).1 rfl
    | hipHit => exact ((hactuator _).mp (hhits _ hraised).2).1 rfl
    | legActuatorHit =>
        obtain ⟨k, hk, hlower⟩ := hraised
        rw [((hactuator k).mp (hhits k hk).2).2] at hlower
        cases hlower
    | heavyDamage => exact absurd hraised (not_le.mpr hdamage)
  · intro hnone
    refine ⟨fun k hk => ⟨?_, (hactuator k).mpr ⟨?_, ?_⟩⟩, not_le.mp (hnone heavyDamage)⟩
    · rintro rfl
      exact hnone gyroHit hk
    · rintro rfl
      exact hnone hipHit hk
    · exact Bool.eq_false_iff.mpr fun hlower => hnone legActuatorHit ⟨k, hk, hlower⟩

end causes

/-! ### What a roll is refused for -/

namespace Rolls

variable {α β : Type u} {σ : Type v} [DiceSource σ]

lemma run_pure_eq_iff {a b : α} {s t : σ} :
    (pure a : Rolls α).run s = (some b, t) ↔ b = a ∧ t = s := by
  rw [run_pure, Prod.mk.injEq, Option.some.injEq, eq_comm, eq_comm (a := s)]

/-- Two rules in a row come to a result where the first comes to one and the second
goes on from there. -/
lemma run_bind_eq_iff {m : Rolls α} {f : α → Rolls β} {s t : σ} {b : β} :
    (m >>= f).run s = (some b, t) ↔
      ∃ a r, m.run s = (some a, r) ∧ (f a).run r = (some b, t) := by
  rw [run_bind]
  obtain ⟨found, r⟩ := m.run s
  cases found with
  | none => simp
  | some a => simp

end Rolls

namespace BattleUnit

open Rolls

variable {rules : Rules} {u : BattleUnit} {board : Option Board} {cause : FallCause}
  {hits : List ComponentKind} {damage : Int} {game : String} {refusal : Refusal}
  {σ : Type} [DiceSource σ] {s t : σ}

/-- Whoever has what the roll is about is refused for want of a pilot only. -/
lemma pilotingCheck_eq_error_iff {reasons : List CheckReason} {damage : Option Int}
    (hmissing : u.missing? reasons = none) :
    pilotingCheck rules u reasons board damage = .error refusal ↔
      u.pilot = none ∧ refusal = .missingPilot u.id := by
  rw [pilotingCheck, hmissing]
  cases u.pilot with
  | none => simp [eq_comm]
  | some pilot => simp

/-- A unit that carries all that was struck has what the roll is about. A hit on any
leg actuator below the hip shows that there is one. -/
lemma missing?_reason (carried : ∀ k ∈ hits, u.hasComponent k = true)
    (raised : cause.Raised rules hits damage) : u.missing? [cause.reason] = none := by
  have hrequired : u.hasRequired cause.reason = true := by
    cases cause with
    | gyroHit => exact carried .gyro raised
    | hipHit => exact carried .hip raised
    | legActuatorHit =>
        obtain ⟨k, hk, hlower⟩ := raised
        obtain ⟨⟨l, c⟩, hc, hkind⟩ := List.any_eq_true.mp (carried k hk)
        refine List.any_eq_true.mpr ⟨(l, c), hc, ?_⟩
        dsimp only at hkind ⊢
        rwa [beq_iff_eq.mp hkind]
    | heavyDamage => rfl
  simp only [missing?, List.findSome?_cons, List.findSome?_nil, hrequired, if_true]
  cases cause.reason.required? <;> rfl

/-- The roll to keep standing for a cause. Damage makes it harder when that is the
cause. -/
def standingCheck (rules : Rules) (u : BattleUnit) (board : Option Board) (cause : FallCause)
    (damage : Int) : Except Refusal PilotingCheck :=
  pilotingCheck rules u [cause.reason] board (if cause = .heavyDamage then some damage else none)

/-- Whether the roll to keep standing for a cause fails on some dice, which leaves
others. -/
def FailsToStand (rules : Rules) (u : BattleUnit) (board : Option Board) (cause : FallCause)
    (damage : Int) (s t : σ) : Prop :=
  ∃ check outcome, standingCheck rules u board cause damage = .ok check ∧
    check.roll.run s = (some outcome, t) ∧ outcome.success = false

/-- What is recorded of a unit that keeps standing. -/
def standingReport (u : BattleUnit) (cause : FallCause) (game : String) (check : PilotingCheck)
    (outcome : CheckOutcome) : FallReport :=
  { game, unit := u.id, stages := stagesToRoll ++ [.done], cause, check, outcome }

/-- All that a roll for a cause can come to: it is refused, or it succeeds, or it fails
and the unit falls down. -/
lemma run_resolveCause_iff {answer : Except Refusal FallReport} :
    (resolveCause rules u board cause damage game).run s = (some answer, t) ↔
      (∃ e, standingCheck rules u board cause damage = .error e ∧ answer = .error e ∧ t = s) ∨
        ∃ check outcome r, standingCheck rules u board cause damage = .ok check ∧
          check.roll.run s = (some outcome, r) ∧
          ((outcome.success = true ∧
              answer = .ok (u.standingReport cause game check outcome) ∧ t = r) ∨
            (outcome.success = false ∧
              (fallDown rules u board (u.standingReport cause game check outcome)).run r =
                (some answer, t))) := by
  rw [resolveCause]
  dsimp only
  rw [← standingCheck]
  cases standingCheck rules u board cause damage with
  | error e => simp [run_pure_eq_iff]
  | ok check =>
      dsimp only
      rw [run_bind_eq_iff]
      constructor
      · rintro ⟨outcome, r, hroll, h⟩
        refine .inr ⟨check, outcome, r, rfl, hroll, ?_⟩
        cases hsuccess : outcome.success with
        | true =>
            rw [hsuccess, if_pos rfl, run_pure_eq_iff] at h
            exact .inl ⟨rfl, h⟩
        | false =>
            rw [hsuccess, if_neg Bool.false_ne_true] at h
            exact .inr ⟨rfl, h⟩
      · rintro (⟨_, ⟨⟩, -⟩ | ⟨_, outcome, r, ⟨⟩, hroll, h⟩)
        refine ⟨outcome, r, hroll, ?_⟩
        rcases h with ⟨hsuccess, h⟩ | ⟨hfailure, h⟩
        · rw [hsuccess, if_pos rfl]
          exact run_pure_eq_iff.mpr h
        · rw [hfailure, if_neg Bool.false_ne_true]
          exact h

/-- All that a fall of a unit with a pilot can come to: it is refused before any dice
are thrown for the landing, or it is reported for the cause rolled for. -/
lemma run_fallDown (pilot : u.pilot ≠ none) {standing : FallReport}
    {answer : Except Refusal FallReport}
    (h : (fallDown rules u board standing).run s = (some answer, t)) :
    (∃ e, u.cannotFall? = some e ∧ answer = .error e ∧ t = s) ∨
      (u.cannotFall? = none ∧ ∃ r, answer = .ok r ∧ r.cause = standing.cause) := by
  have hmissing : u.missing? [.fallInjury 0] = none := rfl
  rw [fallDown] at h
  split at h
  · next hcheck => exact absurd ((pilotingCheck_eq_error_iff hmissing).mp hcheck).1 pilot
  · obtain ⟨result, r, hresult, hrest⟩ := run_bind_eq_iff.mp h
    rw [land] at hresult
    split at hresult
    · next e hland =>
        obtain ⟨rfl, rfl⟩ := run_pure_eq_iff.mp hresult
        exact .inl ⟨e, hland, run_pure_eq_iff.mp hrest⟩
    · next hland =>
        obtain ⟨landing, r', -, hdone⟩ := run_bind_eq_iff.mp hresult
        obtain ⟨rfl, rfl⟩ := run_pure_eq_iff.mp hdone
        exact .inr ⟨hland, _, (run_pure_eq_iff.mp hrest).1, rfl⟩

/-- A unit that cannot land is refused a fall. -/
lemma run_fallDown_of_cannotFall (pilot : u.pilot ≠ none) (standing : FallReport)
    (hland : u.cannotFall? = some refusal) :
    (fallDown rules u board standing).run s = (some (.error refusal), s) := by
  have hmissing : u.missing? [.fallInjury 0] = none := rfl
  rw [fallDown]
  split
  · next hcheck => exact absurd ((pilotingCheck_eq_error_iff hmissing).mp hcheck).1 pilot
  · rw [land, hland, pure_bind]
    rfl

lemma pilot_of_standingCheck {check : PilotingCheck}
    (h : standingCheck rules u board cause damage = .ok check) : u.pilot ≠ none := by
  intro hnone
  rw [standingCheck, pilotingCheck, hnone] at h
  cases h

/-- **What a roll and the fall after it are refused for**: the roll, with all dice still
there; the fall, when the roll has failed, for want of a landing. -/
lemma run_resolveCause_refused_iff :
    (resolveCause rules u board cause damage game).run s = (some (.error refusal), t) ↔
      (standingCheck rules u board cause damage = .error refusal ∧ t = s) ∨
        (u.FailsToStand rules board cause damage s t ∧ u.cannotFall? = some refusal) := by
  rw [run_resolveCause_iff]
  constructor
  · rintro (⟨e, hcheck, heq, rfl⟩ | ⟨check, outcome, r, hcheck, hroll, h⟩)
    · rw [Except.error.inj heq]
      exact .inl ⟨hcheck, rfl⟩
    · rcases h with ⟨-, ⟨⟩, -⟩ | ⟨hfailure, hfall⟩
      rcases run_fallDown (pilot_of_standingCheck hcheck) hfall with
        ⟨e, hland, heq, rfl⟩ | ⟨-, r', ⟨⟩, -⟩
      rw [Except.error.inj heq]
      exact .inr ⟨⟨check, outcome, hcheck, hroll, hfailure⟩, hland⟩
  · rintro (⟨hcheck, rfl⟩ | ⟨⟨check, outcome, hcheck, hroll, hfailure⟩, hland⟩)
    · exact .inl ⟨_, hcheck, rfl, rfl⟩
    · refine .inr ⟨check, outcome, t, hcheck, hroll, .inr ⟨hfailure, ?_⟩⟩
      exact run_fallDown_of_cannotFall (pilot_of_standingCheck hcheck) _ hland

/-- Whoever has what the roll is about is refused the roll for want of a pilot only. -/
lemma run_resolveCause_error_iff (hmissing : u.missing? [cause.reason] = none) :
    (resolveCause rules u board cause damage game).run s = (some (.error refusal), t) ↔
      (u.pilot = none ∧ refusal = .missingPilot u.id ∧ t = s) ∨
        (u.FailsToStand rules board cause damage s t ∧ u.cannotFall? = some refusal) := by
  rw [run_resolveCause_refused_iff, standingCheck, pilotingCheck_eq_error_iff hmissing, and_assoc]

/-- A report names the cause that was rolled for. -/
lemma cause_of_resolveCause {r : FallReport}
    (h : (resolveCause rules u board cause damage game).run s = (some (.ok r), t)) :
    r.cause = cause := by
  rcases run_resolveCause_iff.mp h with ⟨e, -, ⟨⟩, -⟩ | ⟨check, outcome, r', hcheck, -, h⟩
  rcases h with ⟨-, heq, -⟩ | ⟨-, hfall⟩
  · rw [Except.ok.inj heq, standingReport]
  · rcases run_fallDown (pilot_of_standingCheck hcheck) hfall with
      ⟨e, -, ⟨⟩, -⟩ | ⟨-, r'', heq, hcause⟩
    rw [Except.ok.inj heq, hcause, standingReport]

lemma cannotFall?_eq_some_iff :
    u.cannotFall? = some refusal ↔
      (u.kind ≠ .mech ∧ refusal = .notAMech u.id) ∨
        (u.kind = .mech ∧ u.position = none ∧ refusal = .notDeployed u.id) := by
  rw [cannotFall?, isDeployed]
  by_cases hkind : u.kind = .mech
  · cases u.position with
    | none => simp [hkind, eq_comm]
    | some here => simp [hkind]
  · simp [hkind, eq_comm]

/-! ### The answer -/

/-- Without a cause there is no report, and no die is thrown. -/
lemma resolveFall_of_calm (h : Calm rules hits damage) :
    u.resolveFall rules board hits damage game = pure (.ok none) := by
  rw [resolveFall, calm_iff.mp h]

/-- A hit on a gyro that is not there ends it all, and no die is thrown. -/
lemma resolveFall_of_missing_gyro (hmem : .gyro ∈ hits) (missing : u.hasComponent .gyro = false) :
    u.resolveFall rules board hits damage game = pure (.ok none) := by
  have hcause : fallCause? rules hits damage = some .gyroHit :=
    fallCause?_eq_some_iff.mpr ⟨hmem, fun _ h => absurd h (Nat.not_lt_zero _)⟩
  rw [resolveFall, hcause]
  dsimp only
  rw [if_pos ⟨rfl, missing⟩]

/-- With a cause the answer is that of its roll. -/
lemma run_resolveFall_of_presses (h : cause.Presses rules hits damage)
    (hgyro : cause = .gyroHit → u.hasComponent .gyro = true)
    {answer : Except Refusal (Option FallReport)} :
    (u.resolveFall rules board hits damage game).run s = (some answer, t) ↔
      ∃ found, (resolveCause rules u board cause damage game).run s = (some found, t) ∧
        answer = found.map some := by
  have hguard : ¬ (cause = .gyroHit ∧ u.hasComponent .gyro = false) := by
    rintro ⟨hcause, hmissing⟩
    rw [hgyro hcause] at hmissing
    cases hmissing
  rw [resolveFall, fallCause?_eq_some_iff.mpr h]
  dsimp only
  rw [if_neg hguard, run_bind_eq_iff]
  constructor
  · rintro ⟨found, r, hfound, hdone⟩
    obtain ⟨rfl, rfl⟩ := run_pure_eq_iff.mp hdone
    exact ⟨found, hfound, rfl⟩
  · rintro ⟨found, hfound, rfl⟩
    exact ⟨found, t, hfound, rfl⟩

/-- With a cause there is a report, or a refusal, or dice run out. -/
lemma run_resolveFall_ne_none (h : cause.Presses rules hits damage)
    (hgyro : cause = .gyroHit → u.hasComponent .gyro = true) :
    (u.resolveFall rules board hits damage game).run s ≠ (some (.ok none), t) := by
  intro hnone
  obtain ⟨found, -, heq⟩ := (run_resolveFall_of_presses h hgyro).mp hnone
  cases found <;> cases heq

end BattleUnit

open BattleUnit

/-- **Which answer there is, exactly.** For a unit that carries all that was struck, it
is no report where nothing raises a cause, with all dice still there. Otherwise the most
pressing cause counts, whatever the order of the hits and however often each is named:
the answer is a refusal for want of a pilot with all dice still there, or, where the roll
to keep standing fails, because the unit is no mech or not on the board, and no other
refusal; and a report names that cause. -/
theorem refusals_of_resolveFall {σ : Type} [DiceSource σ] (rules : Rules) (u : BattleUnit)
    (board : Option Board) (hits : List ComponentKind) (damage : Int) (game : String) (dice : σ)
    (carried : ∀ k ∈ hits, u.hasComponent k = true) :
    (Calm rules hits damage →
      (u.resolveFall rules board hits damage game).run dice = (some (.ok none), dice)) ∧
    (¬ Calm rules hits damage → ∃ cause : FallCause, cause.Presses rules hits damage ∧
      (∀ rest, (u.resolveFall rules board hits damage game).run dice ≠
        (some (.ok none), rest)) ∧
      (∀ refusal rest, (u.resolveFall rules board hits damage game).run dice =
          (some (.error refusal), rest) ↔
        (u.pilot = none ∧ refusal = .missingPilot u.id ∧ rest = dice) ∨
          (u.FailsToStand rules board cause damage dice rest ∧
            ((u.kind ≠ .mech ∧ refusal = .notAMech u.id) ∨
              (u.kind = .mech ∧ u.position = none ∧ refusal = .notDeployed u.id)))) ∧
      ∀ r rest, (u.resolveFall rules board hits damage game).run dice =
        (some (.ok (some r)), rest) → r.cause = cause) := by
  refine ⟨fun hcalm => by rw [resolveFall_of_calm hcalm, Rolls.run_pure], fun htrouble => ?_⟩
  rw [calm_iff] at htrouble
  obtain ⟨cause, hcause⟩ := Option.ne_none_iff_exists'.mp htrouble
  have hpresses := fallCause?_eq_some_iff.mp hcause
  have hgyro : cause = .gyroHit → u.hasComponent .gyro = true := by
    rintro rfl
    exact carried .gyro hpresses.1
  have hmissing := missing?_reason carried hpresses.1
  refine ⟨cause, hpresses, fun rest => run_resolveFall_ne_none hpresses hgyro, ?_, ?_⟩
  · intro refusal rest
    rw [run_resolveFall_of_presses hpresses hgyro, ← cannotFall?_eq_some_iff,
      ← run_resolveCause_error_iff hmissing]
    constructor
    · rintro ⟨found, hfound, heq⟩
      cases found with
      | error e => rwa [Except.error.inj heq]
      | ok r => cases heq
    · intro hfound
      exact ⟨.error refusal, hfound, rfl⟩
  · intro r rest hrun
    obtain ⟨found, hfound, heq⟩ := (run_resolveFall_of_presses hpresses hgyro).mp hrun
    cases found with
    | error e => cases heq
    | ok r' =>
        obtain rfl := Option.some.inj (Except.ok.inj heq)
        exact cause_of_resolveCause hfound

/-- A vehicle on legs without a knee. -/
def stilts : BattleUnit :=
  (((BattleUnit.blank 3 "Target" .vehicle 50).withPart (.intact .leftLeg 4 0 6)).mount .leftLeg
    (.intact "Foot" .footActuator 3 1)).withPilot { name := "Pilot", gunnery := 4, piloting := 4 }

/-- Its foot is hit twice, and the roll to keep standing fails. That it has no other leg
actuator does not matter, that it is no mech does. -/
theorem refusals_of_resolveFall_stilts :
    (∀ k ∈ [ComponentKind.footActuator, .footActuator], stilts.hasComponent k = true) ∧
      (stilts.resolveFall {} none [.footActuator, .footActuator] 0 "Skirmish").run
        (⟨[0, 1], 0⟩ : Script) = (some (.error (.notAMech 3)), ⟨[], 2⟩) ∧
      stilts.FailsToStand {} none .legActuatorHit 0 (⟨[0, 1], 0⟩ : Script) ⟨[], 2⟩ := by
  have carried : ∀ k ∈ [ComponentKind.footActuator, .footActuator],
      stilts.hasComponent k = true := by decide
  have htrouble : ¬ Calm {} [.footActuator, .footActuator] 0 := by
    rintro ⟨hhits, -⟩
    cases (hhits .footActuator List.mem_cons_self).2
  have hrun : (stilts.resolveFall {} none [.footActuator, .footActuator] 0 "Skirmish").run
      (⟨[0, 1], 0⟩ : Script) = (some (.error (.notAMech 3)), ⟨[], 2⟩) := by decide +kernel
  obtain ⟨cause, hpresses, -, hrefused, -⟩ :=
    (refusals_of_resolveFall {} stilts none _ 0 "Skirmish" (⟨[0, 1], 0⟩ : Script) carried).2
      htrouble
  obtain rfl : cause = .legActuatorHit := by
    refine hpresses.unique (fallCause?_eq_some_iff.mp ?_)
    decide
  refine ⟨carried, hrun, ?_⟩
  rcases (hrefused _ _).mp hrun with ⟨hpilot, -⟩ | ⟨hfails, -⟩
  · cases hpilot
  · exact hfails

/-- **A hit on a gyro that is not there** ends it all: there is no report and no die is
thrown, whatever else was hit. So it makes no difference just where nothing else raises a
cause, and otherwise it keeps the unit from the roll that its other hits or its damage
call for. -/
theorem run_resolveFall_filter_iff {σ : Type} [DiceSource σ] (rules : Rules) (u : BattleUnit)
    (board : Option Board) (hits : List ComponentKind) (damage : Int) (game : String) (dice : σ)
    (missing : u.hasComponent .gyro = false) :
    (.gyro ∈ hits →
      (u.resolveFall rules board hits damage game).run dice = (some (.ok none), dice)) ∧
    ((u.resolveFall rules board hits damage game).run dice =
        (u.resolveFall rules board (hits.filter (· != .gyro)) damage game).run dice ↔
      .gyro ∉ hits ∨ Calm rules (hits.filter (· != .gyro)) damage) := by
  have hended : .gyro ∈ hits →
      (u.resolveFall rules board hits damage game).run dice = (some (.ok none), dice) := by
    intro hmem
    rw [resolveFall_of_missing_gyro hmem missing, Rolls.run_pure]
  have hsame : .gyro ∉ hits → hits.filter (· != .gyro) = hits := by
    intro hmem
    rw [List.filter_eq_self]
    intro k hk
    rw [bne_iff_ne]
    rintro rfl
    exact hmem hk
  refine ⟨hended, fun heq => ?_, ?_⟩
  · by_contra hnot
    obtain ⟨hmem, htrouble⟩ := not_or.mp hnot
    rw [calm_iff] at htrouble
    obtain ⟨cause, hcause⟩ := Option.ne_none_iff_exists'.mp htrouble
    have hpresses := fallCause?_eq_some_iff.mp hcause
    have hgyro : cause = .gyroHit → u.hasComponent .gyro = true := by
      rintro rfl
      simpa using List.of_mem_filter hpresses.1
    rw [hended (not_not.mp hmem)] at heq
    exact run_resolveFall_ne_none hpresses hgyro heq.symm
  · intro hcalm
    by_cases hmem : .gyro ∈ hits
    · have hrest := hcalm.resolve_left (not_not.mpr hmem)
      rw [hended hmem, resolveFall_of_calm hrest, Rolls.run_pure]
    · rw [hsame hmem]

/-- A mech with a hip and without a gyro. -/
def hipOnly : BattleUnit :=
  (((BattleUnit.mech {} 3 "Target" 50).mount .leftLeg (.intact "Hip" .hip 0 1)).withPilot
    { name := "Pilot", gunnery := 4, piloting := 4 }).deployedAt ⟨0, 0⟩ .north

/-- It is not asked to roll after a hit on its hip, since a gyro was named as well. -/
theorem run_resolveFall_filter_iff_hip :
    hipOnly.hasComponent .gyro = false ∧
      (hipOnly.resolveFall {} none [.gyro, .hip] 0 "Skirmish").run
        (⟨[5, 5], 0⟩ : Script) = (some (.ok none), ⟨[5, 5], 0⟩) ∧
      (hipOnly.resolveFall {} none [.gyro, .hip] 0 "Skirmish").run (⟨[5, 5], 0⟩ : Script) ≠
        (hipOnly.resolveFall {} none [.hip] 0 "Skirmish").run (⟨[5, 5], 0⟩ : Script) := by
  have missing : hipOnly.hasComponent .gyro = false := by decide
  obtain ⟨hended, hiff⟩ := run_resolveFall_filter_iff {} hipOnly none [.gyro, .hip] 0 "Skirmish"
    (⟨[5, 5], 0⟩ : Script) missing
  refine ⟨missing, hended List.mem_cons_self, fun heq => ?_⟩
  rcases hiff.mp heq with hmem | ⟨hhits, -⟩
  · exact hmem List.mem_cons_self
  · cases (hhits .hip List.mem_cons_self).2

/-- What the mech would be asked to roll after a hit on its hip alone. -/
def hipReport : FallReport where
  game := "Skirmish"
  unit := 3
  stages := [.idle, .causeCheck, .pilotingRoll, .done]
  cause := .hipHit
  check := ⟨[.hipHit], 4, [⟨.hipHit, "Hip actuator hit", 2⟩], 6, false⟩
  outcome := ⟨6, some ⟨6, 6⟩, true⟩

/-- With the gyro named as well there is no report and no roll. -/
theorem resolveFall_forgets_hip :
    hipOnly.hasComponent .gyro = false ∧
      (hipOnly.resolveFall {} none [.gyro, .hip] 0 "Skirmish").run
        (⟨[5, 5], 0⟩ : Script) = (some (.ok none), ⟨[5, 5], 0⟩) ∧
      (hipOnly.resolveFall {} none ([.gyro, .hip].filter (· != .gyro)) 0 "Skirmish").run
        (⟨[5, 5], 0⟩ : Script) = (some (.ok (some hipReport)), ⟨[], 2⟩) := by
  refine ⟨by decide, by decide, by decide +kernel⟩

end MechBattle
