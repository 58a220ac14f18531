/-
What a refused fall costs.

A unit that is struck may have to roll, and if it fails, to land. The roll is refused
before any die is thrown, a landing only after it.

* `BattleUnit.LacksToRoll`, `BattleUnit.LacksToLand`: what is wanting for the roll and for
  the landing, with `standingCheck_eq_error_iff`;
* `run_resolveFall_error_iff`: which refusals there are for a cause, and which dice they
  leave;
* `standingFaces` and `faces_of_refused`: how many faces a refusal takes;
* `dice_of_refusal`: both together, and `refusal_takes_dice`: a refusal that does take
  faces.
-/
import MechBattle.Proofs.FallCauses
import MechBattle.Proofs.Falls
import MechBattle.Rules.Flaw

namespace MechBattle

open Rolls

/-- The faces that a piloting roll takes: two, and none when its target number is out of
reach. -/
def PilotingCheck.faces (check : PilotingCheck) : Nat := if check.impossible then 0 else 2

lemma faces_of_roll {check : PilotingCheck} {n : Nat} {outcome : CheckOutcome}
    (h : check.roll.Draws n outcome) : n = check.faces := by
  rw [PilotingCheck.faces]
  obtain ⟨himp, rfl, -⟩ | ⟨himp, rfl, -⟩ := draws_check h
  · rw [if_pos himp]
  · rw [himp, if_neg Bool.false_ne_true]

namespace BattleUnit

variable {rules : Rules} {u : BattleUnit} {board : Option Board} {cause : FallCause}
  {hits : List ComponentKind} {damage : Int} {game : String} {refusal : Refusal}
  {σ : Type} [DiceSource σ] {s t : σ} {n : Nat}

/-! ### What is wanting -/

/-- Why a roll to keep standing is refused: nobody is at the controls, or the unit has
nothing that the roll is about. -/
def LacksToRoll (u : BattleUnit) (cause : FallCause) (refusal : Refusal) : Prop :=
  (u.pilot = none ∧ refusal = .missingPilot u.id) ∨
    (u.pilot ≠ none ∧ ∃ k, cause.reason.required? = some k ∧
      u.hasRequired cause.reason = false ∧ refusal = .missingComponent u.id cause.reason k)

/-- Why a landing is refused: only mechs fall, and only on the board. -/
def LacksToLand (u : BattleUnit) (refusal : Refusal) : Prop :=
  (u.kind ≠ .mech ∧ refusal = .notAMech u.id) ∨
    (u.kind = .mech ∧ u.position = none ∧ refusal = .notDeployed u.id)

lemma missing?_singleton_eq_some_iff {reason : CheckReason} :
    u.missing? [reason] = some refusal ↔ ∃ k, reason.required? = some k ∧
      u.hasRequired reason = false ∧ refusal = .missingComponent u.id reason k := by
  rw [missing?, List.findSome?_singleton]
  cases reason.required? with
  | none => simp
  | some k =>
      cases u.hasRequired reason with
      | true => simp
      | false => simp [eq_comm]

lemma standingCheck_eq_error_iff :
    standingCheck rules u board cause damage = .error refusal ↔ u.LacksToRoll cause refusal := by
  rw [standingCheck, pilotingCheck, LacksToRoll, ← missing?_singleton_eq_some_iff]
  cases u.pilot with
  | none => simp [eq_comm]
  | some pilot =>
      cases u.missing? [cause.reason] with
      | none => simp
      | some refusal' => simp

/-! ### Which refusals there are -/

/-- A refusal has a cause, which is not a hit on a gyro that is not there. -/
lemma presses_of_refused
    (h : (u.resolveFall rules board hits damage game).run s = (some (.error refusal), t)) :
    ∃ cause : FallCause, cause.Presses rules hits damage ∧
      (cause = .gyroHit → u.hasComponent .gyro = true) := by
  have hanswer : u.resolveFall rules board hits damage game ≠ pure (.ok none) := by
    intro heq
    rw [heq] at h
    cases (run_pure_eq_iff.mp h).1
  have htrouble : fallCause? rules hits damage ≠ none := fun hnone =>
    hanswer (resolveFall_of_calm (calm_iff.mpr hnone))
  obtain ⟨cause, hcause⟩ := Option.ne_none_iff_exists'.mp htrouble
  have hpresses := fallCause?_eq_some_iff.mp hcause
  refine ⟨cause, hpresses, ?_⟩
  rintro rfl
  by_contra hmissing
  exact hanswer (resolveFall_of_missing_gyro hpresses.1 (Bool.eq_false_iff.mpr hmissing))

/-- **Which refusals there are for a cause**: of the roll, with all dice still there, and of
the landing, with the dice that the failed roll leaves. -/
lemma run_resolveFall_error_iff (hpresses : cause.Presses rules hits damage)
    (hgyro : cause = .gyroHit → u.hasComponent .gyro = true) :
    (u.resolveFall rules board hits damage game).run s = (some (.error refusal), t) ↔
      (u.LacksToRoll cause refusal ∧ t = s) ∨
        (u.LacksToLand refusal ∧ u.FailsToStand rules board cause damage s t) := by
  rw [run_resolveFall_of_presses hpresses hgyro, LacksToLand, ← cannotFall?_eq_some_iff,
    and_comm (a := u.cannotFall? = some refusal), ← standingCheck_eq_error_iff,
    ← run_resolveCause_refused_iff]
  constructor
  · rintro ⟨found, hfound, heq⟩
    cases found with
    | error e => rwa [Except.error.inj heq]
    | ok r => cases heq
  · intro hfound
    exact ⟨.error refusal, hfound, rfl⟩

/-! ### What a refusal takes -/

/-- The faces that the roll to keep standing for a cause takes: none when it is refused. -/
def standingFaces (rules : Rules) (u : BattleUnit) (board : Option Board) (cause : FallCause)
    (damage : Int) : Nat :=
  match standingCheck rules u board cause damage with
  | .ok check => check.faces
  | .error _ => 0

/-- A landing is refused before a die is thrown for it. -/
lemma eq_zero_of_fallDown_error {standing : FallReport}
    (h : (fallDown rules u board standing).Draws n (.error refusal)) : n = 0 := by
  rw [fallDown] at h
  split at h
  · exact (draws_pure.mp h).1
  · obtain ⟨k, j, result, hland, hrest, rfl⟩ := draws_bind.mp h
    rw [land] at hland
    split at hland
    · obtain ⟨rfl, rfl⟩ := draws_pure.mp hland
      rw [(draws_pure.mp hrest).1]
    · obtain ⟨i, o, landing, -, hdone, rfl⟩ := draws_bind.mp hland
      obtain ⟨-, rfl⟩ := draws_pure.mp hdone
      cases (draws_pure.mp hrest).2

lemma faces_of_resolveCause_error
    (h : (resolveCause rules u board cause damage game).Draws n (.error refusal)) :
    n = u.standingFaces rules board cause damage := by
  rw [resolveCause] at h
  dsimp only at h
  rw [standingFaces, standingCheck]
  split at h
  · next hcheck =>
      rw [hcheck]
      exact (draws_pure.mp h).1
  · next check hcheck =>
      rw [hcheck]
      obtain ⟨k, j, outcome, hroll, hrest, rfl⟩ := draws_bind.mp h
      split at hrest
      · cases (draws_pure.mp hrest).2
      · rw [faces_of_roll hroll, eq_zero_of_fallDown_error hrest, Nat.add_zero]

/-- A refusal takes the faces of the roll to keep standing and no more. -/
lemma faces_of_refused (hpresses : cause.Presses rules hits damage)
    (h : (u.resolveFall rules board hits damage game).Draws n (.error refusal)) :
    n = u.standingFaces rules board cause damage := by
  rw [resolveFall, fallCause?_eq_some_iff.mpr hpresses] at h
  dsimp only at h
  split at h
  · cases (draws_pure.mp h).2
  · obtain ⟨k, j, result, hresult, hdone, rfl⟩ := draws_bind.mp h
    obtain ⟨rfl, heq⟩ := draws_pure.mp hdone
    cases result with
    | ok r => cases heq
    | error e => exact faces_of_resolveCause_error hresult

end BattleUnit

/-- **What a refusal costs.** A fall is refused exactly for want of what the roll to keep
standing needs, with all dice still there and no face drawn, or for want of what a landing
needs once that roll has failed. That takes the two faces of the roll, and none only where
its target number is out of reach, so that the dice that follow are others. -/
theorem dice_of_refusal {σ : Type} [DiceSource σ] (rules : Rules) (u : BattleUnit)
    (board : Option Board) (hits : List ComponentKind) (damage : Int) (game : String)
    (dice rest : σ) (refusal : Refusal) :
    (u.resolveFall rules board hits damage game).run dice = (some (.error refusal), rest) ↔
      ∃ cause : FallCause, cause.Presses rules hits damage ∧
        (cause = .gyroHit → u.hasComponent .gyro = true) ∧
        ((u.LacksToRoll cause refusal ∧ rest = dice ∧
            (u.resolveFall rules board hits damage game).trace dice = []) ∨
          (u.LacksToLand refusal ∧ ∃ check outcome,
            BattleUnit.standingCheck rules u board cause damage = .ok check ∧
            check.roll.run dice = (some outcome, rest) ∧ outcome.success = false ∧
            ((u.resolveFall rules board hits damage game).trace dice).length =
              if check.impossible then 0 else 2)) := by
  constructor
  · intro hrun
    obtain ⟨cause, hpresses, hgyro⟩ := BattleUnit.presses_of_refused hrun
    have hfaces := BattleUnit.faces_of_refused hpresses (draws_of_run hrun)
    rw [BattleUnit.standingFaces] at hfaces
    refine ⟨cause, hpresses, hgyro, ?_⟩
    rcases (BattleUnit.run_resolveFall_error_iff hpresses hgyro).mp hrun with
      ⟨hroll, hrest⟩ | ⟨hland, check, outcome, hcheck, hroll, hfailure⟩
    · rw [BattleUnit.standingCheck_eq_error_iff.mpr hroll] at hfaces
      exact .inl ⟨hroll, hrest, List.length_eq_zero_iff.mp hfaces⟩
    · rw [hcheck] at hfaces
      exact .inr ⟨hland, check, outcome, hcheck, hroll, hfailure, hfaces⟩
  · rintro ⟨cause, hpresses, hgyro, h⟩
    refine (BattleUnit.run_resolveFall_error_iff hpresses hgyro).mpr ?_
    rcases h with ⟨hroll, hrest, -⟩ | ⟨hland, check, outcome, hcheck, hroll, hfailure, -⟩
    · exact .inl ⟨hroll, hrest⟩
    · exact .inr ⟨hland, check, outcome, hcheck, hroll, hfailure⟩

/-- A vehicle on the board, with a driver. -/
def truck : BattleUnit :=
  (((BattleUnit.blank 1 "Truck" .vehicle 50).withPart (.intact .centerTorso 30 0 10)).withPilot
    { name := "Driver", gunnery := 4, piloting := 4 }).deployedAt ⟨0, 0⟩ .north

/-- After much damage the vehicle throws a three, and is refused the fall as it is no mech.
The two dice are gone. -/
theorem refusal_takes_dice :
    Rules.standard.Sound ∧
      (truck.resolveFall .standard none [] 20 "Skirmish").run (⟨[0, 1, 5, 5], 0⟩ : Script) =
        (some (.error (.notAMech 1)), ⟨[5, 5], 2⟩) ∧
      ¬ ∀ refusal rest, (truck.resolveFall .standard none [] 20 "Skirmish").run
          (⟨[0, 1, 5, 5], 0⟩ : Script) = (some (.error refusal), rest) →
        rest = ⟨[0, 1, 5, 5], 0⟩ := by
  have hrun : (truck.resolveFall .standard none [] 20 "Skirmish").run
      (⟨[0, 1, 5, 5], 0⟩ : Script) = (some (.error (.notAMech 1)), ⟨[5, 5], 2⟩) := by
    decide +kernel
  refine ⟨Rules.sound_standard, hrun, fun hall => ?_⟩
  cases hall _ _ hrun

end MechBattle
