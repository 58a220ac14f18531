/-
The table of critical hits, and how many hits come of it.

A step of the table may hold any whole number, and rules are sound whatever it is. The number
of hits is kept in one byte. So a step means what it says as long as a byte can hold it, and
means another number otherwise, which dice can show for every such step.

* `Rules.HitsAre`: how many hits all calls report, counted from the steps of the table;
* `exists_run_oneLeg`: a call with any throw;
* `hitsAre_of_sound`: what the steps of sound rules mean, and when it is what they say;
* `not_hitsAre_wideTable`: a step that says 256 and means no hit.
-/
import MechBattle.Proofs.CriticalDice
import MechBattle.Proofs.Tables

namespace MechBattle

open Rolls

/-- Whether every call, on whatever unit and dice, reports as many hits as are counted for the
step that covers the throw, and none where no step covers it. -/
def Rules.HitsAre (rules : Rules) (count : Bracket → Int) : Prop :=
  ∀ (σ : Type) [DiceSource σ] (u : BattleUnit) (losses : Location.Map Int) (dice rest : σ)
    (reports : List CriticalReport),
    (u.criticals rules losses).run dice = (some reports, rest) → ∀ r ∈ reports,
      (∀ b, Bracket.Covers rules.criticalHits r.roll b → (r.hits.length : Int) = count b) ∧
        ((∀ b, ¬ Bracket.Covers rules.criticalHits r.roll b) → r.hits = [])

variable {rules : Rules}

/-- Two dice can show every total from 2 to 12. -/
lemma exists_faces_of_total {t : Int} (hlow : 2 ≤ t) (hhigh : t ≤ 12) :
    ∃ x y : Face, (TwoDice.ofFaces x y).total = t := by
  by_cases h : t ≤ 7
  · refine ⟨⟨0, by decide⟩, ⟨(t - 2).toNat, by omega⟩, ?_⟩
    simp only [TwoDice.ofFaces, TwoDice.total, Face.pips]
    omega
  · refine ⟨⟨5, by decide⟩, ⟨(t - 7).toNat, by omega⟩, ?_⟩
    simp only [TwoDice.ofFaces, TwoDice.total, Face.pips]
    omega

/-! ### Hits by the table -/

/-- Every call reports what a byte keeps of the step that covers the throw. -/
lemma hitsAre_emod (sound : rules.Sound) : rules.HitsAre fun b => b.value % 256 := by
  intro σ _ u losses dice rest reports hrun r hr
  obtain ⟨faces, hreads, -⟩ := run_eq_some_iff.mp hrun
  obtain ⟨-, blocks, -, hfollows⟩ := BattleUnit.follows_of_reads hreads
  obtain ⟨block, p, -, follows⟩ := exists_of_forall₂ hfollows hr
  have hlength : r.hits.length = rules.criticalHitCount r.roll :=
    follows.length_hits.trans follows.hitCount_eq
  constructor
  · intro b hb
    rw [hlength, sound.criticalHitCount_of_covers hb]
  · intro hnone
    have hbelow : ∀ b ∈ rules.criticalHits, r.roll < b.start := by
      by_contra hsome
      obtain ⟨b, hb⟩ := Bracket.exists_covers (by simpa using hsome)
      exact hnone b hb
    rw [← List.length_eq_zero_iff, hlength, Rules.criticalHitCount_of_lt hbelow]

/-- A mech of which one leg is left. -/
def oneLeg : BattleUnit := (BattleUnit.blank 4 "Target" .mech 20).withPart (.intact .leftLeg 0 0 1)

/-- Structure lost at the leg. -/
def legLoss : Location.Map Int := { leftLeg := some 1 }

/-- **Every throw can come up**, with as many hits as it has. -/
lemma exists_run_oneLeg (rules : Rules) (x y : Face) :
    ∃ (dice rest : Script) (r : CriticalReport),
      (oneLeg.criticals rules legLoss).run dice = (some [r], rest) ∧
        r.roll = (TwoDice.ofFaces x y).total := by
  obtain ⟨n, hn⟩ : ∃ n, n = rules.criticalHitCount (TwoDice.ofFaces x y).total := ⟨_, rfl⟩
  have hlossy : oneLeg.lossyParts legLoss = [(.leftLeg, .intact .leftLeg 0 0 1)] := rfl
  have hsuffice : (BodyPart.intact .leftLeg 0 0 1).Suffice rules
      (x :: y :: (List.replicate n [(0 : Face)]).flatten) := by
    refine ⟨x, y, _, rfl, List.length_replicate.trans hn, fun choice hchoice => ?_⟩
    rw [List.eq_of_mem_replicate hchoice]
    rfl
  have hblocks : List.Forall₂ (fun (x : Location × BodyPart) faces => x.2.Suffice rules faces)
      (oneLeg.lossyParts legLoss) [x :: y :: (List.replicate n [(0 : Face)]).flatten] := by
    rw [hlossy]
    exact .cons hsuffice .nil
  obtain ⟨reports, hreads⟩ := BattleUnit.exists_reads_criticals hblocks
  obtain ⟨hlocations, blocks, hfaces, hfollows⟩ := BattleUnit.follows_of_reads hreads
  rw [hlossy] at hlocations
  obtain ⟨r, rfl, -⟩ := List.map_eq_singleton_iff.mp hlocations
  obtain _ | ⟨⟨p, -, follows⟩, ⟨⟩⟩ := hfollows
  obtain ⟨x', y', choices, rfl, hroll, -⟩ := follows.throws
  rw [List.flatten_singleton, List.flatten_singleton] at hfaces
  obtain ⟨hx, hfaces⟩ := List.cons.inj hfaces
  obtain ⟨hy, -⟩ := List.cons.inj hfaces
  exact ⟨_, _, r, run_eq_some_iff.mpr ⟨_, hreads, offers_script _ [] 0⟩, by rw [hroll, hx, hy]⟩

/-- **What the steps of the table mean.** With sound rules every call reports, for the step that
covers the throw, its number modulo 256, and no hit where no step covers it. The steps mean what
they say iff none of their numbers is negative or above 255. -/
theorem hitsAre_of_sound (rules : Rules) (sound : rules.Sound) :
    rules.HitsAre (fun b => b.value % 256) ∧
      (rules.HitsAre (fun b => b.value) ↔
        ∀ b ∈ rules.criticalHits, 0 ≤ b.value ∧ b.value ≤ 255) := by
  refine ⟨hitsAre_emod sound, fun hplain b hb => ?_, fun hfits => ?_⟩
  · obtain ⟨hlow, hhigh⟩ := (Rules.sound_iff.mp sound).2.2.1 b hb
    obtain ⟨x, y, htotal⟩ := exists_faces_of_total hlow hhigh
    obtain ⟨dice, rest, r, hrun, hroll⟩ := exists_run_oneLeg rules x y
    -- at its own start a step covers the throw
    have hcovers : Bracket.Covers rules.criticalHits r.roll b := by
      rw [hroll, htotal]
      exact ⟨hb, le_rfl, fun _ _ h => h⟩
    have hmeans := (hitsAre_emod sound Script oneLeg legLoss dice rest [r] hrun r
      (List.mem_singleton_self r)).1 b hcovers
    have hplain := (hplain Script oneLeg legLoss dice rest [r] hrun r
      (List.mem_singleton_self r)).1 b hcovers
    dsimp only at hmeans hplain
    omega
  · intro σ _ u losses dice rest reports hrun r hr
    obtain ⟨hmeans, hnone⟩ := hitsAre_emod sound σ u losses dice rest reports hrun r hr
    refine ⟨fun b hb => ?_, hnone⟩
    have := hfits b hb.1
    have := hmeans b hb
    dsimp only at this ⊢
    omega

/-- The standard table means what it says. -/
theorem hitsAre_of_sound_standard :
    Rules.standard.Sound ∧ Rules.standard.HitsAre (fun b => b.value) :=
  ⟨Rules.sound_standard, (hitsAre_of_sound Rules.standard Rules.sound_standard).2.mpr (by decide)⟩

/-- House rules with a step that says 256. They are sound. -/
def wideTable : Rules where
  criticalHits := [⟨2, 256⟩]

/-- A throw of 2 for the leg strikes nothing, where the step that covers it says 256. -/
theorem not_hitsAre_wideTable :
    wideTable.Sound ∧
      (oneLeg.criticals wideTable legLoss).run (⟨[0, 0], 0⟩ : Script) =
        (some [⟨.leftLeg, 2, 0, [], []⟩], ⟨[], 2⟩) ∧
      Bracket.Covers wideTable.criticalHits 2 ⟨2, 256⟩ ∧
      ¬ wideTable.HitsAre (fun b => b.value) := by
  have hrun : (oneLeg.criticals wideTable legLoss).run (⟨[0, 0], 0⟩ : Script) =
      (some [⟨.leftLeg, 2, 0, [], []⟩], ⟨[], 2⟩) := by decide +kernel
  have hcovers : Bracket.Covers wideTable.criticalHits 2 ⟨2, 256⟩ := by
    refine ⟨by decide, le_rfl, fun c hc _ => ?_⟩
    rw [List.mem_singleton.mp hc]
  refine ⟨by decide, hrun, hcovers, fun hplain => ?_⟩
  have := (hplain Script oneLeg legLoss _ _ _ hrun _ (List.mem_singleton_self _)).1 _ hcovers
  cases this

end MechBattle
