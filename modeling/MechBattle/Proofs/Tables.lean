/-
What sound rules answer.

The tables of the rules are lists that anyone may change, and looking something up in
them never fails: a throw off the table strikes the center torso, and a step out of order
hides others. In rules without a flaw this does not happen.

* `Bracket.Covers`: the step that a number falls on, with `value?_eq_some_iff` and
  `value?_eq_none_iff` for what a table of ascending steps answers;
* `Rules.sound_iff`: what it means, table by table, that rules have no flaw;
* `Sound.getElem?_hitIndex`, `Sound.criticalHitCount_of_covers`, `Sound.start_lt`,
  `isSome_consciousnessNumber?`: what follows for throws, for heat and for wounds;
* `lookups_of_sound`: all of it together.
-/
import Mathlib.Data.Finset.Max
import Mathlib.Data.List.Chain
import Mathlib.Order.Basic
import MechBattle.Rules.Flaw

namespace MechBattle

/-! ### Tables of steps -/

namespace Bracket

variable {table : List Bracket} {x v : Int} {b : Bracket}

/-- Whether a step is the one that begins last among those that begin at a number or
before. -/
def Covers (table : List Bracket) (x : Int) (b : Bracket) : Prop :=
  b ∈ table ∧ b.start ≤ x ∧ ∀ c ∈ table, c.start ≤ x → c.start ≤ b.start

/-- Where some step begins at a number or before, one of them covers it. -/
lemma exists_covers (h : ∃ b ∈ table, b.start ≤ x) : ∃ b, Covers table x b := by
  obtain ⟨b, hb, hle⟩ := h
  have hnonempty : (table.toFinset.filter fun c => c.start ≤ x).Nonempty :=
    ⟨b, Finset.mem_filter.mpr ⟨List.mem_toFinset.mpr hb, hle⟩⟩
  obtain ⟨last, hlast, hmax⟩ := Finset.exists_max_image _ (·.start) hnonempty
  obtain ⟨hmem, hstart⟩ := Finset.mem_filter.mp hlast
  refine ⟨last, List.mem_toFinset.mp hmem, hstart, fun c hc hcx => ?_⟩
  exact hmax c (Finset.mem_filter.mpr ⟨List.mem_toFinset.mpr hc, hcx⟩)

/-- Where every step begins later, there is no value. -/
lemma value?_of_lt (h : ∀ b ∈ table, x < b.start) : value? table x = none := by
  cases table with
  | nil => rfl
  | cons b rest =>
      have hb : x < b.start := h b List.mem_cons_self
      rw [value?, List.takeWhile_cons_of_neg (by simpa using hb)]
      rfl

/-- Among ascending steps the value is that of the one that covers the number. -/
lemma value?_of_covers (ascending : Ascending table) (h : Covers table x b) :
    value? table x = some b.value := by
  obtain ⟨hmem, hle, hlast⟩ := h
  obtain ⟨before, after, rfl⟩ := List.append_of_mem hmem
  obtain ⟨-, htail, hcross⟩ := List.pairwise_append.mp ascending
  have hreached : ∀ c ∈ before ++ [b], decide (c.start ≤ x) = true := by
    intro c hc
    rcases List.mem_append.mp hc with hbefore | hb
    · exact decide_eq_true ((hcross c hbefore b List.mem_cons_self).le.trans hle)
    · rw [List.mem_singleton.mp hb]
      exact decide_eq_true hle
  have hlater : after.takeWhile (fun c => decide (c.start ≤ x)) = [] := by
    cases after with
    | nil => rfl
    | cons c rest =>
        have hbc : b.start < c.start := List.rel_of_pairwise_cons htail List.mem_cons_self
        refine List.takeWhile_cons_of_neg fun hc => ?_
        have := hlast c (by simp) (of_decide_eq_true hc)
        omega
  rw [value?, List.append_cons, List.takeWhile_append_of_pos hreached, hlater, List.append_nil,
    List.getLast?_concat]
  rfl

lemma value?_eq_some_iff (ascending : Ascending table) :
    value? table x = some v ↔ ∃ b, Covers table x b ∧ b.value = v := by
  constructor
  · intro h
    by_cases hsome : ∃ b ∈ table, b.start ≤ x
    · obtain ⟨b, hb⟩ := exists_covers hsome
      exact ⟨b, hb, Option.some.inj ((value?_of_covers ascending hb).symm.trans h)⟩
    · rw [value?_of_lt (by simpa using hsome)] at h
      cases h
  · rintro ⟨b, hb, rfl⟩
    exact value?_of_covers ascending hb

lemma value?_eq_none_iff (ascending : Ascending table) :
    value? table x = none ↔ ∀ b ∈ table, x < b.start := by
  refine ⟨fun h => ?_, value?_of_lt⟩
  by_contra hsome
  obtain ⟨b, hb⟩ := exists_covers (by simpa using hsome)
  rw [value?_of_covers ascending hb] at h
  cases h

end Bracket

/-! ### Rules without a flaw -/

lemma Flaw.unless_eq_nil {ok : Bool} {flaw : Flaw} : Flaw.unless ok flaw = [] ↔ ok = true := by
  cases ok <;> simp [Flaw.unless]

/-- When each element has a larger key than the one before, it has a larger key than all
before. -/
lemma chained_iff {α β : Type} [LinearOrder β] {key : α → β} {xs : List α} :
    chained (fun a b => decide (key a < key b)) xs = true ↔
      xs.Pairwise fun a b => key a < key b := by
  have : IsTrans α fun a b => key a < key b := ⟨fun _ _ _ => lt_trans⟩
  rw [← List.isChain_iff_pairwise]
  induction xs with
  | nil => simp [chained]
  | cons a rest ih =>
      cases rest with
      | nil => simp [chained]
      | cons b rest =>
          rw [chained, Bool.and_eq_true, decide_eq_true_eq, List.isChain_cons_cons]
          exact and_congr_right' ih

lemma Side.forall_iff {p : Side → Prop} :
    (∀ side, p side) ↔ p .front ∧ p .rear ∧ p .left ∧ p .right := by
  constructor
  · exact fun h => ⟨h _, h _, h _, h _⟩
  · rintro ⟨hfront, hrear, hleft, hright⟩ (_ | _ | _ | _) <;> assumption

namespace Rules

variable {rules : Rules}

/-- What sound rules are, table by table. -/
lemma sound_iff : rules.Sound ↔
    (∀ side, (rules.hitTables.ofSide side).length = 11) ∧
      (∀ named ∈ rules.namedBrackets, Bracket.Ascending named.2) ∧
      (∀ b ∈ rules.criticalHits, 2 ≤ b.start ∧ b.start ≤ 12) ∧
      (rules.structures.Pairwise fun a b => a.tonnage < b.tonnage) ∧
      0 < rules.fallClusterSize ∧ rules.shutdownApart = true ∧
      rules.lethalWounds ≤ rules.consciousnessNumbers.length + 1 := by
  have hsides : (∀ side, (rules.hitTables.ofSide side).length = 11) ↔
      ∀ named ∈ rules.namedHitTables, named.2.length = 11 := by
    simp only [Side.forall_iff, namedHitTables, List.forall_mem_cons, List.not_mem_nil,
      IsEmpty.forall_iff, implies_true, and_true, HitTables.ofSide]
  have hascending : ∀ table : List Bracket,
      chained (fun a b => decide (a.start < b.start)) table = true ↔ Bracket.Ascending table :=
    fun _ => chained_iff
  have hrows : chained (fun a b => decide (a.tonnage < b.tonnage)) rules.structures = true ↔
      rules.structures.Pairwise fun a b => a.tonnage < b.tonnage := chained_iff
  simp only [hsides, Sound, flaws, List.append_eq_nil_iff, List.flatMap_eq_nil_iff,
    Flaw.unless_eq_nil, beq_iff_eq, hascending, hrows, decide_eq_true_eq, List.all_eq_true,
    and_assoc]

/-- Sound rules have a number for every wound that does not kill. -/
lemma Sound.covered (sound : rules.Sound) :
    rules.lethalWounds ≤ rules.consciousnessNumbers.length + 1 :=
  (sound_iff.mp sound).2.2.2.2.2.2

lemma isSome_consciousnessNumber? (sound : rules.Sound) (wounds : Nat) :
    (rules.consciousnessNumber? wounds).isSome = true ↔
      0 < wounds ∧ wounds < rules.lethalWounds := by
  have hcovered := sound.covered
  rw [consciousnessNumber?]
  split
  · simp only [Option.isSome_none, Bool.false_eq_true, false_iff]
    omega
  · simp only [isSome_getElem?]
    omega

/-- Every throw finds its entry in a hit table of sound rules. -/
lemma Sound.getElem?_hitIndex (sound : rules.Sound) (side : Side) (roll : Int) :
    (rules.hitTables.ofSide side)[hitIndex roll]? = some (rules.hitLocation side roll) := by
  have hindex : hitIndex roll < (rules.hitTables.ofSide side).length := by
    rw [(sound_iff.mp sound).1 side, hitIndex]
    omega
  rw [hitLocation, List.getElem?_eq_getElem hindex, Option.getD_some]

/-- Below every step of the shutdown table there is still a way around a shutdown. -/
lemma Sound.start_lt (sound : rules.Sound) {b : Bracket} (hb : b ∈ rules.shutdown) :
    b.start < rules.automaticShutdownHeat := by
  obtain ⟨-, hascending, -, -, -, hapart, -⟩ := sound_iff.mp sound
  have hshutdown : Bracket.Ascending rules.shutdown :=
    hascending ("shutdown", _) (by simp [namedBrackets])
  rw [shutdownApart] at hapart
  rcases List.eq_nil_or_concat rules.shutdown with hnil | ⟨before, last, hlast⟩
  · rw [hnil] at hb
    cases hb
  · rw [hlast, List.concat_eq_append] at hb hapart hshutdown
    rw [List.getLast?_concat, decide_eq_true_eq] at hapart
    rcases List.mem_append.mp hb with hbefore | hb
    · have := (List.pairwise_append.mp hshutdown).2.2 b hbefore last List.mem_cons_self
      omega
    · rwa [List.mem_singleton.mp hb]

lemma shutdownBand_eq_automatic_iff (heat : Int) :
    rules.shutdownBand heat = .automatic ↔ rules.automaticShutdownHeat ≤ heat := by
  rw [shutdownBand]
  split
  · next hhot => exact iff_of_true rfl hhot
  · next hcool =>
      refine iff_of_false (fun h => ?_) hcool
      split at h <;> cases h

/-- The table of critical hits has one step after the other. -/
lemma Sound.ascending_criticalHits (sound : rules.Sound) :
    Bracket.Ascending rules.criticalHits :=
  (sound_iff.mp sound).2.1 ("critical_hits", _) (by simp [namedBrackets])

/-- The number of critical hits is what a byte keeps of the step that covers the throw. -/
lemma Sound.criticalHitCount_of_covers (sound : rules.Sound) {b : Bracket} {roll : Int}
    (h : Bracket.Covers rules.criticalHits roll b) :
    (rules.criticalHitCount roll : Int) = b.value % 256 := by
  rw [criticalHitCount, Bracket.value?_of_covers sound.ascending_criticalHits h]
  exact Int.toNat_of_nonneg (Int.emod_nonneg _ (by decide))

/-- There are no critical hits on a throw below the table. -/
lemma criticalHitCount_of_lt {roll : Int} (h : ∀ b ∈ rules.criticalHits, roll < b.start) :
    rules.criticalHitCount roll = 0 := by
  rw [criticalHitCount, Bracket.value?_of_lt h]

/-- At its own start a step of the shutdown table is not hidden by another one. -/
lemma Sound.shutdownBand_start (sound : rules.Sound) {b : Bracket} (hb : b ∈ rules.shutdown) :
    rules.shutdownBand b.start = .avoid b.value := by
  have hshutdown : Bracket.Ascending rules.shutdown :=
    (sound_iff.mp sound).2.1 ("shutdown", _) (by simp [namedBrackets])
  have hcovers : Bracket.Covers rules.shutdown b.start b := ⟨hb, le_rfl, fun _ _ h => h⟩
  rw [shutdownBand, if_neg (not_le.mpr (sound.start_lt hb)),
    Bracket.value?_of_covers hshutdown hcovers]

/-- **What sound rules answer.** Every throw strikes the location that its entry names, and
throws below 2 or above 12 the first or the last one. Every table of steps answers with the
step that begins last at a number or before, and has no answer where all begin later. A
shutdown cannot be avoided from the heat for it on and only there, and no step of its table
is hidden. There is a number to stay awake for the wounds that do not kill and for no
others, and a fall comes in clusters that are not empty. -/
theorem lookups_of_sound (rules : Rules) (sound : rules.Sound) :
    (∀ side roll, (rules.hitTables.ofSide side)[(max 2 (min 12 roll) - 2).toNat]? =
      some (rules.hitLocation side roll)) ∧
    (∀ table ∈ [rules.criticalHits, rules.toHit.targetMovement, rules.toHit.heat,
        rules.shutdown, rules.ammoExplosion], ∀ x,
      (∀ v, Bracket.value? table x = some v ↔ ∃ b, Bracket.Covers table x b ∧ b.value = v) ∧
      (Bracket.value? table x = none ↔ ∀ b ∈ table, x < b.start)) ∧
    (∀ heat, rules.shutdownBand heat = .automatic ↔ rules.automaticShutdownHeat ≤ heat) ∧
    (∀ b ∈ rules.shutdown, rules.shutdownBand b.start = .avoid b.value) ∧
    (∀ wounds, (rules.consciousnessNumber? wounds).isSome = true ↔
      1 ≤ wounds ∧ wounds < rules.lethalWounds) ∧
    1 ≤ rules.fallClusterSize := by
  obtain ⟨-, hascending, -, -, hcluster, -, -⟩ := sound_iff.mp sound
  refine ⟨sound.getElem?_hitIndex, fun table htable x => ?_, shutdownBand_eq_automatic_iff,
    fun b hb => sound.shutdownBand_start hb, isSome_consciousnessNumber? sound, hcluster⟩
  have hnamed : table ∈ rules.namedBrackets.map (·.2) := htable
  obtain ⟨named, hmem, rfl⟩ := List.mem_map.mp hnamed
  have htable := hascending named hmem
  exact ⟨fun _ => Bracket.value?_eq_some_iff htable, Bracket.value?_eq_none_iff htable⟩

/-- House rules for a cold world with frail pilots. -/
def coldWorld : Rules where
  shutdown := [⟨-4, 3⟩, ⟨9, 8⟩]
  automaticShutdownHeat := 10
  fallClusterSize := 1
  consciousnessNumbers := [6, 9]
  lethalWounds := 3

/-- They are sound, so their last step counts just below the heat that shuts a reactor down,
and two wounds are the most that a pilot can stay awake with. -/
theorem lookups_of_sound_coldWorld :
    coldWorld.Sound ∧ coldWorld.shutdownBand 9 = .avoid 8 ∧
      coldWorld.shutdownBand 10 = .automatic ∧
      Bracket.value? coldWorld.shutdown (-5) = none ∧
      (coldWorld.consciousnessNumber? 2).isSome = true ∧
      coldWorld.consciousnessNumber? 3 = none := by
  have sound : coldWorld.Sound := by decide
  obtain ⟨-, htables, hautomatic, hstart, hwounds, -⟩ := lookups_of_sound coldWorld sound
  refine ⟨sound, hstart ⟨9, 8⟩ (by decide), (hautomatic 10).mpr le_rfl,
    (htables coldWorld.shutdown (by decide) (-5)).2.mpr (by decide),
    (hwounds 2).mpr (by decide), ?_⟩
  rw [← Option.not_isSome_iff_eq_none, hwounds 3]
  decide

end Rules

end MechBattle
