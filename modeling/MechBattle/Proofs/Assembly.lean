/-
Units put together part by part.

A unit is as sound as its parts: new ones have all the armor and structure they
can have, and nothing that is done to a unit before a battle changes that.

* `BodyPart.WellFormed`, `BattleUnit.WellFormed`: every value between zero and
  what it was when new;
* `BattleUnit.Assembled`: how units are put together;
* `new_of_assembled`: units put together so are well-formed.
-/
import MechBattle.BattleUnit.Assembly
import MechBattle.Proofs.Ledger

namespace MechBattle

namespace BodyPart

/-- A part under its own location, with every value between zero and what it was
when new. -/
structure WellFormed (l : Location) (p : BodyPart) : Prop where
  home : p.location = l
  armor_nonneg : 0 ≤ p.armor
  armor_le : p.armor ≤ p.maxArmor
  rearArmor_nonneg : 0 ≤ p.rearArmor
  rearArmor_le : p.rearArmor ≤ p.maxRearArmor
  no_rear : l.hasRearArmor = false → p.rearArmor = 0 ∧ p.maxRearArmor = 0
  internal_nonneg : 0 ≤ p.internal
  internal_le : p.internal ≤ p.maxInternal

lemma intact_wellFormed (l : Location) (armor rearArmor internal : Int) :
    (intact l armor rearArmor internal).WellFormed l := by
  have hrear : 0 ≤ (intact l armor rearArmor internal).rearArmor := by
    simp only [intact]
    split <;> omega
  refine ⟨rfl, le_max_right _ _, le_rfl, hrear, le_rfl, ?_, le_max_right _ _, le_rfl⟩
  intro hno
  simp only [intact, hno]
  exact ⟨rfl, rfl⟩

lemma intact_counted (l : Location) {armor rearArmor internal : Int} (ha : Counter.Mem armor)
    (hr : Counter.Mem rearArmor) (hi : Counter.Mem internal) :
    (intact l armor rearArmor internal).Counted := by
  have hmax : ∀ n, Counter.Mem n → Counter.Mem (max n 0) := by
    intro n hn
    simp only [Counter.Mem, Counter.least, Counter.greatest] at hn ⊢
    omega
  refine ⟨hmax _ ha, ?_, hmax _ hi⟩
  simp only [intact]
  split
  · exact hmax _ hr
  · decide

end BodyPart

namespace BattleUnit

/-- A unit of well-formed parts, which faces a hexside. -/
structure WellFormed (u : BattleUnit) : Prop where
  parts : u.EachPart BodyPart.WellFormed
  facing : u.facing.index < 6

/-- Units put together part by part, with armor that is not negative and numbers
in the range of counters. -/
inductive Assembled (rules : Rules) : BattleUnit → Prop
  | blank (id : UnitId) (name : String) (kind : UnitClass) (tonnage : Nat) :
      Assembled rules (blank id name kind tonnage)
  | mech (id : UnitId) (name : String) (tonnage : Nat)
      (small : ∀ l n, rules.internal? tonnage l = some n → Counter.Mem (n * 2)) :
      Assembled rules (mech rules id name tonnage)
  | withPart {u : BattleUnit} (l : Location) {armor rearArmor internal : Int}
      (ha : Counter.Mem armor) (hr : Counter.Mem rearArmor) (hi : Counter.Mem internal)
      (before : Assembled rules u) :
      Assembled rules (u.withPart (.intact l armor rearArmor internal))
  | withArmor {u : BattleUnit} (l : Location) {armor rearArmor : Int}
      (ha : Counter.Mem armor) (ha₀ : 0 ≤ armor) (hr : Counter.Mem rearArmor)
      (hr₀ : 0 ≤ rearArmor) (before : Assembled rules u) :
      Assembled rules (u.withArmor l armor rearArmor)
  | mount {u : BattleUnit} (l : Location) (c : Component) (before : Assembled rules u) :
      Assembled rules (u.mount l c)
  | withInternals {u : BattleUnit} (before : Assembled rules u) :
      Assembled rules u.withInternals
  | withPilot {u : BattleUnit} (p : Pilot) (before : Assembled rules u) :
      Assembled rules (u.withPilot p)
  | deployedAt {u : BattleUnit} (position : Hex) (facing : Nat) (before : Assembled rules u) :
      Assembled rules (u.deployedAt position (.wrap facing))
  | moved {u : BattleUnit} (mode : MovementMode) (hexes : Nat) (before : Assembled rules u) :
      Assembled rules (u.moved mode hexes)

/-- What is shown of an assembled unit: it is as new. -/
structure New (u : BattleUnit) : Prop where
  wellFormed : u.WellFormed
  counted : u.Counted
  phaseDamage : u.phaseDamage = 0

lemma new_blank (id : UnitId) (name : String) (kind : UnitClass) (tonnage : Nat) :
    (blank id name kind tonnage).New := by
  have hpart : ∀ l, (blank id name kind tonnage).part? l = none := Location.Map.get?_empty
  refine ⟨⟨fun l p hp => ?_, Nat.zero_lt_succ 5⟩, fun l p hp => ?_, rfl⟩
  · rw [hpart l] at hp
    cases hp
  · rw [hpart l] at hp
    cases hp

variable {u v : BattleUnit} {l : Location}

/-- A new part keeps a unit as new. -/
lemma New.of_modify {l : Location} (h : u.New) (hparts : ∀ k, k ≠ l → v.part? k = u.part? k)
    (hself : ∀ q, v.part? l = some q → q.WellFormed l ∧ q.Counted)
    (hfacing : v.facing = u.facing) (hphase : v.phaseDamage = u.phaseDamage) : v.New := by
  refine ⟨⟨fun k q hq => ?_, hfacing ▸ h.wellFormed.facing⟩, fun k q hq => ?_,
    hphase.trans h.phaseDamage⟩
  · by_cases hk : k = l
    · subst hk
      exact (hself q hq).1
    · exact h.wellFormed.parts k q (hparts k hk ▸ hq)
  · by_cases hk : k = l
    · subst hk
      exact (hself q hq).2
    · exact h.counted k q (hparts k hk ▸ hq)

lemma part?_modifyPart_of_ne {k : Location} (f : BodyPart → BodyPart) (hk : k ≠ l) :
    (u.modifyPart l f).part? k = u.part? k := by
  rw [part?_modifyPart, if_neg hk]

lemma New.withPart (h : u.New) {p : BodyPart} (wf : p.WellFormed p.location)
    (counted : p.Counted) : (u.withPart p).New := by
  have hpart : ∀ k, (u.withPart p).part? k = if k = p.location then some p else u.part? k :=
    fun k => Location.Map.get?_insert u.parts p.location k p
  refine h.of_modify (l := p.location) (fun k hk => ?_) (fun q hq => ?_) rfl rfl
  · rw [hpart, if_neg hk]
  · rw [hpart, if_pos rfl] at hq
    obtain rfl := Option.some.inj hq
    exact ⟨wf, counted⟩

/-- A change of one part, which may rest on how the part was. -/
lemma New.modifyPart (h : u.New) {f : BodyPart → BodyPart}
    (hf : ∀ p, p.WellFormed l → p.Counted → (f p).WellFormed l ∧ (f p).Counted) :
    (u.modifyPart l f).New := by
  refine h.of_modify (fun k => part?_modifyPart_of_ne f) (fun q hq => ?_) rfl rfl
  rw [part?_modifyPart, if_pos rfl] at hq
  obtain ⟨p, hp, rfl⟩ := Option.map_eq_some_iff.mp hq
  exact hf p (h.wellFormed.parts l p hp) (h.counted l p hp)

lemma New.mount (h : u.New) (l : Location) (c : Component) : (u.mount l c).New := by
  refine h.modifyPart fun p wf counted => ?_
  obtain ⟨home, ha, ha', hr, hr', hno, hi, hi'⟩ := wf
  exact ⟨⟨home, ha, ha', hr, hr', hno, hi, hi'⟩, counted.armor, counted.rearArmor,
    counted.internal⟩

lemma New.withInternals (h : u.New) : u.withInternals.New := by
  rw [BattleUnit.withInternals]
  generalize standardInternals = mounted
  induction mounted generalizing u with
  | nil => exact h
  | cons x rest ih => exact ih (h.mount x.1 x.2)

lemma New.withArmor (h : u.New) (l : Location) {armor rearArmor : Int} (ha : Counter.Mem armor)
    (ha₀ : 0 ≤ armor) (hr : Counter.Mem rearArmor) (hr₀ : 0 ≤ rearArmor) :
    (u.withArmor l armor rearArmor).New := by
  refine h.modifyPart fun p wf counted => ?_
  dsimp only
  split
  · next hl =>
      refine ⟨⟨wf.home, ha₀, le_rfl, hr₀, le_rfl, fun hno => ?_, wf.internal_nonneg,
        wf.internal_le⟩, ha, hr, counted.internal⟩
      rw [hl] at hno
      cases hno
  · exact ⟨⟨wf.home, ha₀, le_rfl, wf.rearArmor_nonneg, wf.rearArmor_le, wf.no_rear,
      wf.internal_nonneg, wf.internal_le⟩, ha, counted.rearArmor, counted.internal⟩

/-- A quarter of a counter, and the rest of it, are counters. -/
lemma mem_quarter {m : Int} (h : Counter.Mem m) :
    Counter.Mem (m.tdiv 4) ∧ Counter.Mem (m - m.tdiv 4) := by
  have hquarter : m.tdiv 4 = m / 4 ∨ m.tdiv 4 = -(-m / 4) := by
    rcases le_total 0 m with hm | hm
    · exact .inl (Int.tdiv_eq_ediv_of_nonneg hm)
    · right
      rw [← Int.tdiv_eq_ediv_of_nonneg (by omega), Int.neg_tdiv, neg_neg]
  simp only [Counter.Mem, Counter.least, Counter.greatest] at h ⊢
  omega

lemma standardPart_spec (l : Location) {n : Int} (small : Counter.Mem (n * 2)) :
    (standardPart l n).WellFormed l ∧ (standardPart l n).Counted := by
  have hn : Counter.Mem n := by
    simp only [Counter.Mem, Counter.least, Counter.greatest] at small ⊢
    omega
  have harmor : Counter.Mem (if l = .head then 9 else n * 2) := by
    split
    · decide
    · exact small
  obtain ⟨hrear, hfront⟩ := mem_quarter harmor
  rw [standardPart]
  split
  · exact ⟨BodyPart.intact_wellFormed .., BodyPart.intact_counted l hfront hrear hn⟩
  · exact ⟨BodyPart.intact_wellFormed .., BodyPart.intact_counted l harmor (by decide) hn⟩

lemma new_mech {rules : Rules} {tonnage : Nat}
    (small : ∀ l n, rules.internal? tonnage l = some n → Counter.Mem (n * 2)) (id : UnitId)
    (name : String) : (mech rules id name tonnage).New := by
  have hpart : ∀ l q, (mech rules id name tonnage).part? l = some q →
      q.WellFormed l ∧ q.Counted := by
    intro l q hq
    rw [part?, mech, Location.Map.get?_ofFn] at hq
    obtain ⟨n, hn, rfl⟩ := Option.map_eq_some_iff.mp hq
    exact standardPart_spec l (small l n hn)
  exact ⟨⟨fun l q hq => (hpart l q hq).1, Nat.zero_lt_succ 5⟩, fun l q hq => (hpart l q hq).2,
    rfl⟩

/-- **Assembled units are as new**: well-formed, and without damage this phase. -/
lemma new_of_assembled {rules : Rules} (h : Assembled rules u) : u.New := by
  induction h with
  | blank id name kind tonnage => exact new_blank id name kind tonnage
  | mech id name tonnage small => exact new_mech small id name
  | withPart l ha hr hi _ ih =>
      exact ih.withPart (BodyPart.intact_wellFormed ..) (BodyPart.intact_counted l ha hr hi)
  | withArmor l ha ha₀ hr hr₀ _ ih => exact ih.withArmor l ha ha₀ hr hr₀
  | mount l c _ ih => exact ih.mount l c
  | withInternals _ ih => exact ih.withInternals
  | withPilot p _ ih =>
      exact ⟨⟨ih.wellFormed.parts, ih.wellFormed.facing⟩, ih.counted, ih.phaseDamage⟩
  | deployedAt position facing _ ih =>
      exact ⟨⟨ih.wellFormed.parts, Facing.wrap_index_lt facing⟩, ih.counted, ih.phaseDamage⟩
  | moved mode hexes _ ih =>
      exact ⟨⟨ih.wellFormed.parts, ih.wellFormed.facing⟩, ih.counted, ih.phaseDamage⟩

end BattleUnit

end MechBattle
