/-
Equipment, and the marks that critical hits leave on it.

A slot leads to the same component before and after it was struck: marks never
move a component, and a component marked twice is marked once.

* `Component.span` and `Component.Marking`: where a component is mounted, and
  changes that leave it there;
* `BodyPart.Apart`: no two components share a slot, and each has one;
* `BodyPart.Struck`, `BodyPart.Burst` and `mark_spec`: what a report does to the
  component at a place of the mounting order;
* `BattleUnit.fitted?`, `BattleUnit.indexAt?`: the equipment of a unit by
  location and place.
-/
import MechBattle.Proofs.Strikes

namespace MechBattle

namespace Component

variable {c c' : Component} {slot : Nat}

/-- Where a component is mounted: its first slot and how many it takes up. -/
def span (c : Component) : Nat × Nat := (c.firstSlot, c.slotCount)

lemma occupies_congr (h : c'.span = c.span) (slot : Nat) :
    c'.occupies slot = c.occupies slot := by
  obtain ⟨hfirst, hcount⟩ := Prod.mk.inj h
  rw [occupies, hfirst, hcount, occupies]

/-- A component with a slot at all has its first one. -/
lemma occupies_firstSlot (h : c.occupies slot = true) : c.occupies c.firstSlot = true := by
  simp only [occupies, decide_eq_true_eq] at h ⊢
  omega

lemma lt_lastSlot_of_occupies (h : c.occupies slot = true) : slot < lastSlot := by
  simp only [occupies, decide_eq_true_eq] at h
  omega

/-- A change that leaves a component where it is mounted and, made twice, does
no more than once. -/
structure Marking (f : Component → Component) : Prop where
  span : ∀ c, (f c).span = c.span
  twice : ∀ c, f (f c) = f c

lemma marking_wrecked : Marking wrecked where
  span _ := rfl
  twice _ := rfl

lemma marking_spent : Marking spent where
  span _ := rfl
  twice c := by
    simp only [spent, Option.map_map]
    rfl

lemma pendingExplosion_of_exploded (h : c.exploded = true) : c.pendingExplosion = none := by
  rw [pendingExplosion, if_pos h]

end Component

namespace BodyPart

variable {p q : BodyPart} {f : Component → Component} {slot j : Nat} {c : Component}

/-- Where all components are mounted. -/
def spans (p : BodyPart) : List (Nat × Nat) := p.components.map Component.span

lemma componentIndexAt?_congr (h : q.spans = p.spans) (slot : Nat) :
    q.componentIndexAt? slot = p.componentIndexAt? slot := by
  have hspans : ∀ r : BodyPart, r.componentIndexAt? slot =
      r.spans.findIdx? fun s =>
        decide (s.1 ≤ slot ∧ slot < min Component.lastSlot (s.1 + s.2)) := by
    intro r
    rw [spans, List.findIdx?_map]
    rfl
  rw [hspans, hspans, h]

lemma componentAt?_eq_some :
    p.componentAt? slot = some c ↔
      ∃ j, p.componentIndexAt? slot = some j ∧ p.components[j]? = some c := by
  rw [componentAt?, List.find?_eq_bind_findIdx?_getElem?, Option.bind_eq_some_iff]
  rfl

/-- A slot leads to a component that takes it up. -/
lemma exists_of_componentIndexAt? (h : p.componentIndexAt? slot = some j) :
    ∃ c, p.components[j]? = some c ∧ c.occupies slot = true := by
  obtain ⟨hj, hslot, -⟩ := List.findIdx?_eq_some_iff_getElem.mp h
  exact ⟨p.components[j], List.getElem?_eq_getElem hj, hslot⟩

/-- No two components of a part share a slot, and each of them has one. -/
structure Apart (p : BodyPart) : Prop where
  occupied : ∀ c ∈ p.components, ∃ slot, c.occupies slot = true
  disjoint : p.components.Pairwise fun c c' =>
    ∀ slot, ¬ (c.occupies slot = true ∧ c'.occupies slot = true)

lemma apart_iff : p.Apart ↔ (∀ c ∈ p.components, c.occupies c.firstSlot = true) ∧
    p.components.Pairwise fun c c' => ∀ slot < Component.lastSlot,
      ¬ (c.occupies slot = true ∧ c'.occupies slot = true) := by
  constructor
  · rintro ⟨occupied, disjoint⟩
    refine ⟨fun c hc => ?_, disjoint.imp fun h slot _ => h slot⟩
    obtain ⟨slot, hslot⟩ := occupied c hc
    exact Component.occupies_firstSlot hslot
  · rintro ⟨occupied, disjoint⟩
    refine ⟨fun c hc => ⟨_, occupied c hc⟩, disjoint.imp fun h slot hslot => ?_⟩
    exact h slot (Component.lt_lastSlot_of_occupies hslot.1) hslot

instance (p : BodyPart) : Decidable p.Apart := decidable_of_iff _ apart_iff.symm

/-- Components apart from each other take up different slots. -/
lemma Apart.eq_of_occupies (h : p.Apart) {i : Nat} {c' : Component}
    (hi : p.components[i]? = some c) (hj : p.components[j]? = some c')
    (hc : c.occupies slot = true) (hc' : c'.occupies slot = true) : i = j := by
  obtain ⟨hi', rfl⟩ := List.getElem?_eq_some_iff.mp hi
  obtain ⟨hj', rfl⟩ := List.getElem?_eq_some_iff.mp hj
  have hpairs := List.pairwise_iff_getElem.mp h.disjoint
  rcases lt_trichotomy i j with hlt | heq | hgt
  · exact absurd ⟨hc, hc'⟩ (hpairs i j hi' hj' hlt _)
  · exact heq
  · exact absurd ⟨hc', hc⟩ (hpairs j i hj' hi' hgt _)

/-- A slot that a component takes up leads to it. -/
lemma Apart.componentIndexAt?_eq (h : p.Apart) (hj : p.components[j]? = some c)
    (hslot : c.occupies slot = true) : p.componentIndexAt? slot = some j := by
  obtain ⟨i, hi⟩ : ∃ i, p.componentIndexAt? slot = some i := by
    rw [← Option.isSome_iff_exists, componentIndexAt?, List.findIdx?_isSome]
    exact List.any_eq_true.mpr ⟨c, List.mem_of_getElem? hj, hslot⟩
  obtain ⟨c', hc', hslot'⟩ := exists_of_componentIndexAt? hi
  rw [hi, h.eq_of_occupies hc' hj hslot' hslot]

/-- Components apart from each other have different first slots. -/
lemma Apart.index_eq (h : p.Apart) {i : Nat} {c' : Component} (hi : p.components[i]? = some c)
    (hj : p.components[j]? = some c') (hfirst : c.firstSlot = c'.firstSlot) : i = j := by
  obtain ⟨occupied, -⟩ := apart_iff.mp h
  have hc' := occupied c' (List.mem_of_getElem? hj)
  rw [← hfirst] at hc'
  exact h.eq_of_occupies hi hj (occupied c (List.mem_of_getElem? hi)) hc'

/-! ### Marks -/

lemma components_modifyAt (h : p.componentIndexAt? slot = some j) :
    (p.modifyAt slot f).components = p.components.modify j f := by
  rw [modifyAt, h]

lemma getElem?_modifyAt (slot j : Nat) :
    (p.modifyAt slot f).components[j]? =
      if p.componentIndexAt? slot = some j then p.components[j]?.map f
      else p.components[j]? := by
  rw [modifyAt]
  cases h : p.componentIndexAt? slot with
  | none => rfl
  | some i =>
      simp only [List.getElem?_modify, Option.some.injEq]
      split
      · rfl
      · exact Option.map_id'

lemma spans_modifyAt (hf : Component.Marking f) (slot : Nat) :
    (p.modifyAt slot f).spans = p.spans := by
  refine List.ext_getElem? fun j => ?_
  rw [spans, spans, List.getElem?_map, List.getElem?_map, getElem?_modifyAt]
  split
  · rw [Option.map_map]
    exact congrArg (Option.map · p.components[j]?) (funext hf.span)
  · rfl

lemma spans_modifyAll (hf : Component.Marking f) (slots : List Nat) :
    (p.modifyAll f slots).spans = p.spans := by
  induction slots generalizing p with
  | nil => rfl
  | cons slot rest ih => rw [modifyAll_cons, ih, spans_modifyAt hf]

/-- A component is marked iff one of the slots leads to it. -/
lemma getElem?_modifyAll (hf : Component.Marking f) (slots : List Nat) (j : Nat) :
    (p.modifyAll f slots).components[j]? =
      if some j ∈ slots.map p.componentIndexAt? then p.components[j]?.map f
      else p.components[j]? := by
  induction slots generalizing p with
  | nil => rfl
  | cons slot rest ih =>
      have hindex : (p.modifyAt slot f).componentIndexAt? = p.componentIndexAt? :=
        funext (componentIndexAt?_congr (spans_modifyAt hf slot))
      have htwice : (p.components[j]?.map f).map f = p.components[j]?.map f := by
        rw [Option.map_map]
        exact congrArg (Option.map · p.components[j]?) (funext hf.twice)
      have hmem : some j ∈ (slot :: rest).map p.componentIndexAt? ↔
          p.componentIndexAt? slot = some j ∨ some j ∈ rest.map p.componentIndexAt? := by
        rw [List.map_cons, List.mem_cons, eq_comm]
      rw [modifyAll_cons, ih, hindex, getElem?_modifyAt]
      by_cases hrest : some j ∈ rest.map p.componentIndexAt?
      · by_cases hslot : p.componentIndexAt? slot = some j
        · rw [if_pos hrest, if_pos hslot, if_pos (hmem.mpr (.inr hrest)), htwice]
        · rw [if_pos hrest, if_neg hslot, if_pos (hmem.mpr (.inr hrest))]
      · by_cases hslot : p.componentIndexAt? slot = some j
        · rw [if_neg hrest, if_pos hslot, if_pos (hmem.mpr (.inl hslot))]
        · rw [if_neg hrest, if_neg hslot, if_neg]
          rintro h
          rcases hmem.mp h with h | h
          · exact hslot h
          · exact hrest h

lemma spans_mark (p : BodyPart) (r : CriticalReport) : (p.mark r).spans = p.spans := by
  rw [mark, spans_modifyAll Component.marking_spent, spans_modifyAll Component.marking_wrecked]

/-- Whether a report has a hit on the component at a place. -/
def Struck (p : BodyPart) (r : CriticalReport) (j : Nat) : Prop :=
  ∃ h ∈ r.hits, p.componentIndexAt? h.slot = some j

/-- Whether a report has an explosion of the component at a place. -/
def Burst (p : BodyPart) (r : CriticalReport) (j : Nat) : Prop :=
  ∃ e ∈ r.explosions, p.componentIndexAt? e.slot = some j

/-- **What a report does to a component**: it is destroyed if it was struck, and it
has exploded if it burst. -/
lemma mark_spec (p : BodyPart) (r : CriticalReport) (hc : p.components[j]? = some c) :
    ∃ c', (p.mark r).components[j]? = some c' ∧
      (c'.destroyed = true ↔ c.destroyed = true ∨ p.Struck r j) ∧
      (c'.exploded = true ↔ c.exploded = true ∨ p.Burst r j) ∧
      (c.pendingExplosion = none → c'.pendingExplosion = none) := by
  have hstruck : some j ∈ (r.hits.map (·.slot)).map p.componentIndexAt? ↔ p.Struck r j := by
    rw [List.map_map, List.mem_map]
    rfl
  have hburst : some j ∈ (r.explosions.map (·.slot)).map p.componentIndexAt? ↔
      p.Burst r j := by
    rw [List.map_map, List.mem_map]
    rfl
  have hindex : (p.modifyAll .wrecked (r.hits.map (·.slot))).componentIndexAt? =
      p.componentIndexAt? :=
    funext (componentIndexAt?_congr (spans_modifyAll Component.marking_wrecked _))
  rw [mark, getElem?_modifyAll Component.marking_spent, hindex,
    getElem?_modifyAll Component.marking_wrecked, hc, ← hstruck, ← hburst]
  by_cases hs : some j ∈ (r.hits.map (·.slot)).map p.componentIndexAt? <;>
    by_cases hb : some j ∈ (r.explosions.map (·.slot)).map p.componentIndexAt?
  · rw [if_pos hb, if_pos hs]
    exact ⟨c.wrecked.spent, rfl, iff_of_true rfl (.inr hs), iff_of_true rfl (.inr hb),
      fun _ => rfl⟩
  · rw [if_neg hb, if_pos hs]
    exact ⟨c.wrecked, rfl, iff_of_true rfl (.inr hs), (or_iff_left hb).symm, fun h => h⟩
  · rw [if_pos hb, if_neg hs]
    exact ⟨c.spent, rfl, (or_iff_left hs).symm, iff_of_true rfl (.inr hb), fun _ => rfl⟩
  · rw [if_neg hb, if_neg hs]
    exact ⟨c, rfl, (or_iff_left hs).symm, (or_iff_left hb).symm, fun h => h⟩

/-- A mark adds no component. -/
lemma exists_of_mark {r : CriticalReport} (h : (p.mark r).components[j]? = some c) :
    ∃ c₀, p.components[j]? = some c₀ := by
  have hspan : (p.mark r).spans[j]? = some c.span := by
    rw [spans, List.getElem?_map, h, Option.map_some]
  rw [spans_mark, spans, List.getElem?_map] at hspan
  obtain ⟨c₀, hc₀, -⟩ := Option.map_eq_some_iff.mp hspan
  exact ⟨c₀, hc₀⟩

end BodyPart

/-! ### The equipment of a unit -/

namespace BodyPart

/-- Both parts have the same equipment, in the same state. -/
structure SameEquipment (p q : BodyPart) : Prop where
  location : q.location = p.location
  components : q.components = p.components

/-- The second part has the equipment of the first one in the same places, with
nothing repaired. -/
structure Kept (p q : BodyPart) : Prop where
  location : q.location = p.location
  spans : q.spans = p.spans
  component : ∀ (j : Nat) (c : Component), p.components[j]? = some c →
    ∃ c', q.components[j]? = some c' ∧
      (c.destroyed = true → c'.destroyed = true) ∧ (c.exploded = true → c'.exploded = true)

variable {p q r : BodyPart}

lemma SameEquipment.refl (p : BodyPart) : p.SameEquipment p := ⟨rfl, rfl⟩

lemma SameEquipment.trans (h : p.SameEquipment q) (h' : q.SameEquipment r) :
    p.SameEquipment r :=
  ⟨h'.location.trans h.location, h'.components.trans h.components⟩

lemma SameEquipment.kept (h : p.SameEquipment q) : p.Kept q where
  location := h.location
  spans := congrArg (List.map Component.span) h.components
  component j c hj := ⟨c, by rw [h.components, hj], fun h => h, fun h => h⟩

lemma Kept.refl (p : BodyPart) : p.Kept p := (SameEquipment.refl p).kept

lemma Kept.trans (h : p.Kept q) (h' : q.Kept r) : p.Kept r where
  location := h'.location.trans h.location
  spans := h'.spans.trans h.spans
  component j c hj := by
    obtain ⟨c₁, hj₁, hd₁, he₁⟩ := h.component j c hj
    obtain ⟨c₂, hj₂, hd₂, he₂⟩ := h'.component j c₁ hj₁
    exact ⟨c₂, hj₂, fun hd => hd₂ (hd₁ hd), fun he => he₂ (he₁ he)⟩

lemma kept_mark (p : BodyPart) (r : CriticalReport) : p.Kept (p.mark r) where
  location := by
    obtain ⟨_, h⟩ := p.exists_mark_eq r
    rw [h]
  spans := spans_mark p r
  component j c hj := by
    obtain ⟨c', hj', hd, he, -⟩ := p.mark_spec r hj
    exact ⟨c', hj', fun h => hd.mpr (.inl h), fun h => he.mpr (.inl h)⟩

lemma Apart.congr (h : p.Apart) (hspans : q.spans = p.spans) : q.Apart := by
  have hget : ∀ (j : Nat) (c : Component), q.components[j]? = some c →
      ∃ c', p.components[j]? = some c' ∧ c.span = c'.span := by
    intro j c hj
    have hspan : q.spans[j]? = some c.span := by rw [spans, List.getElem?_map, hj, Option.map_some]
    rw [hspans, spans, List.getElem?_map] at hspan
    obtain ⟨c', hc', heq⟩ := Option.map_eq_some_iff.mp hspan
    exact ⟨c', hc', heq.symm⟩
  constructor
  · intro c hc
    obtain ⟨j, hj⟩ := List.mem_iff_getElem?.mp hc
    obtain ⟨c', hj', hspan⟩ := hget j c hj
    obtain ⟨slot, hslot⟩ := h.occupied c' (List.mem_of_getElem? hj')
    exact ⟨slot, by rw [Component.occupies_congr hspan, hslot]⟩
  · rw [List.pairwise_iff_getElem]
    intro i j hi hj hlt slot
    obtain ⟨c, hc, hspan⟩ := hget i _ (List.getElem?_eq_getElem hi)
    obtain ⟨c', hc', hspan'⟩ := hget j _ (List.getElem?_eq_getElem hj)
    obtain ⟨hi', rfl⟩ := List.getElem?_eq_some_iff.mp hc
    obtain ⟨hj', rfl⟩ := List.getElem?_eq_some_iff.mp hc'
    rw [Component.occupies_congr hspan, Component.occupies_congr hspan']
    exact List.pairwise_iff_getElem.mp h.disjoint i j hi' hj' hlt slot

end BodyPart

namespace BattleUnit

variable {u v w : BattleUnit} {l : Location} {j : Nat} {c : Component}

/-- The component at a place of the mounting order of a location. -/
def fitted? (u : BattleUnit) (l : Location) (j : Nat) : Option Component :=
  (u.part? l).bind (·.components[j]?)

/-- The place that a slot leads to. -/
def indexAt? (u : BattleUnit) (l : Location) (slot : Nat) : Option Nat :=
  (u.part? l).bind (·.componentIndexAt? slot)

lemma fitted?_eq_some :
    u.fitted? l j = some c ↔ ∃ p, u.part? l = some p ∧ p.components[j]? = some c :=
  Option.bind_eq_some_iff

lemma indexAt?_eq {p : BodyPart} (hp : u.part? l = some p) (slot : Nat) :
    u.indexAt? l slot = p.componentIndexAt? slot := by
  rw [indexAt?, hp, Option.bind_some]

/-- Whether the components of each part are apart from each other. -/
def Apart (u : BattleUnit) : Prop := u.EachPart fun _ p => p.Apart

instance (u : BattleUnit) : Decidable u.Apart :=
  inferInstanceAs (Decidable (u.EachPart fun _ p => p.Apart))

lemma indexAt?_of_kept (h : u.Partwise BodyPart.Kept v) (l : Location) (slot : Nat) :
    v.indexAt? l slot = u.indexAt? l slot := by
  cases hp : u.part? l with
  | none => rw [indexAt?, indexAt?, hp, h.missing l hp]
  | some p =>
      obtain ⟨q, hq, hpq⟩ := h.part l p hp
      rw [indexAt?_eq hp, indexAt?_eq hq, BodyPart.componentIndexAt?_congr hpq.spans]

lemma fitted?_of_kept (h : u.Partwise BodyPart.Kept v) (hc : u.fitted? l j = some c) :
    ∃ c', v.fitted? l j = some c' ∧ (c.destroyed = true → c'.destroyed = true) ∧
      (c.exploded = true → c'.exploded = true) := by
  obtain ⟨p, hp, hj⟩ := fitted?_eq_some.mp hc
  obtain ⟨q, hq, hpq⟩ := h.part l p hp
  obtain ⟨c', hj', hd, he⟩ := hpq.component j c hj
  exact ⟨c', fitted?_eq_some.mpr ⟨q, hq, hj'⟩, hd, he⟩

lemma apart_of_kept (h : u.Partwise BodyPart.Kept v) (apart : u.Apart) : v.Apart := by
  intro l q hq
  obtain ⟨p, hp, hpq⟩ := h.of_part hq
  exact (apart l p hp).congr hpq.spans

lemma home_of_kept (h : u.Partwise BodyPart.Kept v) (home : u.HomeParts) : v.HomeParts := by
  intro l q hq
  obtain ⟨p, hp, hpq⟩ := h.of_part hq
  rw [hpq.location, home l p hp]

lemma kept_mark (u : BattleUnit) (r : CriticalReport) :
    u.Partwise BodyPart.Kept (u.mark r) :=
  partwise_mark BodyPart.Kept.refl (fun p => p.kept_mark r) u

lemma kept_marks (u : BattleUnit) (reports : List CriticalReport) :
    u.Partwise BodyPart.Kept (reports.foldl mark u) :=
  partwise_marks BodyPart.Kept.refl BodyPart.Kept.trans BodyPart.kept_mark u reports

lemma fitted?_of_sameEquipment (h : u.Partwise BodyPart.SameEquipment v) (l : Location)
    (j : Nat) : v.fitted? l j = u.fitted? l j := by
  rw [fitted?, fitted?]
  cases hp : u.part? l with
  | none => rw [h.missing l hp]
  | some p =>
      obtain ⟨q, hq, hpq⟩ := h.part l p hp
      rw [hq, Option.bind_some, Option.bind_some, hpq.components]

/-- Damage leaves equipment alone. -/
lemma sameEquipment_takeDamage (u : BattleUnit) (taken : List Absorption) :
    u.Partwise BodyPart.SameEquipment (u.takeDamage taken) where
  part l p hp :=
    ⟨_, by rw [part?_takeDamage, hp, Option.map_some], BodyPart.takeAll_location _ _,
      BodyPart.takeAll_components _ _⟩
  missing l hl := by rw [part?_takeDamage, hl, Option.map_none]

end BattleUnit

end MechBattle
