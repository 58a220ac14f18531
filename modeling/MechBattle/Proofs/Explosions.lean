/-
No component explodes twice.

Nothing about an explosion looks at whether the component is destroyed. That it
happens once rests on three things that agree: a call remembers by first slot
what has burst in it, the same slot leads to the same component when the call is
applied, and what is applied leaves nothing to explode.

* `BodyPart.Volley`: strikes on a part slot by slot, of which `Volley.nodup` and
  `Volley.all` say what explodes;
* `CriticalReport.Strikes`: the explosions of a report on a part, each of them of
  another component, and of all that were struck and could explode;
* `strikes_strikeAll`: the reports of a call are like that, location by location;
* `BattleUnit.bursts`: the components that exploded, by location and place;
* `Course.Recorded`: the record agrees with the unit, with one lemma for marks and
  one for all that leaves equipment alone;
* `explosion_once`: through any course of ordeals no component explodes twice.
-/
import MechBattle.BattleUnit.Assembly
import MechBattle.Dice.Script
import MechBattle.Proofs.Course
import MechBattle.Proofs.Equipment

namespace MechBattle

/-! ### Strikes of one call -/

/-- A report on a part: its explosions are those of different components, which
could explode, and every component that was struck and could explode did so. -/
structure CriticalReport.Strikes (r : CriticalReport) (p : BodyPart) : Prop where
  found : ∀ e ∈ r.explosions, ∃ j c, p.componentIndexAt? e.slot = some j ∧
    p.components[j]? = some c ∧ c.pendingExplosion ≠ none
  nodup : (r.explosions.map fun e => p.componentIndexAt? e.slot).Nodup
  all : ∀ (j : Nat) (c : Component), p.Struck r j → p.components[j]? = some c →
    c.pendingExplosion ≠ none → p.Burst r j

/-- Only the equipment of the part counts. -/
lemma CriticalReport.Strikes.of_sameEquipment {r : CriticalReport} {p q : BodyPart}
    (h : r.Strikes p) (hsame : p.SameEquipment q) : r.Strikes q := by
  have hindex : q.componentIndexAt? = p.componentIndexAt? :=
    funext (BodyPart.componentIndexAt?_congr hsame.kept.spans)
  obtain ⟨hfound, hnodup, hall⟩ := h
  refine ⟨?_, ?_, ?_⟩
  · rw [hindex, hsame.components]
    exact hfound
  · rw [hindex]
    exact hnodup
  · intro j c
    rw [BodyPart.Struck, BodyPart.Burst, hindex, hsame.components]
    exact hall j c

/-- Strikes on slots of a part, one after the other, with the explosions they set
off. `gone` are the components that had gone off before, and `gone'` those that
have gone off in the end. -/
inductive BodyPart.Volley (p : BodyPart) : (gone : List (Location × Nat)) → List Nat →
    List Explosion → (gone' : List (Location × Nat)) → Prop
  | nil (gone : List (Location × Nat)) : Volley p gone [] [] gone
  | burst {gone gone' : List (Location × Nat)} {slot : Nat} {slots : List Nat} {e : Explosion}
      {es : List Explosion} {j : Nat} {c : Component}
      (index : p.componentIndexAt? slot = some j) (component : p.components[j]? = some c)
      (pending : c.pendingExplosion ≠ none) (fresh : (p.location, c.firstSlot) ∉ gone)
      (slot_eq : e.slot = slot)
      (later : Volley p ((p.location, c.firstSlot) :: gone) slots es gone') :
      Volley p gone (slot :: slots) (e :: es) gone'
  | quiet {gone gone' : List (Location × Nat)} {slot : Nat} {slots : List Nat}
      {es : List Explosion}
      (nothing : ∀ j c, p.componentIndexAt? slot = some j → p.components[j]? = some c →
        c.pendingExplosion ≠ none → (p.location, c.firstSlot) ∈ gone)
      (later : Volley p gone slots es gone') : Volley p gone (slot :: slots) es gone'

lemma BattleUnit.volley_strikeSlots (u : BattleUnit) (p : BodyPart) (blast : Blast)
    (slots : List Nat) :
    p.Volley blast.gone slots (u.strikeSlots p blast slots).2.1
      (u.strikeSlots p blast slots).2.2.gone := by
  induction slots generalizing blast with
  | nil => exact .nil blast.gone
  | cons slot rest ih =>
      have later := ih (u.strike p blast slot).2.2
      rw [strikeSlots_cons]
      dsimp only
      rcases u.strike_cases p blast slot with
        ⟨c, damage, hslot, hpending, hgone, hburst⟩ | ⟨hquiet, hnothing⟩
      · obtain ⟨j, hj, hc⟩ := BodyPart.componentAt?_eq_some.mp hslot
        rw [hburst] at later ⊢
        rw [Option.toList_some, List.singleton_append]
        exact .burst hj hc (hpending ▸ Option.some_ne_none _) hgone rfl later
      · rw [hquiet] at later ⊢
        rw [Option.toList_none, List.nil_append]
        exact .quiet (fun j c hj hc => hnothing c (BodyPart.componentAt?_eq_some.mpr ⟨j, hj, hc⟩))
          later

namespace BodyPart.Volley

variable {p : BodyPart} {gone gone' : List (Location × Nat)} {slots : List Nat}
  {es : List Explosion}

/-- Every explosion is that of a component which had not gone off before. -/
lemma found (h : p.Volley gone slots es gone') : ∀ e ∈ es, ∃ j c,
    p.componentIndexAt? e.slot = some j ∧ p.components[j]? = some c ∧
      c.pendingExplosion ≠ none ∧ (p.location, c.firstSlot) ∉ gone := by
  induction h with
  | nil => exact fun _ he => absurd he List.not_mem_nil
  | @burst _ _ slot _ e _ j c index component pending fresh slot_eq _ ih =>
      intro e' he'
      rcases List.mem_cons.mp he' with rfl | he'
      · exact ⟨j, c, by rw [slot_eq, index], component, pending, fresh⟩
      · obtain ⟨i, c', hi, hc', hpending, hfresh⟩ := ih e' he'
        exact ⟨i, c', hi, hc', hpending, fun h => hfresh (List.mem_cons_of_mem _ h)⟩
  | quiet _ _ ih => exact ih

/-- A component explodes once in a volley. -/
lemma nodup (h : p.Volley gone slots es gone') :
    (es.map fun e => p.componentIndexAt? e.slot).Nodup := by
  induction h with
  | nil => exact List.nodup_nil
  | burst index component _ _ slot_eq later ih =>
      rw [List.map_cons, List.nodup_cons]
      refine ⟨fun hmem => ?_, ih⟩
      obtain ⟨e, he, heq⟩ := List.mem_map.mp hmem
      obtain ⟨i, c', hi, hc', -, hfresh⟩ := later.found e he
      -- the same place would be the same component, which has gone off
      rw [slot_eq, index, hi, Option.some.injEq] at heq
      rw [heq, component, Option.some.injEq] at hc'
      rw [← hc'] at hfresh
      exact hfresh List.mem_cons_self
  | quiet _ _ ih => exact ih

/-- Every component that is struck and could explode does so, unless it has gone
off before. -/
lemma all (h : p.Volley gone slots es gone') (apart : p.Apart) {slot j : Nat} {c : Component}
    (hmem : slot ∈ slots) (hj : p.componentIndexAt? slot = some j)
    (hc : p.components[j]? = some c) (hpending : c.pendingExplosion ≠ none)
    (hfresh : (p.location, c.firstSlot) ∉ gone) :
    ∃ e ∈ es, p.componentIndexAt? e.slot = some j := by
  induction h with
  | nil => cases hmem
  | @burst _ _ first _ e _ i c₀ index component _ _ slot_eq _ ih =>
      by_cases hsame : i = j
      · subst hsame
        exact ⟨e, List.mem_cons_self, by rw [slot_eq, index]⟩
      · have hrest := (List.mem_cons.mp hmem).resolve_left <| by
          rintro rfl
          exact hsame (Option.some.inj (index.symm.trans hj))
        have hother : (p.location, c.firstSlot) ≠ (p.location, c₀.firstSlot) := by
          intro heq
          exact hsame (apart.index_eq component hc (Prod.mk.inj heq).2.symm)
        obtain ⟨e', he', heq⟩ := ih hrest (List.not_mem_cons_of_ne_of_not_mem hother hfresh)
        exact ⟨e', List.mem_cons_of_mem e he', heq⟩
  | quiet nothing _ ih =>
      refine ih ((List.mem_cons.mp hmem).resolve_left ?_) hfresh
      rintro rfl
      exact hfresh (nothing j c hj hc hpending)

/-- What goes off in a volley is kept under the location of the part. -/
lemma gone_of_ne (h : p.Volley gone slots es gone') {l : Location} (hl : l ≠ p.location)
    {first : Nat} (hmem : (l, first) ∈ gone') : (l, first) ∈ gone := by
  induction h with
  | nil => exact hmem
  | burst _ _ _ _ _ _ ih =>
      exact (List.mem_cons.mp (ih hmem)).resolve_left fun heq => hl (Prod.mk.inj heq).1
  | quiet _ _ ih => exact ih hmem

end BodyPart.Volley

namespace BattleUnit

variable {u : BattleUnit} {p : BodyPart}

/-- A call on a part of which nothing has gone off yet. -/
lemma strikes_strikeSlots (u : BattleUnit) (apart : p.Apart) {blast : Blast}
    (fresh : ∀ first, (p.location, first) ∉ blast.gone) (l : Location) (roll : Int)
    (hitCount : Nat) (slots : List Nat) :
    (⟨l, roll, hitCount, (u.strikeSlots p blast slots).1,
      (u.strikeSlots p blast slots).2.1⟩ : CriticalReport).Strikes p where
  found e he := by
    obtain ⟨j, c, hj, hc, hpending, -⟩ := (u.volley_strikeSlots p blast slots).found e he
    exact ⟨j, c, hj, hc, hpending⟩
  nodup := (u.volley_strikeSlots p blast slots).nodup
  all j c := by
    rintro ⟨h, hh, hj⟩ hc hpending
    refine (u.volley_strikeSlots p blast slots).all apart ?_ hj hc hpending (fresh c.firstSlot)
    rw [← slots_strikeSlots u p blast slots]
    exact List.mem_map_of_mem hh

/-- Reports on different parts of a unit. -/
structure Reported (u : BattleUnit) (reports : List CriticalReport) : Prop where
  strikes : ∀ r ∈ reports, ∃ p, u.part? r.location = some p ∧ r.Strikes p
  nodup : (reports.map (·.location)).Nodup

lemma strikes_strikeAll (home : u.HomeParts) (apart : u.Apart) {rolls : List CriticalRoll}
    (drawn : u.Drawn rolls) {blast : Blast}
    (fresh : ∀ c ∈ rolls, ∀ first, (c.location, first) ∉ blast.gone) :
    ∀ r ∈ u.strikeAll blast rolls, ∃ p, u.part? r.location = some p ∧ r.Strikes p := by
  induction rolls generalizing blast with
  | nil =>
      intro r hr
      cases hr
  | cons c rest ih =>
      obtain ⟨hpart, hnodup⟩ := drawn
      rw [List.map_cons, List.nodup_cons] at hnodup
      have hp := hpart c List.mem_cons_self
      have hl := home c.location c.part hp
      intro r hr
      rw [strikeAll_cons, List.mem_cons] at hr
      rcases hr with rfl | hr
      · refine ⟨c.part, hp, strikes_strikeSlots u (apart _ _ hp) ?_ _ _ _ _⟩
        rw [hl]
        exact fresh c List.mem_cons_self
      · refine ih ⟨fun d hd => hpart d (List.mem_cons_of_mem _ hd), hnodup.2⟩ ?_ r hr
        intro d hd first hgone
        have hne : d.location ≠ c.part.location := by
          rw [hl]
          rintro heq
          exact hnodup.1 (heq ▸ List.mem_map_of_mem hd)
        exact fresh d (List.mem_cons_of_mem _ hd) first
          ((u.volley_strikeSlots c.part blast c.slots).gone_of_ne hne hgone)

/-- **The reports of a call** are on different parts, and no component explodes
twice in them. -/
lemma reported_strikeAll (home : u.HomeParts) (apart : u.Apart) {rolls : List CriticalRoll}
    (drawn : u.Drawn rolls) : u.Reported (u.strikeAll {} rolls) := by
  constructor
  · exact strikes_strikeAll home apart drawn fun _ _ _ => List.not_mem_nil
  · rw [locations_strikeAll]
    exact drawn.nodup

lemma Reported.of_sameEquipment {v : BattleUnit} {reports : List CriticalReport}
    (h : u.Reported reports) (hsame : u.Partwise BodyPart.SameEquipment v) :
    v.Reported reports := by
  refine ⟨fun r hr => ?_, h.nodup⟩
  obtain ⟨p, hp, strikes⟩ := h.strikes r hr
  obtain ⟨q, hq, hpq⟩ := hsame.part _ p hp
  exact ⟨q, hq, strikes.of_sameEquipment hpq⟩

/-! ### The record of a whole course -/

/-- The components that exploded in a report, by location and place. -/
def bursts (u : BattleUnit) (r : CriticalReport) : List (Location × Option Nat) :=
  r.explosions.map fun e => (r.location, u.indexAt? r.location e.slot)

/-- Whether nothing that is destroyed can explode. -/
def Spent (u : BattleUnit) : Prop :=
  u.EachPart fun _ p => ∀ c ∈ p.components, c.destroyed = true → c.pendingExplosion = none

instance (u : BattleUnit) : Decidable u.Spent :=
  inferInstanceAs (Decidable (u.EachPart fun _ p =>
    ∀ c ∈ p.components, c.destroyed = true → c.pendingExplosion = none))

end BattleUnit

namespace Course

/-- The record of a course agrees with the unit: all that was struck is destroyed,
all that exploded is marked, and no component explodes twice. `u` is the unit at
the start. -/
structure Recorded (u : BattleUnit) (c : Course) : Prop where
  kept : u.Partwise BodyPart.Kept c.unit
  spent : c.unit.Spent
  nodup : (c.reports.flatMap u.bursts).Nodup
  burst : ∀ r ∈ c.reports, ∀ e ∈ r.explosions, ∃ j k, u.indexAt? r.location e.slot = some j ∧
    c.unit.fitted? r.location j = some k ∧ k.exploded = true
  struck : ∀ r ∈ c.reports, ∀ h ∈ r.hits, ∀ j, u.indexAt? r.location h.slot = some j →
    ∃ k, c.unit.fitted? r.location j = some k ∧ k.destroyed = true

variable {u : BattleUnit} {c d : Course}

/-- Nothing is recorded at the start. -/
lemma recorded_start (spent : u.Spent) : (start u).Recorded u where
  kept := .refl (fun p => (BodyPart.SameEquipment.refl p).kept) u
  spent := spent
  nodup := List.nodup_nil
  burst _ hr := absurd hr List.not_mem_nil
  struck _ hr := absurd hr List.not_mem_nil

/-- What leaves equipment alone leaves the record right. -/
lemma Recorded.of_sameEquipment (h : c.Recorded u)
    (hsame : c.unit.Partwise BodyPart.SameEquipment d.unit) (hreports : d.reports = c.reports) :
    d.Recorded u := by
  have hfitted := BattleUnit.fitted?_of_sameEquipment hsame
  refine ⟨?_, ?_, ?_, ?_, ?_⟩
  · exact h.kept.trans BodyPart.Kept.trans (hsame.imp BodyPart.SameEquipment.kept)
  · intro l q hq
    obtain ⟨p, hp, hpq⟩ := hsame.of_part hq
    rw [hpq.components]
    exact h.spent l p hp
  · rw [hreports]
    exact h.nodup
  · rw [hreports]
    simp only [hfitted]
    exact h.burst
  · rw [hreports]
    simp only [hfitted]
    exact h.struck

section mark

variable {r : CriticalReport} {p : BodyPart}

/-- A slot leads where it led at the start. -/
lemma Recorded.indexAt?_eq (h : c.Recorded u) (hp : c.unit.part? r.location = some p)
    (slot : Nat) : u.indexAt? r.location slot = p.componentIndexAt? slot := by
  rw [← BattleUnit.indexAt?_of_kept h.kept, BattleUnit.indexAt?_eq hp]

/-- What a report struck has nothing left to explode. -/
lemma spent_mark (spent : c.unit.Spent) (hp : c.unit.part? r.location = some p)
    (strikes : r.Strikes p) : (c.unit.mark r).Spent := by
  intro l q hq
  rw [BattleUnit.part?_mark] at hq
  split at hq
  · next hl =>
      subst hl
      rw [hp, Option.map_some] at hq
      obtain rfl := Option.some.inj hq
      intro k' hk' hd
      obtain ⟨j, hj'⟩ := List.mem_iff_getElem?.mp hk'
      obtain ⟨k, hj⟩ := BodyPart.exists_of_mark hj'
      obtain ⟨k'', hj'', hdestroyed, hexploded, hpending⟩ := p.mark_spec r hj
      obtain rfl : k' = k'' := Option.some.inj (hj'.symm.trans hj'')
      by_cases hnone : k.pendingExplosion = none
      · exact hpending hnone
      · rcases hdestroyed.mp hd with hwas | hstruck
        · exact absurd (spent _ p hp k (List.mem_of_getElem? hj) hwas) hnone
        · have hburst := strikes.all j k hstruck hj hnone
          exact Component.pendingExplosion_of_exploded (hexploded.mpr (.inr hburst))
  · exact spent l q hq

/-- What explodes now has not exploded before. -/
lemma nodup_bursts (h : c.Recorded u) (hp : c.unit.part? r.location = some p)
    (strikes : r.Strikes p) : ((c.reports ++ [r]).flatMap u.bursts).Nodup := by
  rw [List.flatMap_append, List.flatMap_singleton, List.nodup_append]
  refine ⟨h.nodup, ?_, ?_⟩
  · have hbursts : u.bursts r =
        (r.explosions.map fun e => p.componentIndexAt? e.slot).map (Prod.mk r.location) := by
      rw [BattleUnit.bursts, List.map_map]
      exact List.map_congr_left fun e _ => congrArg _ (h.indexAt?_eq hp e.slot)
    rw [hbursts]
    exact strikes.nodup.map (Prod.mk_right_injective r.location)
  · intro x hx y hy
    rintro rfl
    obtain ⟨r', hr', hx⟩ := List.mem_flatMap.mp hx
    obtain ⟨e', he', rfl⟩ := List.mem_map.mp hx
    obtain ⟨e, he, heq⟩ := List.mem_map.mp hy
    obtain ⟨hloc, hindex⟩ := Prod.mk.inj heq
    obtain ⟨j', k', hj', hk', hexploded⟩ := h.burst r' hr' e' he'
    obtain ⟨j, k, hj, hk, hpending⟩ := strikes.found e he
    rw [h.indexAt?_eq hp, hj, hj', Option.some.injEq] at hindex
    rw [← hloc, ← hindex, BattleUnit.fitted?, hp, Option.bind_some, hk, Option.some.injEq] at hk'
    rw [← hk'] at hexploded
    exact hpending (Component.pendingExplosion_of_exploded hexploded)

/-- The marks of a report keep the record right. -/
lemma Recorded.mark (h : c.Recorded u) (hp : c.unit.part? r.location = some p)
    (strikes : r.Strikes p) :
    ({ c with unit := c.unit.mark r, reports := c.reports ++ [r] } : Course).Recorded u := by
  have hkept := BattleUnit.kept_mark c.unit r
  have hself : (c.unit.mark r).part? r.location = some (p.mark r) := by
    rw [BattleUnit.part?_mark, if_pos rfl, hp, Option.map_some]
  refine ⟨h.kept.trans BodyPart.Kept.trans hkept, spent_mark h.spent hp strikes,
    nodup_bursts h hp strikes, ?_, ?_⟩
  · intro r' hr' e he
    rcases List.mem_append.mp hr' with hr' | hr'
    · obtain ⟨j, k, hj, hk, hexploded⟩ := h.burst r' hr' e he
      obtain ⟨k', hk', -, hstill⟩ := BattleUnit.fitted?_of_kept hkept hk
      exact ⟨j, k', hj, hk', hstill hexploded⟩
    · obtain rfl := List.mem_singleton.mp hr'
      obtain ⟨j, k, hj, hk, -⟩ := strikes.found e he
      obtain ⟨k', hk', -, hexploded, -⟩ := p.mark_spec r' hk
      exact ⟨j, k', by rw [h.indexAt?_eq hp, hj],
        BattleUnit.fitted?_eq_some.mpr ⟨_, hself, hk'⟩, hexploded.mpr (.inr ⟨e, he, hj⟩)⟩
  · intro r' hr' hit hhit j hj
    rcases List.mem_append.mp hr' with hr' | hr'
    · obtain ⟨k, hk, hdestroyed⟩ := h.struck r' hr' hit hhit j hj
      obtain ⟨k', hk', hstill, -⟩ := BattleUnit.fitted?_of_kept hkept hk
      exact ⟨k', hk', hstill hdestroyed⟩
    · obtain rfl := List.mem_singleton.mp hr'
      rw [h.indexAt?_eq hp] at hj
      obtain ⟨k, hk, -⟩ := BodyPart.exists_of_componentIndexAt? hj
      obtain ⟨k', hk', hdestroyed, -, -⟩ := p.mark_spec r' hk
      exact ⟨k', BattleUnit.fitted?_eq_some.mpr ⟨_, hself, hk'⟩,
        hdestroyed.mpr (.inr ⟨hit, hhit, hj⟩)⟩

end mark

/-- The marks of reports on different parts keep the record right. -/
lemma Recorded.marks (h : c.Recorded u) {reports : List CriticalReport}
    (reported : c.unit.Reported reports) :
    ({ c with unit := reports.foldl BattleUnit.mark c.unit,
              reports := c.reports ++ reports } : Course).Recorded u := by
  induction reports generalizing c with
  | nil =>
      rw [List.append_nil]
      exact h
  | cons r rest ih =>
      obtain ⟨hstrikes, hnodup⟩ := reported
      rw [List.map_cons, List.nodup_cons] at hnodup
      obtain ⟨p, hp, strikes⟩ := hstrikes r List.mem_cons_self
      have hnext := h.mark hp strikes
      rw [List.append_cons, List.foldl_cons]
      refine ih hnext ⟨fun r' hr' => ?_, hnodup.2⟩
      obtain ⟨p', hp', strikes'⟩ := hstrikes r' (List.mem_cons_of_mem r hr')
      have hne : r'.location ≠ r.location := by
        rintro heq
        exact hnodup.1 (heq ▸ List.mem_map_of_mem hr')
      exact ⟨p', by rw [BattleUnit.part?_mark, if_neg hne, hp'], strikes'⟩

lemma sameEquipment_takeFall (u : BattleUnit) (rules : Rules) (r : FallReport) :
    u.Partwise BodyPart.SameEquipment (u.takeFall rules r) := by
  have hrefl := BodyPart.SameEquipment.refl
  rw [BattleUnit.takeFall]
  split
  · exact .refl hrefl u
  · next landing _ =>
      let down : BattleUnit := { u with prone := true, facing := landing.facing }
      have hdown : u.Partwise BodyPart.SameEquipment down := .of_parts_eq hrefl rfl
      have hfall : u.Partwise BodyPart.SameEquipment (down.takeDamage r.taken) :=
        hdown.trans BodyPart.SameEquipment.trans (BattleUnit.sameEquipment_takeDamage down r.taken)
      dsimp only
      split
      · exact hfall.trans BodyPart.SameEquipment.trans (.of_parts_eq hrefl rfl)
      · exact hfall

/-- To equipment an ordeal does what the reports of one call say, if anything. -/
lemma equipment_of_step (h : c.Step d) :
    (c.unit.Partwise BodyPart.SameEquipment d.unit ∧ d.reports = c.reports) ∨
      ∃ rolls v, c.unit.Drawn rolls ∧ c.unit.Partwise BodyPart.SameEquipment v ∧
        d.unit = (c.unit.strikeAll {} rolls).foldl BattleUnit.mark v ∧
        d.reports = c.reports ++ c.unit.strikeAll {} rolls := by
  have hrefl := BodyPart.SameEquipment.refl
  cases h with
  | idle => exact .inl ⟨.refl hrefl _, rfl⟩
  | newPhase => exact .inl ⟨.of_parts_eq hrefl rfl, rfl⟩
  | hits hits => exact .inl ⟨BattleUnit.sameEquipment_takeDamage _ _, rfl⟩
  | @strikes rolls drawn =>
      exact .inr ⟨rolls, _, drawn, BattleUnit.sameEquipment_takeDamage _ _,
        BattleUnit.takeCriticals_eq _ _, rfl⟩
  | fall rules falls => exact .inl ⟨sameEquipment_takeFall _ _ _, rfl⟩

lemma kept_of_step (h : c.Step d) : c.unit.Partwise BodyPart.Kept d.unit := by
  rcases equipment_of_step h with ⟨hsame, -⟩ | ⟨rolls, v, -, hsame, hunit, -⟩
  · exact hsame.imp BodyPart.SameEquipment.kept
  · rw [hunit]
    exact (hsame.imp BodyPart.SameEquipment.kept).trans BodyPart.Kept.trans
      (BattleUnit.kept_marks v _)

/-- **Every ordeal keeps the record right.** -/
lemma recorded_of_step (home : u.HomeParts) (apart : u.Apart) (h : c.Recorded u)
    (hstep : c.Step d) : d.Recorded u := by
  rcases equipment_of_step hstep with ⟨hsame, hreports⟩ | ⟨rolls, v, drawn, hsame, hunit, hreports⟩
  · exact h.of_sameEquipment hsame hreports
  · have hc : ({ c with unit := v } : Course).Recorded u := h.of_sameEquipment hsame rfl
    have reported := BattleUnit.reported_strikeAll (BattleUnit.home_of_kept h.kept home)
      (BattleUnit.apart_of_kept h.kept apart) drawn
    have hmarks := hc.marks (reported.of_sameEquipment hsame)
    refine hmarks.of_sameEquipment (d := d) ?_ hreports
    rw [hunit]
    exact .refl BodyPart.SameEquipment.refl _

end Course

/-- A component that is destroyed does not explode, whatever exploded before. -/
lemma BattleUnit.Spent.strike {u : BattleUnit} (h : u.Spent) {l : Location} {p : BodyPart}
    {slot : Nat} {k : Component} (hp : u.part? l = some p) (hk : p.componentAt? slot = some k)
    (destroyed : k.destroyed = true) (blast : Blast) : (u.strike p blast slot).2.1 = none := by
  have hnone := h l p hp k (List.mem_of_find?_eq_some hk) destroyed
  rcases u.strike_cases p blast slot with ⟨c, damage, hslot, hpending, -⟩ | ⟨hquiet, -⟩
  · obtain rfl := Option.some.inj (hslot.symm.trans hk)
    rw [hnone] at hpending
    cases hpending
  · rw [hquiet]

/-- **No component explodes twice.** Through any course of ordeals, whatever the
dice show, all explosions on record are those of different components. What is
destroyed or has exploded stays so. All that was struck is destroyed, and nothing
that is destroyed can explode, however it is struck again. -/
theorem explosion_once {σ : Type} [DiceSource σ] (rules : Rules) (u : BattleUnit)
    (home : u.HomeParts) (apart : u.Apart) (spent : u.Spent) (first later : List Ordeal)
    (c d : Course) (dice dice' rest : σ)
    (hfirst : ((Course.start u).run rules first).run dice = (some c, dice'))
    (hlater : (c.run rules later).run dice' = (some d, rest)) :
    (d.reports.flatMap u.bursts).Nodup ∧
      (∀ x ∈ d.reports.flatMap u.bursts, x.2.isSome) ∧
      c.unit.Partwise BodyPart.Kept d.unit ∧ d.unit.Spent ∧
      (∀ r ∈ d.reports, ∀ h ∈ r.hits, ∀ j, u.indexAt? r.location h.slot = some j →
        ∃ k, d.unit.fitted? r.location j = some k ∧ k.destroyed = true) ∧
      ∀ l p slot k blast, d.unit.part? l = some p → p.componentAt? slot = some k →
        k.destroyed = true → (d.unit.strike p blast slot).2.1 = none := by
  have hfirst := Rolls.yields_of_run hfirst
  have hlater := Rolls.yields_of_run hlater
  have hstep : ∀ e f : Course, e.Recorded u → e.Step f → f.Recorded u :=
    fun _ _ he hf => Course.recorded_of_step home apart he hf
  have hc := Course.run_induction hstep hfirst (Course.recorded_start spent)
  have hd := Course.run_induction hstep hlater hc
  have hkept := Course.run_induction (P := fun e => c.unit.Partwise BodyPart.Kept e.unit)
    (fun _ _ he hf => he.trans BodyPart.Kept.trans (Course.kept_of_step hf)) hlater
    (.refl (fun p => (BodyPart.SameEquipment.refl p).kept) _)
  refine ⟨hd.nodup, ?_, hkept, hd.spent, hd.struck, ?_⟩
  · intro x hx
    obtain ⟨r, hr, hx⟩ := List.mem_flatMap.mp hx
    obtain ⟨e, he, rfl⟩ := List.mem_map.mp hx
    obtain ⟨j, _, hj, -⟩ := hd.burst r hr e he
    exact Option.isSome_of_eq_some hj
  · intro l p slot k blast hp hk hdestroyed
    exact hd.spent.strike hp hk hdestroyed blast

/-- Two bins in one torso, the first of them struck three times. -/
theorem explosion_once_bins :
    let u := (((BattleUnit.blank 7 "Target" .mech 50).withPart (.intact .leftTorso 3 2 20)).mount
      .leftTorso (.ammoBin "Missiles" 0 3 2)).mount .leftTorso (.ammoBin "Shells" 1 2 1)
    let losses := internalByLocation [⟨.leftTorso, 0, 1, false, false⟩]
    let first : List Ordeal := [.criticals losses]
    let later : List Ordeal := [.newPhase, .criticals losses, .cookOff .leftTorso 0]
    let played := ((Course.start u).run {} first).run
      (⟨[3, 3, 0, 0, 5, 5, 0, 0, 0, 1, 0, 1], 0⟩ : Script)
    let c := played.1.getD (.start u)
    let ended := (c.run {} later).run played.2
    let d := ended.1.getD c
    played = (some c, played.2) ∧ ended = (some d, ended.2) ∧
      d.reports.flatMap u.bursts = [(.leftTorso, some 0), (.leftTorso, some 1)] ∧
      (d.reports.flatMap u.bursts).Nodup ∧ c.unit.Partwise BodyPart.Kept d.unit ∧
      d.unit.Spent := by
  intro u losses first later played c ended d
  have home : u.HomeParts := by decide
  have spent : u.Spent := by decide
  have apart : u.Apart := by decide +kernel
  have hplayed : played = (some c, played.2) := by decide +kernel
  have hended : ended = (some d, ended.2) := by decide +kernel
  obtain ⟨hnodup, -, hkept, hspent, -⟩ :=
    explosion_once {} u home apart spent first later c d _ played.2 ended.2 hplayed hended
  exact ⟨hplayed, hended, by decide +kernel, hnodup, hkept, hspent⟩

end MechBattle
