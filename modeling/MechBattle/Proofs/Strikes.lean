/-
Strikes, and the unit after them.

A call strikes slot after slot on the unit as it is. The unit is changed
afterwards: components are marked, and the damage of the explosions is taken.
Marks touch equipment only and damage touches armor and structure only, so both
may be done in either order.

* `strikeSlots_cons`, `strikeAll_cons`: strikes one by one, with `strike_cases` for all that
  one of them can do;
* `BodyPart.mark`, `BattleUnit.mark`: what a report does to equipment;
* `CriticalReport.spread`: the damage of all explosions of a report;
* `takeCriticals_eq`: critical hits are marks and damage;
* `ledger_strikeAll`: the explosions of a call never take more than there is.
-/
import Mathlib.Tactic
import MechBattle.Critical
import MechBattle.Proofs.Ledger

namespace MechBattle

/-! ### Marks -/

namespace BodyPart

variable (a : Absorption) (p : BodyPart) (f : Component → Component)

@[simp] lemma take_components : (p.take a).components = p.components := by
  rw [take]
  split <;> rfl

@[simp] lemma takeAll_components (taken : List Absorption) :
    (takeAll taken p).components = p.components := by
  induction taken generalizing p with
  | nil => rfl
  | cons a rest ih => rw [takeAll_cons, ih, take_components]

lemma componentIndexAt?_take (slot : Nat) :
    (p.take a).componentIndexAt? slot = p.componentIndexAt? slot := by
  rw [componentIndexAt?, take_components, componentIndexAt?]

/-- A change of components is seen in the components only. -/
lemma exists_modifyAt_eq (slot : Nat) :
    ∃ components, p.modifyAt slot f = { p with components } := by
  rw [modifyAt]
  split
  · exact ⟨_, rfl⟩
  · exact ⟨p.components, rfl⟩

lemma modifyAt_take (slot : Nat) : (p.take a).modifyAt slot f = (p.modifyAt slot f).take a := by
  rw [modifyAt, modifyAt, componentIndexAt?_take]
  cases p.componentIndexAt? slot with
  | none => rfl
  | some i =>
      simp only [take]
      split <;> rfl

/-- The part with the components in some slots changed. -/
def modifyAll (slots : List Nat) (p : BodyPart) : BodyPart :=
  slots.foldl (fun p slot => p.modifyAt slot f) p

lemma modifyAll_cons (slot : Nat) (slots : List Nat) :
    p.modifyAll f (slot :: slots) = (p.modifyAt slot f).modifyAll f slots := rfl

lemma modifyAll_map {α : Type} (slot : α → Nat) (xs : List α) :
    p.modifyAll f (xs.map slot) = xs.foldl (fun p x => p.modifyAt (slot x) f) p :=
  List.foldl_map

lemma modifyAll_take (slots : List Nat) :
    (p.take a).modifyAll f slots = (p.modifyAll f slots).take a := by
  induction slots generalizing p with
  | nil => rfl
  | cons slot rest ih => rw [modifyAll_cons, modifyAll_cons, modifyAt_take, ih]

lemma exists_modifyAll_eq (slots : List Nat) :
    ∃ components, p.modifyAll f slots = { p with components } := by
  induction slots generalizing p with
  | nil => exact ⟨p.components, rfl⟩
  | cons slot rest ih =>
      obtain ⟨_, h⟩ := p.exists_modifyAt_eq f slot
      rw [modifyAll_cons, h]
      exact ih _

/-- The marks that a report leaves: what was struck is wrecked, and what exploded
is spent. -/
def mark (r : CriticalReport) (p : BodyPart) : BodyPart :=
  (p.modifyAll .wrecked (r.hits.map (·.slot))).modifyAll .spent (r.explosions.map (·.slot))

lemma mark_take (r : CriticalReport) : (p.take a).mark r = (p.mark r).take a := by
  rw [mark, modifyAll_take, modifyAll_take, mark]

/-- Marks are seen on the components only. -/
lemma exists_mark_eq (r : CriticalReport) : ∃ components, p.mark r = { p with components } := by
  obtain ⟨_, h⟩ := p.exists_modifyAll_eq .wrecked (r.hits.map (·.slot))
  rw [mark, h]
  exact exists_modifyAll_eq _ _ _

/-- What a strike on a slot records. -/
def slotHit (p : BodyPart) (slot : Nat) : SlotHit :=
  ⟨slot, (p.componentAt? slot).map (·.kind), (p.componentAt? slot).map (·.name)⟩

end BodyPart

/-- The damage of all explosions of a report. -/
def CriticalReport.spread (r : CriticalReport) : List Absorption := r.explosions.flatMap (·.spread)

namespace BattleUnit

/-- The unit with the marks of a report, before the damage of its explosions. -/
def mark (u : BattleUnit) (r : CriticalReport) : BattleUnit :=
  u.modifyPart r.location (BodyPart.mark r)

lemma part?_mark (u : BattleUnit) (r : CriticalReport) (l : Location) :
    (u.mark r).part? l = if l = r.location then (u.part? l).map (BodyPart.mark r) else u.part? l :=
  u.part?_modifyPart r.location l (BodyPart.mark r)

/-- What marks do to any part, they do to the unit part by part. -/
lemma partwise_mark {R : BodyPart → BodyPart → Prop} {r : CriticalReport}
    (hself : ∀ p, R p p) (hmark : ∀ p : BodyPart, R p (p.mark r)) (u : BattleUnit) :
    u.Partwise R (u.mark r) :=
  .modifyPart hself hmark u r.location

lemma partwise_marks {R : BodyPart → BodyPart → Prop} (hself : ∀ p, R p p)
    (htrans : ∀ {p q s}, R p q → R q s → R p s)
    (hmark : ∀ (p : BodyPart) (r : CriticalReport), R p (p.mark r)) (u : BattleUnit)
    (reports : List CriticalReport) : u.Partwise R (reports.foldl mark u) := by
  induction reports generalizing u with
  | nil => exact .refl hself u
  | cons r rest ih => exact (partwise_mark hself (hmark · r) u).trans htrans (ih (u.mark r))

lemma modifyPart_comm (u : BattleUnit) (l k : Location) {f g : BodyPart → BodyPart}
    (h : ∀ p, f (g p) = g (f p)) :
    (u.modifyPart l f).modifyPart k g = (u.modifyPart k g).modifyPart l f := by
  have hparts : (u.parts.modify l f).modify k g = (u.parts.modify k g).modify l f := by
    ext1 i
    have hmap : ((u.parts.get? i).map f).map g = ((u.parts.get? i).map g).map f := by
      simp only [Option.map_map, Function.comp_def, h]
    simp only [Location.Map.get?_modify]
    split
    · split
      · exact hmap
      · rfl
    · rfl
  simp only [modifyPart, hparts]

/-- Marks and damage do not depend on their order. -/
lemma mark_takeOne (u : BattleUnit) (a : Absorption) (r : CriticalReport) :
    (u.takeOne a).mark r = (u.mark r).takeOne a := by
  have hsome : ((u.mark r).part? a.location).isSome = (u.part? a.location).isSome := by
    rw [part?_mark]
    split
    · exact Option.isSome_map
    · rfl
  rw [takeOne, takeOne, hsome]
  split
  · have hcomm := u.modifyPart_comm a.location r.location fun p => (BodyPart.mark_take a p r).symm
    exact congrArg (fun v : BattleUnit =>
      { v with phaseDamage := Counter.add (Counter.add u.phaseDamage a.armor) a.internal }) hcomm
  · rfl

lemma mark_takeDamage (u : BattleUnit) (taken : List Absorption) (r : CriticalReport) :
    (u.takeDamage taken).mark r = (u.mark r).takeDamage taken := by
  induction taken generalizing u with
  | nil => rfl
  | cons a rest ih => rw [takeDamage_cons, ih, mark_takeOne, takeDamage_cons]

lemma takeCritical_eq (u : BattleUnit) (r : CriticalReport) :
    u.takeCritical r = (u.takeDamage r.spread).mark r := by
  have hspread : ∀ (v : BattleUnit) (es : List Explosion),
      es.foldl (fun v e => v.takeDamage e.spread) v = v.takeDamage (es.flatMap (·.spread)) := by
    intro v es
    induction es generalizing v with
    | nil => rfl
    | cons e rest ih => rw [List.foldl_cons, ih, List.flatMap_cons, takeDamage_append]
  rw [mark_takeDamage, takeCritical, hspread]
  simp only [← BodyPart.modifyAll_map]
  rfl

/-- **Critical hits are damage and marks.** -/
lemma takeCriticals_eq (u : BattleUnit) (reports : List CriticalReport) :
    u.takeCriticals reports =
      reports.foldl mark (u.takeDamage (reports.flatMap (·.spread))) := by
  induction reports generalizing u with
  | nil => rfl
  | cons r rest ih =>
      have hrest : ∀ v : BattleUnit, rest.foldl takeCritical v = v.takeCriticals rest :=
        fun _ => rfl
      rw [takeCriticals, List.foldl_cons, hrest, ih, takeCritical_eq, ← mark_takeDamage,
        List.flatMap_cons, takeDamage_append, List.foldl_cons]

/-! ### Strikes -/

lemma strikeSlots_cons (u : BattleUnit) (p : BodyPart) (blast : Blast) (slot : Nat)
    (rest : List Nat) :
    u.strikeSlots p blast (slot :: rest) =
      let struck := u.strike p blast slot
      let later := u.strikeSlots p struck.2.2 rest
      (struck.1 :: later.1, struck.2.1.toList ++ later.2.1, later.2.2) := rfl

lemma strikeAll_cons (u : BattleUnit) (blast : Blast) (c : CriticalRoll)
    (rest : List CriticalRoll) :
    u.strikeAll blast (c :: rest) =
      let struck := u.strikeSlots c.part blast c.slots
      ⟨c.location, c.roll, c.hitCount, struck.1, struck.2.1⟩ ::
        u.strikeAll struck.2.2 rest := rfl

lemma locations_strikeAll (u : BattleUnit) (blast : Blast) (rolls : List CriticalRoll) :
    (u.strikeAll blast rolls).map (·.location) = rolls.map (·.location) := by
  induction rolls generalizing blast with
  | nil => rfl
  | cons c rest ih =>
      rw [strikeAll_cons]
      dsimp only
      rw [List.map_cons, List.map_cons, ih]

/-- A strike records what is in its slot. -/
lemma hit_strike (u : BattleUnit) (p : BodyPart) (blast : Blast) (slot : Nat) :
    (u.strike p blast slot).1 = p.slotHit slot := by
  rw [strike, BodyPart.slotHit]
  cases p.componentAt? slot with
  | none => rfl
  | some c =>
      dsimp only
      split
      · rfl
      · split <;> rfl

lemma hits_strikeSlots (u : BattleUnit) (p : BodyPart) (blast : Blast) (slots : List Nat) :
    (u.strikeSlots p blast slots).1 = slots.map p.slotHit := by
  induction slots generalizing blast with
  | nil => rfl
  | cons slot rest ih =>
      rw [strikeSlots_cons]
      dsimp only
      rw [List.map_cons, hit_strike, ih]

lemma slots_strikeSlots (u : BattleUnit) (p : BodyPart) (blast : Blast) (slots : List Nat) :
    (u.strikeSlots p blast slots).1.map (·.slot) = slots := by
  rw [hits_strikeSlots, List.map_map]
  exact List.map_id' slots

/-- A strike sets off the component in its slot and remembers it, or it sets off nothing,
because there is nothing there that could still explode. -/
lemma strike_cases (u : BattleUnit) (p : BodyPart) (blast : Blast) (slot : Nat) :
    (∃ c damage, p.componentAt? slot = some c ∧ c.pendingExplosion = some damage ∧
        (p.location, c.firstSlot) ∉ blast.gone ∧
        (u.strike p blast slot).2 =
          (some ⟨c.kind, c.name, slot, damage, u.absorb p.location damage .explosion blast.spread⟩,
            ⟨blast.spread ++ u.absorb p.location damage .explosion blast.spread,
              (p.location, c.firstSlot) :: blast.gone⟩)) ∨
      ((u.strike p blast slot).2 = (none, blast) ∧
        ∀ c, p.componentAt? slot = some c → c.pendingExplosion ≠ none →
          (p.location, c.firstSlot) ∈ blast.gone) := by
  rw [strike]
  cases p.componentAt? slot with
  | none => exact .inr ⟨rfl, fun _ hc => by cases hc⟩
  | some c =>
      dsimp only
      split
      · next hgone =>
          refine .inr ⟨rfl, fun c' hc' _ => ?_⟩
          rw [← Option.some.inj hc']
          exact List.contains_iff_mem.mp hgone
      · next hgone =>
          cases hpending : c.pendingExplosion with
          | none =>
              refine .inr ⟨rfl, fun c' hc' hne => ?_⟩
              rw [← Option.some.inj hc'] at hne
              exact absurd hpending hne
          | some damage =>
              exact .inl ⟨c, damage, rfl, hpending,
                fun h => hgone (List.contains_iff_mem.mpr h), rfl⟩

lemma spread_strike (u : BattleUnit) (p : BodyPart) (blast : Blast) (slot : Nat) :
    (u.strike p blast slot).2.2.spread =
      blast.spread ++ (u.strike p blast slot).2.1.toList.flatMap (·.spread) := by
  rcases u.strike_cases p blast slot with ⟨c, damage, -, -, -, hburst⟩ | ⟨hquiet, -⟩
  · rw [hburst, Option.toList_some, List.flatMap_singleton]
  · rw [hquiet]
    exact (List.append_nil _).symm

/-- A blast keeps the damage of all its explosions. -/
lemma spread_strikeSlots (u : BattleUnit) (p : BodyPart) (blast : Blast) (slots : List Nat) :
    (u.strikeSlots p blast slots).2.2.spread =
      blast.spread ++ (u.strikeSlots p blast slots).2.1.flatMap (·.spread) := by
  induction slots generalizing blast with
  | nil => exact (List.append_nil _).symm
  | cons slot rest ih =>
      rw [strikeSlots_cons]
      dsimp only
      rw [ih, spread_strike, List.append_assoc, List.flatMap_append]

variable {u : BattleUnit} {blast : Blast}

lemma ledger_strike (ledger : Ledger u blast.spread) (home : u.HomeParts) (counted : u.Counted)
    (p : BodyPart) (slot : Nat) : Ledger u (u.strike p blast slot).2.2.spread := by
  rcases u.strike_cases p blast slot with ⟨c, damage, -, -, -, hburst⟩ | ⟨hquiet, -⟩
  · rw [hburst]
    exact ledger_absorb ledger home counted p.location damage .explosion
  · rw [hquiet]
    exact ledger

lemma ledger_strikeSlots (ledger : Ledger u blast.spread) (home : u.HomeParts)
    (counted : u.Counted) (p : BodyPart) (slots : List Nat) :
    Ledger u (u.strikeSlots p blast slots).2.2.spread := by
  induction slots generalizing blast with
  | nil => exact ledger
  | cons slot rest ih => exact ih (ledger_strike ledger home counted p slot)

/-- **The explosions of a call never take more than there is.** -/
lemma ledger_strikeAll (ledger : Ledger u blast.spread) (home : u.HomeParts)
    (counted : u.Counted) (rolls : List CriticalRoll) :
    Ledger u (blast.spread ++ (u.strikeAll blast rolls).flatMap (·.spread)) := by
  induction rolls generalizing blast with
  | nil => exact (List.append_nil blast.spread).symm ▸ ledger
  | cons c rest ih =>
      have later := ih (ledger_strikeSlots ledger home counted c.part c.slots)
      rw [spread_strikeSlots, List.append_assoc] at later
      rw [strikeAll_cons]
      exact later

end BattleUnit

end MechBattle
