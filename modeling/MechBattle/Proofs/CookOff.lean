/-
Ammunition that heat sets off.

Heat picks a bin and names it by its location and its first slot. The explosion looks
that slot up, and so do the marks that it leaves. If no two components of a part share a
slot, all of them find the bin that was picked: it is spent, and every other component is
left as it was.

* `Component.isLive` and `liveCount`: bins that can explode, with `length_liveBins` for
  all of a unit together;
* `LiveBin.At`: where a bin is, with `exists_at_of_checkCookOff`: a check names a bin of
  the unit, and its slot leads to it;
* `LiveBin.report` and `At.cookOff_eq`: what its explosion is;
* `SpentAt` and `At.spentAt`: that bin is spent and no other component changed, and
  `At.length_liveBins`: there is one live bin less;
* `Hazard` and `Furnace`: a unit under changing heat, with the number of bins set off,
  and `bounded_of_go`: every hazard keeps that number within bounds;
* `cookOff_of_check`: what follows a check that failed, and how often one can fail.
-/
import MechBattle.Heat
import MechBattle.Proofs.Explosions
import MechBattle.Proofs.Totals

namespace MechBattle

/-! ### Live bins, counted -/

/-- Whether a component is ammunition that can explode. -/
def Component.isLive (c : Component) : Bool := c.ammo.isSome && c.pendingExplosion.isSome

lemma Component.isLive_spent (c : Component) : c.spent.isLive = false := by
  rw [isLive, pendingExplosion_spent, Option.isSome_none, Bool.and_false]

namespace BodyPart

variable {p q : BodyPart} {f : Component → Component} {slot j : Nat} {c : Component}

/-- Number of bins that can explode. -/
def liveCount (p : BodyPart) : Nat := p.components.countP Component.isLive

/-- When one component is changed, only that one is counted anew. -/
lemma liveCount_of_modify (hq : q.components = p.components.modify j f)
    (hj : p.components[j]? = some c) :
    q.liveCount + (if c.isLive then 1 else 0) =
      p.liveCount + (if (f c).isLive then 1 else 0) := by
  obtain ⟨hlt, rfl⟩ := List.getElem?_eq_some_iff.mp hj
  have hsplit := List.take_append_drop j p.components
  rw [List.drop_eq_getElem_cons hlt] at hsplit
  have hcount : p.liveCount = (p.components.take j ++ p.components[j] ::
      p.components.drop (j + 1)).countP Component.isLive := by rw [hsplit, liveCount]
  rw [hcount, liveCount, hq, List.modify_eq_take_cons_drop hlt, List.countP_append,
    List.countP_append, List.countP_cons, List.countP_cons]
  omega

/-- A change that brings nothing to life leaves no more live bins. -/
lemma liveCount_modifyAt_le (hf : ∀ c, (f c).isLive = true → c.isLive = true) (p : BodyPart)
    (slot : Nat) : (p.modifyAt slot f).liveCount ≤ p.liveCount := by
  cases h : p.componentIndexAt? slot with
  | none => rw [modifyAt, h]
  | some i =>
      obtain ⟨c, hc, -⟩ := exists_of_componentIndexAt? h
      have hcount := liveCount_of_modify (components_modifyAt (f := f) h) hc
      by_cases hlive : (f c).isLive = true
      · rw [if_pos hlive, if_pos (hf c hlive)] at hcount
        omega
      · rw [if_neg hlive] at hcount
        omega

lemma liveCount_modifyAll_le (hf : ∀ c, (f c).isLive = true → c.isLive = true) (p : BodyPart)
    (slots : List Nat) : (p.modifyAll f slots).liveCount ≤ p.liveCount := by
  induction slots generalizing p with
  | nil => exact le_rfl
  | cons slot rest ih => exact (ih _).trans (liveCount_modifyAt_le hf p slot)

/-- Critical hits bring nothing to life. -/
lemma liveCount_mark_le (p : BodyPart) (r : CriticalReport) :
    (p.mark r).liveCount ≤ p.liveCount := by
  have hwrecked : ∀ c : Component, c.wrecked.isLive = true → c.isLive = true := fun _ h => h
  have hspent : ∀ c : Component, c.spent.isLive = true → c.isLive = true := by
    intro c h
    rw [c.isLive_spent] at h
    cases h
  exact (liveCount_modifyAll_le hspent _ _).trans (liveCount_modifyAll_le hwrecked p _)

/-- A report of one hit and one explosion in the same slot changes the component there. -/
lemma components_mark {r : CriticalReport} (hits : r.hits.map (·.slot) = [slot])
    (bursts : r.explosions.map (·.slot) = [slot]) (hj : p.componentIndexAt? slot = some j) :
    (p.mark r).components = p.components.modify j fun c => c.wrecked.spent := by
  have hnext : (p.modifyAt slot .wrecked).componentIndexAt? slot = some j := by
    rw [componentIndexAt?_congr (spans_modifyAt Component.marking_wrecked slot), hj]
  have hmark : p.mark r = (p.modifyAt slot .wrecked).modifyAt slot .spent := by
    rw [mark, hits, bursts]
    rfl
  rw [hmark, components_modifyAt hnext, components_modifyAt hj, List.modify_modify_eq]
  rfl

end BodyPart

namespace BattleUnit

variable {u v : BattleUnit} {p : BodyPart} {l : Location} {j : Nat} {c : Component}

/-- Number of bins at a location that can explode. -/
def liveCount (u : BattleUnit) (l : Location) : Nat :=
  ((u.part? l).map BodyPart.liveCount).getD 0

lemma liveCount_eq (hp : u.part? l = some p) : u.liveCount l = p.liveCount := by
  rw [liveCount, hp, Option.map_some, Option.getD_some]

/-- The live bins of a unit are those of its locations. -/
lemma length_liveBins (u : BattleUnit) :
    u.liveBins.length = (Location.all.map u.liveCount).sum := by
  have hlive : ∀ x : Location × Component,
      (if x.2.ammo.isSome then x.2.pendingExplosion.map (LiveBin.mk x.1 x.2) else none).isSome =
        x.2.isLive := by
    intro x
    rw [Component.isLive]
    cases x.2.ammo.isSome with
    | true => exact Option.isSome_map
    | false => rfl
  have hparts : ∀ p : BodyPart, (p.components.map fun c => (p.location, c)).countP
      (fun x => x.2.isLive) = p.liveCount := fun p => List.countP_map
  rw [liveBins, List.length_filterMap_eq_countP, components, List.countP_flatMap]
  simp only [hlive, Function.comp_def, hparts]
  rw [Location.Map.values, List.map_filterMap, sum_filterMap]
  rfl

lemma liveCount_of_partwise {R : Nat → Nat → Prop} (hR : R 0 0)
    (h : u.Partwise (fun p q => R p.liveCount q.liveCount) v) (l : Location) :
    R (u.liveCount l) (v.liveCount l) := by
  cases hp : u.part? l with
  | none =>
      rw [liveCount, liveCount, hp, h.missing l hp]
      exact hR
  | some p =>
      obtain ⟨q, hq, hpq⟩ := h.part l p hp
      rw [liveCount_eq hp, liveCount_eq hq]
      exact hpq

lemma length_liveBins_eq (h : u.Partwise BodyPart.SameEquipment v) :
    v.liveBins.length = u.liveBins.length := by
  have hcount : u.Partwise (fun p q => p.liveCount = q.liveCount) v :=
    h.imp fun hpq => congrArg (List.countP Component.isLive) hpq.components.symm
  rw [length_liveBins, length_liveBins]
  exact congrArg List.sum (List.map_congr_left fun l _ =>
    (liveCount_of_partwise rfl hcount l).symm)

/-- Critical hits leave no more live bins than there were. -/
lemma length_liveBins_marks_le (u : BattleUnit) (reports : List CriticalReport) :
    (reports.foldl mark u).liveBins.length ≤ u.liveBins.length := by
  have hcount : u.Partwise (fun p q => q.liveCount ≤ p.liveCount) (reports.foldl mark u) := by
    refine partwise_marks (fun p => ?_) (fun hpq hqs => ?_) BodyPart.liveCount_mark_le u reports
    · exact le_rfl
    · exact hqs.trans hpq
  rw [length_liveBins, length_liveBins]
  exact List.sum_le_sum fun l _ =>
    liveCount_of_partwise (R := fun m n => n ≤ m) le_rfl hcount l

/-! ### The bin that is picked -/

namespace LiveBin

variable {bin : LiveBin}

/-- Where a bin is: the part under its location and its place there, to which its first
slot leads. -/
structure At (bin : LiveBin) (u : BattleUnit) (p : BodyPart) (j : Nat) : Prop where
  part : u.part? bin.location = some p
  home : p.location = bin.location
  component : p.components[j]? = some bin.component
  index : p.componentIndexAt? bin.component.firstSlot = some j
  ammo : bin.component.ammo.isSome = true
  pending : bin.component.pendingExplosion = some bin.damage

lemma At.isLive (h : bin.At u p j) : bin.component.isLive = true := by
  rw [Component.isLive, h.ammo, h.pending]
  rfl

/-- Every live bin is somewhere. -/
lemma exists_at (home : u.HomeParts) (apart : u.Apart) (h : bin ∈ u.liveBins) :
    ∃ p j, bin.At u p j := by
  obtain ⟨⟨l, c⟩, hmem, hbin⟩ := List.mem_filterMap.mp h
  dsimp only at hbin
  split at hbin
  · next hammo =>
      obtain ⟨damage, hdamage, rfl⟩ := Option.map_eq_some_iff.mp hbin
      obtain ⟨p, hp, hpair⟩ := List.mem_flatMap.mp hmem
      obtain ⟨k, -, hk⟩ := List.mem_filterMap.mp hp
      obtain ⟨c, hc, heq⟩ := List.mem_map.mp hpair
      obtain ⟨rfl, rfl⟩ := Prod.mk.inj heq
      obtain ⟨j, hj⟩ := List.mem_iff_getElem?.mp hc
      -- a bin is named by the location its part bears, which need not be where it is kept
      have hpart : u.part? p.location = some p := by
        rw [home k p hk]
        exact hk
      obtain ⟨slot, hslot⟩ := (apart k p hk).occupied _ hc
      exact ⟨p, j, hpart, rfl, hj, (apart k p hk).componentIndexAt?_eq hj
        (Component.occupies_firstSlot hslot), hammo, hdamage⟩
  · cases hbin

end LiveBin

/-- The bin at risk is one of the live bins. -/
lemma mem_liveBins_of_worstBin? {bin : LiveBin} (h : u.worstBin? = some bin) :
    bin ∈ u.liveBins := by
  have hworst : ∀ b, u.worstBin? = some b → b ∈ u.liveBins := by
    rw [worstBin?]
    refine List.foldlRecOn (motive := fun w => ∀ b, w = some b → b ∈ u.liveBins) _ _ ?_ ?_
    · rintro b ⟨⟩
    · intro worst hmem next hnext b hb
      cases worst with
      | none => exact Option.some.inj hb ▸ hnext
      | some w =>
          dsimp only at hb
          split at hb
          · exact Option.some.inj hb ▸ hnext
          · exact hmem b hb
  exact hworst bin h

/-- A check names the bin at risk, and its slot leads there. -/
lemma exists_at_of_checkCookOff (home : u.HomeParts) (apart : u.Apart) {rules : Rules}
    {turn : Nat} {check : CookOffCheck}
    (h : (u.checkCookOff rules turn).Yields (some check)) :
    ∃ bin p j, u.worstBin? = some bin ∧ bin.At u p j ∧ check.location = bin.location ∧
      check.slot = bin.component.firstSlot ∧ check.componentName = bin.component.name ∧
      check.damage = bin.damage := by
  rw [checkCookOff] at h
  split at h
  · next avoid bin _ hbin =>
      obtain ⟨roll, -, h⟩ := Rolls.yields_bind.mp h
      obtain rfl := Option.some.inj (Rolls.yields_pure.mp h)
      obtain ⟨p, j, hat⟩ := LiveBin.exists_at home apart (mem_liveBins_of_worstBin? hbin)
      exact ⟨bin, p, j, hbin, hat, rfl, rfl, rfl, rfl⟩
  · cases Rolls.yields_pure.mp h

/-! ### Its explosion -/

namespace LiveBin

variable {bin : LiveBin}

/-- The report of a bin that heat sets off. -/
def report (bin : LiveBin) (u : BattleUnit) : CriticalReport where
  location := bin.location
  roll := 0
  hitCount := 1
  hits := [⟨bin.component.firstSlot, some bin.component.kind, some bin.component.name⟩]
  explosions :=
    [⟨bin.component.kind, bin.component.name, bin.component.firstSlot, bin.damage,
      u.absorb bin.location bin.damage .explosion []⟩]

/-- What is set off where a bin is, is that bin. -/
lemma At.cookOff_eq (h : bin.At u p j) :
    u.cookOff bin.location bin.component.firstSlot = .ok (bin.report u) := by
  have hat : p.componentAt? bin.component.firstSlot = some bin.component :=
    BodyPart.componentAt?_eq_some.mpr ⟨j, h.index, h.component⟩
  rw [cookOff, h.part]
  simp only [hat, strike, h.pending, h.home]
  rfl

end LiveBin

/-- The component at one place can no longer explode, and every other one is as it
was. -/
structure SpentAt (u : BattleUnit) (l : Location) (j : Nat) (v : BattleUnit) : Prop where
  bin : ∃ c, v.fitted? l j = some c ∧ c.pendingExplosion = none
  others : ∀ k i, ¬ (k = l ∧ i = j) → v.fitted? k i = u.fitted? k i

lemma takeCriticals_singleton (u : BattleUnit) (r : CriticalReport) :
    u.takeCriticals [r] = (u.mark r).takeDamage r.spread := by
  rw [← mark_takeDamage, ← takeCritical_eq]
  rfl

namespace LiveBin

variable {bin : LiveBin}

lemma At.components_mark (h : bin.At u p j) :
    (p.mark (bin.report u)).components = p.components.modify j fun c => c.wrecked.spent :=
  BodyPart.components_mark rfl rfl h.index

lemma At.part?_mark (h : bin.At u p j) (l : Location) :
    (u.mark (bin.report u)).part? l =
      if l = bin.location then some (p.mark (bin.report u)) else u.part? l := by
  rw [BattleUnit.part?_mark, report]
  by_cases hl : l = bin.location
  · rw [if_pos hl, if_pos hl, hl, h.part, Option.map_some]
  · rw [if_neg hl, if_neg hl]

/-- **Only the bin is spent.** -/
lemma At.spentAt (h : bin.At u p j) :
    u.SpentAt bin.location j (u.takeCriticals [bin.report u]) := by
  -- damage does not touch equipment, so that marks alone decide
  rw [takeCriticals_singleton]
  have hsame := sameEquipment_takeDamage (u.mark (bin.report u)) (bin.report u).spread
  constructor
  · refine ⟨bin.component.wrecked.spent, ?_, Component.pendingExplosion_spent _⟩
    rw [fitted?_of_sameEquipment hsame, fitted?_eq_some]
    refine ⟨_, by rw [h.part?_mark, if_pos rfl], ?_⟩
    rw [h.components_mark, List.getElem?_modify_eq, h.component]
    rfl
  · intro k i hne
    rw [fitted?_of_sameEquipment hsame, fitted?, fitted?, h.part?_mark]
    split
    · next hk =>
        have hi : j ≠ i := fun hi => hne ⟨hk, hi.symm⟩
        rw [hk, h.part, Option.bind_some, Option.bind_some, h.components_mark,
          List.getElem?_modify_ne _ _ hi]
    · rfl

/-- **One live bin less.** -/
lemma At.length_liveBins (h : bin.At u p j) :
    (u.takeCriticals [bin.report u]).liveBins.length + 1 = u.liveBins.length := by
  have hsame := sameEquipment_takeDamage (u.mark (bin.report u)) (bin.report u).spread
  have hpart : (p.mark (bin.report u)).liveCount + 1 = p.liveCount := by
    have hcount := BodyPart.liveCount_of_modify h.components_mark h.component
    rwa [h.isLive, Component.isLive_spent, if_pos rfl, if_neg Bool.false_ne_true,
      Nat.add_zero] at hcount
  have hcounts : ∀ l, (u.mark (bin.report u)).liveCount l +
      (if l = bin.location then 1 else 0) = u.liveCount l := by
    intro l
    rw [BattleUnit.liveCount, h.part?_mark]
    by_cases hl : l = bin.location
    · rw [if_pos hl, if_pos hl, hl, liveCount_eq h.part, ← hpart]
      rfl
    · rw [if_neg hl, if_neg hl, Nat.add_zero, BattleUnit.liveCount]
  have hone : ∀ k : Location, (Location.all.map fun l => if l = k then 1 else 0).sum = 1 := by
    intro k
    cases k <;> rfl
  rw [takeCriticals_singleton, length_liveBins_eq hsame, BattleUnit.length_liveBins,
    BattleUnit.length_liveBins, ← hone bin.location, ← List.sum_map_add]
  simp only [hcounts]

end LiveBin

end BattleUnit

/-! ### Under changing heat -/

/-- What can happen to a unit that runs hot. -/
inductive Hazard where
  /-- Heat comes to a number. -/
  | heat (n : Int)
  /-- Ammunition is checked, and explodes if the check fails. -/
  | check (turn : Nat)
  /-- Anything else. -/
  | ordeal (o : Ordeal)

/-- A unit that runs hot. -/
structure Furnace where
  unit : BattleUnit
  /-- How often heat set off a bin. -/
  setOff : Nat := 0
  deriving DecidableEq

namespace Furnace

open BattleUnit Rolls

variable {rules : Rules} {f g : Furnace} {n : Nat}

/-- One hazard. A check that fails counts, whether or not its explosion is refused. -/
def go (rules : Rules) (f : Furnace) : Hazard → Rolls Furnace
  | .heat n => return { f with unit := { f.unit with heat := n } }
  | .check turn => do
    match ← f.unit.checkCookOff rules turn with
    | none => return f
    | some check =>
      if check.exploded then
        match f.unit.cookOff check.location check.slot with
        | .error _ => return { f with setOff := f.setOff + 1 }
        | .ok report => return ⟨f.unit.takeCriticals [report], f.setOff + 1⟩
      else return f
  | .ordeal o => do return { f with unit := (← (Course.start f.unit).go rules o).unit }

/-- Hazards, one after the other. -/
def run (rules : Rules) (f : Furnace) : List Hazard → Rolls Furnace
  | [] => return f
  | h :: rest => do (← f.go rules h).run rules rest

/-- The bins set off and those that still can be are no more than `n`. -/
structure Bounded (n : Nat) (f : Furnace) : Prop where
  home : f.unit.HomeParts
  apart : f.unit.Apart
  bound : f.setOff + f.unit.liveBins.length ≤ n

lemma Bounded.of_kept (h : f.Bounded n) (hkept : f.unit.Partwise BodyPart.Kept g.unit)
    (hle : g.setOff + g.unit.liveBins.length ≤ f.setOff + f.unit.liveBins.length) :
    g.Bounded n :=
  ⟨home_of_kept hkept h.home, apart_of_kept hkept h.apart, hle.trans h.bound⟩

/-- A step of a course leaves no more live bins than there were. -/
lemma Bounded.of_step (h : f.Bounded n) {c : Course} (hstep : (Course.start f.unit).Step c) :
    ({ f with unit := c.unit } : Furnace).Bounded n := by
  refine h.of_kept (Course.kept_of_step hstep) (Nat.add_le_add_left ?_ f.setOff)
  rcases Course.equipment_of_step hstep with ⟨hsame, -⟩ | ⟨rolls, v, -, hsame, hunit, -⟩
  · exact (length_liveBins_eq hsame).le
  · rw [hunit]
    exact (length_liveBins_marks_le v _).trans (length_liveBins_eq hsame).le

/-- A bin that heat sets off is one less that it can set off. -/
lemma Bounded.of_at (h : f.Bounded n) {bin : LiveBin} {p : BodyPart} {j : Nat}
    (hat : bin.At f.unit p j) :
    (Furnace.mk (f.unit.takeCriticals [bin.report f.unit]) (f.setOff + 1)).Bounded n := by
  have hlength := hat.length_liveBins
  refine h.of_kept ?_ (by dsimp only; omega)
  rw [takeCriticals_singleton]
  exact (kept_mark _ _).trans BodyPart.Kept.trans
    ((sameEquipment_takeDamage _ _).imp BodyPart.SameEquipment.kept)

/-- **Every hazard keeps the bound**, whatever the dice show. -/
lemma bounded_of_go (h : f.Bounded n) {hazard : Hazard} (hgo : (f.go rules hazard).Yields g) :
    g.Bounded n := by
  cases hazard with
  | heat m =>
      rw [yields_pure.mp hgo]
      exact ⟨h.home, h.apart, h.bound⟩
  | check turn =>
      obtain ⟨found, hfound, hgo⟩ := yields_bind.mp hgo
      cases found with
      | none =>
          rw [yields_pure.mp hgo]
          exact h
      | some check =>
          obtain ⟨bin, p, j, -, hat, hlocation, hslot, -⟩ :=
            exists_at_of_checkCookOff h.home h.apart hfound
          dsimp only at hgo
          rw [hlocation, hslot, hat.cookOff_eq] at hgo
          split at hgo
          · rw [yields_pure.mp hgo]
            exact h.of_at hat
          · rw [yields_pure.mp hgo]
            exact h
  | ordeal o =>
      obtain ⟨c, hc, hgo⟩ := yields_bind.mp hgo
      rw [yields_pure.mp hgo]
      exact h.of_step (Course.step_of_go hc)

lemma bounded_of_run (h : f.Bounded n) {hazards : List Hazard}
    (hrun : (f.run rules hazards).Yields g) : g.Bounded n := by
  induction hazards generalizing f with
  | nil =>
      rw [yields_pure.mp hrun]
      exact h
  | cons hazard rest ih =>
      obtain ⟨e, hgo, hrun⟩ := yields_bind.mp hrun
      exact ih (bounded_of_go h hgo) hrun

end Furnace

open BattleUnit

/-- **Heat sets off the bin that it picked, and only that one.** Whatever bin a failed
check names, the explosion at its slot is one hit and one explosion, of that bin and with
the damage of the check. Afterwards this bin cannot explode any more, every other
component is as it was, and there is one live bin less. So heat sets off at most as many
bins as the unit had, whatever else happens to it. -/
theorem cookOff_of_check {σ : Type} [DiceSource σ] (rules : Rules) (u : BattleUnit)
    (home : u.HomeParts) (apart : u.Apart) :
    (∀ (turn : Nat) (check : CookOffCheck) (dice rest : σ),
        (u.checkCookOff rules turn).run dice = (some (some check), rest) →
        check.exploded = true →
        ∃ report j c, u.cookOff check.location check.slot = .ok report ∧
          report.roll = 0 ∧ report.hitCount = 1 ∧
          report.hits = [⟨check.slot, some c.kind, some check.componentName⟩] ∧
          (∃ e, report.explosions = [e] ∧ e.componentName = check.componentName ∧
            e.damage = check.damage) ∧
          u.worstBin? = some ⟨check.location, c, check.damage⟩ ∧
          u.indexAt? check.location check.slot = some j ∧
          u.fitted? check.location j = some c ∧ c.pendingExplosion = some check.damage ∧
          u.SpentAt check.location j (u.takeCriticals [report]) ∧
          (u.takeCriticals [report]).liveBins.length + 1 = u.liveBins.length) ∧
      ∀ (hazards : List Hazard) (f : Furnace) (dice rest : σ),
        ((Furnace.mk u 0).run rules hazards).run dice = (some f, rest) →
        f.setOff + f.unit.liveBins.length ≤ u.liveBins.length := by
  refine ⟨fun turn check dice rest h _ => ?_, fun hazards f dice rest h => ?_⟩
  · obtain ⟨bin, p, j, hbin, hat, hlocation, hslot, hname, hdamage⟩ :=
      exists_at_of_checkCookOff home apart (Rolls.yields_of_run h)
    rw [hlocation, hslot, hname, hdamage]
    exact ⟨bin.report u, j, bin.component, hat.cookOff_eq, rfl, rfl, rfl, ⟨_, rfl, rfl, rfl⟩,
      hbin, by rw [indexAt?_eq hat.part, hat.index],
      fitted?_eq_some.mpr ⟨p, hat.part, hat.component⟩, hat.pending, hat.spentAt,
      hat.length_liveBins⟩
  · have hstart : (Furnace.mk u 0).Bounded u.liveBins.length :=
      ⟨home, apart, (Nat.zero_add _).le⟩
    exact (Furnace.bounded_of_run hstart (Rolls.yields_of_run h)).bound

/-- Three bins in two torsos, of which heat picks the last one in body order. Four checks
fail one after the other, and the fourth finds nothing left. -/
theorem cookOff_of_check_magazines :
    let u : BattleUnit := { (((BattleUnit.blank 7 "Target" .mech 50).withPart
      (.intact .leftTorso 3 2 20)).withPart (.intact .rightTorso 3 2 20)).mount
        .leftTorso (.ammoBin "Missiles" 0 3 2) |>.mount
        .leftTorso (.ammoBin "Shells" 1 2 1) |>.mount
        .rightTorso (.ammoBin "Rounds" 4 5 2) with heat := 28 }
    let check : CookOffCheck := ⟨7, 1, 28, 8, ⟨1, 2⟩, .rightTorso, 4, "Rounds", 10, true⟩
    let hazards : List Hazard := [.check 1, .ordeal .newPhase, .check 2, .check 3, .check 4]
    let ended := ((Furnace.mk u 0).run {} hazards).run
      (⟨[0, 1, 0, 1, 0, 1, 0, 1], 0⟩ : Script)
    let f := ended.1.getD ⟨u, 0⟩
    (u.checkCookOff {} 1).run (⟨[0, 1], 0⟩ : Script) = (some (some check), ⟨[], 2⟩) ∧
      (∃ report, u.cookOff .rightTorso 4 = .ok report ∧
        u.SpentAt .rightTorso 0 (u.takeCriticals [report]) ∧
        (u.takeCriticals [report]).liveBins.length + 1 = u.liveBins.length) ∧
      ended = (some f, ended.2) ∧ f.setOff = 3 ∧
      f.setOff + f.unit.liveBins.length ≤ u.liveBins.length := by
  intro u check hazards ended f
  have home : u.HomeParts := by decide
  have apart : u.Apart := by decide +kernel
  have hcheck : (u.checkCookOff {} 1).run (⟨[0, 1], 0⟩ : Script) =
      (some (some check), ⟨[], 2⟩) := by decide +kernel
  have hended : ended = (some f, ended.2) := by decide +kernel
  obtain ⟨report, j, c, hok, -, -, -, -, -, hj, -, -, hspent, hlength⟩ :=
    (cookOff_of_check {} u home apart).1 1 check _ _ hcheck rfl
  have hindex : u.indexAt? .rightTorso 4 = some 0 := by decide +kernel
  obtain rfl : j = 0 := Option.some.inj (hj.symm.trans hindex)
  exact ⟨hcheck, ⟨report, hok, hspent, hlength⟩, hended, by decide +kernel,
    (cookOff_of_check {} u home apart).2 hazards f _ ended.2 hended⟩

end MechBattle
