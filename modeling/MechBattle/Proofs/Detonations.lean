/-
What the strikes of one call set off.

A call strikes slot after slot and location after location on the unit as it is, and carries
along what has gone off and where its damage went. What comes of it can be told without the
dice and without what is carried: the components that go off are those struck that can, each
at its first strike, and each of them bursts in the unit that has borne all bursts before.

* `BattleUnit.componentAt?`, `BattleUnit.pendingAt?`: what a slot of the unit holds, and the
  explosion that waits there;
* `BattleUnit.detonators`: the first strike on each component that can explode;
* `BattleUnit.Detonates`: strikes one by one, with what they set off, of which
  `Detonates.slots_eq` and `Detonates.burst_of_mem` say what that is;
* `detonates_strikeAll`: the strikes of a call, across slots and locations;
* `detonations_of_criticals`: what a call reports.
-/
import MechBattle.Proofs.Explosions

namespace MechBattle

namespace CriticalReport

/-- The slots struck, one after the other, with their location. -/
def slotsStruck (r : CriticalReport) : List (Location × Nat) :=
  r.hits.map fun h => (r.location, h.slot)

/-- The explosions, one after the other, with their location. -/
def detonations (r : CriticalReport) : List (Location × Explosion) :=
  r.explosions.map fun e => (r.location, e)

end CriticalReport

namespace BattleUnit

/-- The component in a slot of the unit. -/
def componentAt? (u : BattleUnit) (s : Location × Nat) : Option Component :=
  (u.part? s.1).bind (·.componentAt? s.2)

/-- The damage that the component in a slot would do if it exploded. -/
def pendingAt? (u : BattleUnit) (s : Location × Nat) : Option Int :=
  (u.componentAt? s).bind (·.pendingExplosion)

/-- Which component a slot leads to, by location and place in the mounting order. -/
def placeAt (u : BattleUnit) (s : Location × Nat) : Location × Option Nat :=
  (s.1, u.indexAt? s.1 s.2)

/-- Among strikes, the first one on each component that can explode. -/
def detonators (u : BattleUnit) (struck : List (Location × Nat)) : List (Location × Nat) :=
  (struck.filter fun s => (u.pendingAt? s).isSome).eraseDupsBy fun s t =>
    u.placeAt s == u.placeAt t

variable {u : BattleUnit} {blast blast' blast'' : Blast} {l : Location} {slot : Nat}
  {p : BodyPart} {s t : Location × Nat} {struck struck' : List (Location × Nat)}
  {blown blown' : List (Location × Explosion)}

lemma componentAt?_eq (hp : u.part? l = some p) (slot : Nat) :
    u.componentAt? (l, slot) = p.componentAt? slot := by
  rw [componentAt?, hp, Option.bind_some]

/-- Whether the component in a slot has gone off in a blast. -/
def goneAt (u : BattleUnit) (blast : Blast) (s : Location × Nat) : Bool :=
  (u.componentAt? s).any fun c => blast.gone.contains (s.1, c.firstSlot)

lemma goneAt_eq {c : Component} (hc : u.componentAt? s = some c) (blast : Blast) :
    u.goneAt blast s = blast.gone.contains (s.1, c.firstSlot) := by
  rw [goneAt, hc, Option.any_some]

/-- Slots lead to the same component iff it has the same first slot. -/
lemma placeAt_eq_iff (apart : u.Apart) {c d : Component} (hc : u.componentAt? s = some c)
    (hd : u.componentAt? t = some d) :
    u.placeAt s = u.placeAt t ↔ (s.1, c.firstSlot) = (t.1, d.firstSlot) := by
  obtain ⟨l, slot⟩ := s
  obtain ⟨k, slot'⟩ := t
  obtain ⟨p, hp, hc⟩ := Option.bind_eq_some_iff.mp hc
  obtain ⟨q, hq, hd⟩ := Option.bind_eq_some_iff.mp hd
  obtain ⟨i, hi, hci⟩ := BodyPart.componentAt?_eq_some.mp hc
  obtain ⟨j, hj, hdj⟩ := BodyPart.componentAt?_eq_some.mp hd
  rw [placeAt, placeAt, indexAt?_eq hp, indexAt?_eq hq, Prod.mk.injEq, Prod.mk.injEq]
  refine and_congr_right fun hl => ?_
  dsimp only at hl hp hq hi hj
  subst hl
  obtain rfl := Option.some.inj (hp.symm.trans hq)
  rw [hi, hj, Option.some.injEq]
  constructor
  · rintro rfl
    rw [Option.some.inj (hci.symm.trans hdj)]
  · intro hfirst
    exact (apart l p hp).index_eq hci hdj hfirst

/-! ### Strikes one by one -/

/-- Strikes on slots of the unit, one after the other, with the explosions they set off and
what is known of the call before and after. -/
inductive Detonates (u : BattleUnit) :
    Blast → List (Location × Nat) → List (Location × Explosion) → Blast → Prop
  | nil (blast : Blast) : Detonates u blast [] [] blast
  | burst {blast blast' : Blast} {l : Location} {slot : Nat} {c : Component} {damage : Int}
      {struck : List (Location × Nat)} {blown : List (Location × Explosion)}
      (component : u.componentAt? (l, slot) = some c)
      (pending : c.pendingExplosion = some damage) (fresh : (l, c.firstSlot) ∉ blast.gone)
      (later : Detonates u
        ⟨blast.spread ++ u.absorb l damage .explosion blast.spread,
          (l, c.firstSlot) :: blast.gone⟩ struck blown blast') :
      Detonates u blast ((l, slot) :: struck)
        ((l, ⟨c.kind, c.name, slot, damage, u.absorb l damage .explosion blast.spread⟩) :: blown)
        blast'
  | quiet {blast blast' : Blast} {s : Location × Nat} {struck : List (Location × Nat)}
      {blown : List (Location × Explosion)}
      (nothing : ∀ c, u.componentAt? s = some c → c.pendingExplosion ≠ none →
        (s.1, c.firstSlot) ∈ blast.gone)
      (later : Detonates u blast struck blown blast') : Detonates u blast (s :: struck) blown blast'

namespace Detonates

lemma append (h : u.Detonates blast struck blown blast')
    (h' : u.Detonates blast' struck' blown' blast'') :
    u.Detonates blast (struck ++ struck') (blown ++ blown') blast'' := by
  induction h with
  | nil => exact h'
  | burst component pending fresh _ ih => exact .burst component pending fresh (ih h')
  | quiet nothing _ ih => exact .quiet nothing (ih h')

/-- **What goes off** is, strike by strike, what can and has not gone off before, at its first
strike. -/
lemma slots_eq (h : u.Detonates blast struck blown blast') (apart : u.Apart) :
    blown.map (fun b => (b.1, b.2.slot)) =
      u.detonators (struck.filter fun s => !u.goneAt blast s) := by
  -- With each burst one more component has gone off, and its later strikes are passed over.
  induction h with
  | nil => rfl
  | @burst blast _ l slot c damage struck _ component pending fresh _ ih =>
      have hfresh : u.goneAt blast (l, slot) = false := by
        rw [goneAt_eq component, Bool.eq_false_iff, ne_eq, List.contains_iff_mem]
        exact fresh
      have hpending : (u.pendingAt? (l, slot)).isSome := by
        rw [pendingAt?, component, Option.bind_some, pending, Option.isSome_some]
      rw [List.map_cons, ih, detonators, detonators, List.filter_cons_of_pos (by rw [hfresh]; rfl),
        List.filter_cons_of_pos (p := fun s => (u.pendingAt? s).isSome) hpending,
        List.eraseDupsBy_cons]
      congr 2
      rw [List.filter_filter, List.filter_filter, List.filter_filter]
      refine List.filter_congr fun t _ => ?_
      cases hd : u.componentAt? t with
      | none => simp [pendingAt?, hd]
      | some d =>
          have hplace := placeAt_eq_iff apart hd component
          rw [goneAt_eq hd, goneAt_eq hd, List.contains_cons, Bool.not_or, Bool.eq_iff_iff]
          simp only [Bool.and_eq_true, decide_eq_true_eq, beq_eq_false_iff_ne, ne_eq,
            Bool.not_eq_true', hplace]
          tauto
  | @quiet blast _ s struck _ nothing _ ih =>
      rw [ih, detonators, detonators, List.filter_filter, List.filter_filter,
        List.filter_cons_of_neg]
      rw [Bool.and_eq_true, not_and, Bool.not_eq_true', Bool.not_eq_false]
      intro hpending
      obtain ⟨damage, hdamage⟩ := Option.isSome_iff_exists.mp hpending
      obtain ⟨c, hc, hdamage⟩ := Option.bind_eq_some_iff.mp hdamage
      rw [goneAt_eq hc, List.contains_iff_mem]
      exact nothing c hc (hdamage ▸ Option.some_ne_none damage)

/-- **How it goes off**: with what waited in its slot, on the unit that has borne all that went
off before. -/
lemma burst_of_mem (h : u.Detonates blast struck blown blast') (home : u.HomeParts)
    (counted : u.Counted) (ledger : Ledger u blast.spread) {e : Explosion}
    {before later : List (Location × Explosion)} (hblown : blown = before ++ (l, e) :: later) :
    (∃ c, u.componentAt? (l, e.slot) = some c ∧ e.component = c.kind ∧
        e.componentName = c.name ∧ c.pendingExplosion = some e.damage) ∧
      e.spread = (u.takeDamage (blast.spread ++ before.flatMap (·.2.spread))).absorb l e.damage
        .explosion [] := by
  induction h generalizing before with
  | nil => cases List.append_ne_nil_of_right_ne_nil before (List.cons_ne_nil _ _) hblown.symm
  | @burst blast _ k slot c damage _ _ component pending _ _ ih =>
      have hnext := ledger_absorb ledger home counted k damage .explosion
      cases before with
      | nil =>
          obtain ⟨rfl, rfl⟩ := Prod.mk.inj (List.cons.inj hblown).1
          rw [List.flatMap_nil, List.append_nil]
          exact ⟨⟨c, component, rfl, rfl, pending⟩,
            absorb_eq_live ledger home counted k damage .explosion⟩
      | cons b before =>
          obtain ⟨rfl, htail⟩ := List.cons.inj hblown
          rw [List.flatMap_cons, ← List.append_assoc]
          exact ih hnext htail
  | quiet _ _ ih => exact ih ledger hblown

end Detonates

/-! ### The strikes of a call -/

lemma detonates_strikeSlots (home : u.HomeParts) (hp : u.part? l = some p) (blast : Blast)
    (slots : List Nat) :
    u.Detonates blast (slots.map fun slot => (l, slot))
      ((u.strikeSlots p blast slots).2.1.map fun e => (l, e))
      (u.strikeSlots p blast slots).2.2 := by
  induction slots generalizing blast with
  | nil => exact .nil blast
  | cons slot rest ih =>
      have later := ih (u.strike p blast slot).2.2
      obtain rfl := home l p hp
      rw [strikeSlots_cons]
      dsimp only
      rcases u.strike_cases p blast slot with
        ⟨c, damage, hc, hpending, hgone, hburst⟩ | ⟨hquiet, hnothing⟩
      · rw [hburst] at later ⊢
        exact .burst ((componentAt?_eq hp slot).trans hc) hpending hgone later
      · rw [hquiet] at later ⊢
        refine .quiet (fun c hc => ?_) later
        rw [componentAt?_eq hp] at hc
        exact hnothing c hc

/-- **The strikes of a call**, across slots and locations. -/
lemma detonates_strikeAll (home : u.HomeParts) {rolls : List CriticalRoll}
    (part : ∀ c ∈ rolls, u.part? c.location = some c.part) (blast : Blast) :
    ∃ blast', u.Detonates blast ((u.strikeAll blast rolls).flatMap CriticalReport.slotsStruck)
      ((u.strikeAll blast rolls).flatMap CriticalReport.detonations) blast' := by
  induction rolls generalizing blast with
  | nil => exact ⟨blast, .nil blast⟩
  | cons c rest ih =>
      obtain ⟨hp, part⟩ := List.forall_mem_cons.mp part
      have first := detonates_strikeSlots home hp blast c.slots
      obtain ⟨blast', later⟩ := ih part (u.strikeSlots c.part blast c.slots).2.2
      refine ⟨blast', ?_⟩
      have hslots : (u.strikeSlots c.part blast c.slots).1.map (fun h => (c.location, h.slot)) =
          c.slots.map fun slot => (c.location, slot) := by
        conv_rhs => rw [← slots_strikeSlots u c.part blast c.slots, List.map_map]
        rfl
      rw [← hslots] at first
      rw [strikeAll_cons]
      exact first.append later

/-- **What a call sets off.** In the order of its strikes, the explosions that a call reports
are those of the components that were struck and could explode on the unit as it was, each of
them once, at its first strike. Each is reported with its component and with the damage that
waited there, and it spreads as it would, with nothing taken before, on the unit that has taken
the damage of all earlier ones, of whatever slots and locations. -/
theorem detonations_of_criticals {σ : Type} [DiceSource σ] (rules : Rules) (u : BattleUnit)
    (home : u.HomeParts) (apart : u.Apart) (counted : u.Counted) (losses : Location.Map Int)
    (dice rest : σ) (reports : List CriticalReport)
    (run : (u.criticals rules losses).run dice = (some reports, rest)) :
    let struck := reports.flatMap CriticalReport.slotsStruck
    let blown := reports.flatMap CriticalReport.detonations
    blown.map (fun b => (b.1, b.2.slot)) = u.detonators struck ∧
      ∀ before l e later, blown = before ++ (l, e) :: later →
        (∃ c, u.componentAt? (l, e.slot) = some c ∧ e.component = c.kind ∧
          e.componentName = c.name ∧ c.pendingExplosion = some e.damage) ∧
        e.spread =
          (u.takeDamage (before.flatMap (·.2.spread))).absorb l e.damage .explosion [] := by
  intro struck blown
  obtain ⟨rolls, hrolls, hreports⟩ := Rolls.yields_bind.mp (Rolls.yields_of_run run)
  obtain rfl := Rolls.yields_pure.mp hreports
  obtain ⟨blast, hcall⟩ := detonates_strikeAll home (drawn_of_rollCriticals hrolls).part {}
  have hstruck : struck.filter (fun s => !u.goneAt {} s) = struck := by
    refine List.filter_eq_self.mpr fun s _ => ?_
    rw [goneAt]
    cases u.componentAt? s <;> rfl
  constructor
  · rw [hcall.slots_eq apart, hstruck]
  · intro before l e later hblown
    exact hcall.burst_of_mem home counted .nil hblown

/-- A mech with ammunition in both side torsos: a bin of two slots in the left one, and one of
a single slot in the right one. -/
def armedTorsos : BattleUnit :=
  ((((BattleUnit.blank 8 "Target" .mech 50).withPart (.intact .centerTorso 3 2 5)).withPart
    (.intact .leftTorso 3 2 2)).withPart (.intact .rightTorso 3 2 3)).mount .leftTorso
      { Component.intact "Missiles" .ammo 0 2 with ammo := some ⟨3, 2⟩ } |>.mount
      .rightTorso (.ammoBin "Rounds" 4 5 1)

/-- Both bins burst, the left one at the first of two strikes, and the second of them finds less
of the center torso than the first. -/
theorem detonations_of_criticals_armedTorsos :
    let losses := internalByLocation
      [⟨.rightTorso, 0, 1, false, false⟩, ⟨.leftTorso, 0, 1, false, false⟩]
    let called := (armedTorsos.criticals {} losses).run
      (⟨[5, 5, 0, 1, 0, 0, 1, 2, 3, 3, 2, 4], 0⟩ : Script)
    let reports := called.1.getD []
    let blown := reports.flatMap CriticalReport.detonations
    armedTorsos.HomeParts ∧ armedTorsos.Apart ∧ armedTorsos.Counted ∧
      called = (some reports, called.2) ∧
      blown.map (fun b => (b.1, b.2.slot)) = [(.leftTorso, 1), (.rightTorso, 4)] ∧
      ∃ e e', blown = [(.leftTorso, e), (.rightTorso, e')] ∧
        e'.spread = (armedTorsos.takeDamage e.spread).absorb .rightTorso e'.damage .explosion [] ∧
        e'.spread.map (·.internal) = [3, 1] := by
  intro losses called reports blown
  have home : armedTorsos.HomeParts := by decide
  have apart : armedTorsos.Apart := by decide +kernel
  have counted : armedTorsos.Counted := by decide
  have hcalled : called = (some reports, called.2) := by decide +kernel
  obtain ⟨hslots, hbursts⟩ :=
    detonations_of_criticals {} armedTorsos home apart counted losses _ called.2 reports hcalled
  have hfirst : armedTorsos.detonators (reports.flatMap CriticalReport.slotsStruck) =
      [(.leftTorso, 1), (.rightTorso, 4)] := by decide +kernel
  have hblown : blown = [(.leftTorso, ⟨.ammo, "Missiles", 1, 6,
      [⟨.leftTorso, 0, 2, false, true⟩, ⟨.centerTorso, 0, 4, false, false⟩]⟩),
      (.rightTorso, ⟨.ammo, "Rounds", 4, 5,
        [⟨.rightTorso, 0, 3, false, true⟩, ⟨.centerTorso, 0, 1, false, true⟩]⟩)] := by
    decide +kernel
  exact ⟨home, apart, counted, hcalled, hslots.trans hfirst, _, _, hblown,
    (hbursts [_] .rightTorso _ [] hblown).2, rfl⟩

end BattleUnit

end MechBattle
