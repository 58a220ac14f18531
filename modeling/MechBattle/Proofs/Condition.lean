/-
The condition of a unit, through all that happens to it.

Parts stay within their bounds, and nothing is ever repaired. What counts as
damage of the phase is what the unit has lost since the phase began: each
producer of damage knows what the ones before it took, so no point of armor or
structure is counted twice, and no counter is stopped at an edge.

* `BodyPart.Wears`: the same part after some more wear;
* `BattleUnit.Balanced`: the damage of the phase and what is left make a total;
* `BattleUnit.Fares`: all three from one unit to a later one, with
  `fares_takeDamage` for what a ledger takes and `fares_of_step` for ordeals;
* `condition_of_run`: assembled units are well-formed, and well-formed units
  stay so through any course of ordeals.
-/
import MechBattle.Dice.Script
import MechBattle.Proofs.Assembly
import MechBattle.Proofs.Batch
import MechBattle.Proofs.Course

namespace MechBattle

/-! ### Bounds and wear -/

namespace BodyPart

/-- The second part is the first one after some more wear. -/
structure Wears (p q : BodyPart) : Prop where
  location : q.location = p.location
  maxArmor : q.maxArmor = p.maxArmor
  maxRearArmor : q.maxRearArmor = p.maxRearArmor
  maxInternal : q.maxInternal = p.maxInternal
  armor : q.armor ≤ p.armor
  rearArmor : q.rearArmor ≤ p.rearArmor
  internal : q.internal ≤ p.internal

/-- Armor and structure that a part has left. -/
def points (p : BodyPart) : Int := p.armor + p.rearArmor + p.internal

variable {l : Location} {p q r : BodyPart}

lemma Wears.refl (p : BodyPart) : p.Wears p := ⟨rfl, rfl, rfl, rfl, le_rfl, le_rfl, le_rfl⟩

lemma Wears.trans (h : p.Wears q) (h' : q.Wears r) : p.Wears r where
  location := h'.location.trans h.location
  maxArmor := h'.maxArmor.trans h.maxArmor
  maxRearArmor := h'.maxRearArmor.trans h.maxRearArmor
  maxInternal := h'.maxInternal.trans h.maxInternal
  armor := h'.armor.trans h.armor
  rearArmor := h'.rearArmor.trans h.rearArmor
  internal := h'.internal.trans h.internal

lemma WellFormed.points_nonneg (h : p.WellFormed l) : 0 ≤ p.points :=
  add_nonneg (add_nonneg h.armor_nonneg h.rearArmor_nonneg) h.internal_nonneg

/-- An absorption that fits asks for no more armor than there is on its side. -/
lemma armor_le_of_fits {a : Absorption} (h : p.WellFormed l) (fits : a.Fits p) :
    a.armor ≤ if a.rear then p.rearArmor else p.armor := by
  have harmor := fits.armor_le
  rw [armorFacing] at harmor
  cases hs : a.rear with
  | false =>
      rw [hs, Bool.false_and, if_neg Bool.false_ne_true, max_eq_right h.armor_nonneg] at harmor
      exact harmor
  | true =>
      rw [hs, fits.rear hs, Bool.and_self, if_pos rfl, max_eq_right h.rearArmor_nonneg] at harmor
      exact harmor

/-- An absorption that fits is taken in full. -/
lemma take_eq {a : Absorption} (h : p.WellFormed l) (fits : a.Fits p) :
    p.take a =
      { p with
        armor := p.armor - if a.rear then 0 else a.armor
        rearArmor := p.rearArmor - if a.rear then a.armor else 0
        internal := p.internal - a.internal } :=
  take_eq_of_le (armor_le_of_fits h fits)
    (fits.internal_le.trans (max_eq_right h.internal_nonneg).le)

lemma WellFormed.take {a : Absorption} (h : p.WellFormed l) (fits : a.Fits p) :
    (p.take a).WellFormed l := by
  have harmor := armor_le_of_fits h fits
  have hinternal := fits.internal_le
  have := fits.armor_nonneg
  have := fits.internal_nonneg
  have := h.armor_nonneg
  have := h.armor_le
  have := h.rearArmor_nonneg
  have := h.rearArmor_le
  have := h.internal_nonneg
  have := h.internal_le
  rw [take_eq h fits]
  cases hs : a.rear with
  | false =>
      simp only [hs, Bool.false_eq_true, if_false, sub_zero] at *
      refine ⟨h.home, ?_, ?_, h.rearArmor_nonneg, h.rearArmor_le, h.no_rear, ?_, ?_⟩ <;>
        dsimp only <;> omega
  | true =>
      have hrear := fits.rear hs
      simp only [hs, if_true, sub_zero] at *
      refine ⟨h.home, h.armor_nonneg, h.armor_le, ?_, ?_, ?_, ?_, ?_⟩
      · dsimp only
        omega
      · dsimp only
        omega
      · intro hno
        rw [← h.home, hrear] at hno
        cases hno
      · dsimp only
        omega
      · dsimp only
        omega

lemma wears_take {a : Absorption} (h : p.WellFormed l) (fits : a.Fits p) :
    p.Wears (p.take a) := by
  have ha := fits.armor_nonneg
  have hi := fits.internal_nonneg
  rw [take_eq h fits]
  constructor <;> try rfl
  · dsimp only
    split <;> omega
  · dsimp only
    split <;> omega
  · dsimp only
    omega

lemma points_take {a : Absorption} (h : p.WellFormed l) (fits : a.Fits p) :
    (p.take a).points = p.points - a.armor - a.internal := by
  rw [take_eq h fits]
  simp only [points]
  split <;> omega

end BodyPart

namespace BattleUnit

/-- Armor and structure that a location has left. -/
def pointsAt (u : BattleUnit) (l : Location) : Int := ((u.part? l).map BodyPart.points).getD 0

/-- Armor and structure that the unit has left. -/
def points (u : BattleUnit) : Int := (Location.all.map u.pointsAt).sum

/-- The damage of the phase and what is left of the unit make up a total. -/
structure Balanced (n : Int) (u : BattleUnit) : Prop where
  phaseDamage_nonneg : 0 ≤ u.phaseDamage
  total : u.phaseDamage + u.points = n

/-- The second unit is what may become of the first: it is well-formed and no
better off, and what it lost counts as damage of the phase. -/
structure Fares (u v : BattleUnit) : Prop where
  wellFormed : v.WellFormed
  wears : u.Partwise BodyPart.Wears v
  balanced : ∀ n ≤ Counter.greatest, u.Balanced n → v.Balanced n

variable {u v w : BattleUnit} {l : Location} {p : BodyPart}

lemma WellFormed.home (h : u.WellFormed) : u.HomeParts := fun l p hp => (h.parts l p hp).home

lemma Fares.refl (h : u.WellFormed) : u.Fares u :=
  ⟨h, .refl BodyPart.Wears.refl u, fun _ _ hn => hn⟩

lemma Fares.trans (h : u.Fares v) (h' : v.Fares w) : u.Fares w :=
  ⟨h'.wellFormed, h.wears.trans BodyPart.Wears.trans h'.wears,
    fun n hn hu => h'.balanced n hn (h.balanced n hn hu)⟩

/-- Wear leaves the counters in their range. -/
lemma counted_of_wears (h : u.Partwise BodyPart.Wears v) (wf : v.WellFormed)
    (counted : u.Counted) : v.Counted := by
  intro l q hq
  obtain ⟨p, hp, hw⟩ := h.of_part hq
  have hp := counted l p hp
  have hq := wf.parts l q hq
  have hleast : Counter.least ≤ 0 := by decide
  exact ⟨⟨hleast.trans hq.armor_nonneg, hw.armor.trans hp.armor.2⟩,
    ⟨hleast.trans hq.rearArmor_nonneg, hw.rearArmor.trans hp.rearArmor.2⟩,
    ⟨hleast.trans hq.internal_nonneg, hw.internal.trans hp.internal.2⟩⟩

/-! ### Changes of one part -/

lemma pointsAt_eq (h : u.part? l = some p) : u.pointsAt l = p.points := by
  rw [pointsAt, h, Option.map_some, Option.getD_some]

/-- What changes at one location changes the sum by as much. -/
lemma points_eq (h : ∀ k, k ≠ l → v.part? k = u.part? k) :
    v.points = u.points + (v.pointsAt l - u.pointsAt l) := by
  have hk : ∀ k, k ≠ l → v.pointsAt k = u.pointsAt k := by
    intro k hk
    rw [pointsAt, pointsAt, h k hk]
  simp only [points, Location.all, List.map_cons, List.map_nil, List.sum_cons, List.sum_nil]
  cases l <;> simp only [hk, ne_eq, reduceCtorEq, not_false_eq_true] <;> omega

lemma WellFormed.points_nonneg (h : u.WellFormed) : 0 ≤ u.points := by
  refine List.sum_nonneg fun x hx => ?_
  obtain ⟨l, -, rfl⟩ := List.mem_map.mp hx
  rw [pointsAt]
  cases hp : u.part? l with
  | none => exact le_rfl
  | some p => exact (h.parts l p hp).points_nonneg

lemma phaseDamage_takeOne {a : Absorption} (hp : u.part? a.location = some p) :
    (u.takeOne a).phaseDamage = Counter.add (Counter.add u.phaseDamage a.armor) a.internal := by
  rw [takeOne, if_pos (Option.isSome_of_eq_some hp)]

lemma facing_takeOne (u : BattleUnit) (a : Absorption) : (u.takeOne a).facing = u.facing := by
  rw [takeOne]
  split <;> rfl

section takeOne

variable {a : Absorption} (wf : u.WellFormed) (hp : u.part? a.location = some p)
  (fits : a.Fits p)
include wf hp fits

lemma wellFormed_takeOne : (u.takeOne a).WellFormed := by
  refine ⟨fun l q hq => ?_, ?_⟩
  · by_cases hl : l = a.location
    · subst hl
      obtain rfl := Option.some.inj ((part?_takeOne_self hp).symm.trans hq)
      exact (wf.parts _ p hp).take fits
    · rw [part?_takeOne_of_ne hl] at hq
      exact wf.parts l q hq
  · rw [facing_takeOne]
    exact wf.facing

lemma wears_takeOne : u.Partwise BodyPart.Wears (u.takeOne a) := by
  constructor
  · intro l q hq
    by_cases hl : l = a.location
    · subst hl
      obtain rfl := Option.some.inj (hp.symm.trans hq)
      exact ⟨_, part?_takeOne_self hp, BodyPart.wears_take (wf.parts _ p hp) fits⟩
    · exact ⟨q, by rw [part?_takeOne_of_ne hl, hq], .refl q⟩
  · intro l hl
    rw [part?_takeOne, hl, Option.map_none, ite_self]

/-- What is lost counts as damage of the phase, point by point. -/
lemma balanced_takeOne {n : Int} (hn : n ≤ Counter.greatest) (h : u.Balanced n) :
    (u.takeOne a).Balanced n := by
  obtain ⟨hnonneg, htotal⟩ := h
  have harmor := fits.armor_nonneg
  have hinternal := fits.internal_nonneg
  have hpoints : (u.takeOne a).points = u.points - a.armor - a.internal := by
    rw [points_eq fun k hk => part?_takeOne_of_ne hk, pointsAt_eq (part?_takeOne_self hp),
      pointsAt_eq hp, BodyPart.points_take (wf.parts _ p hp) fits]
    ring
  have hleft := (wellFormed_takeOne wf hp fits).points_nonneg
  -- what is left is not negative, so the damage stays within its total
  have hsum : Counter.add (Counter.add u.phaseDamage a.armor) a.internal =
      u.phaseDamage + a.armor + a.internal := by
    simp only [Counter.add, Counter.clamp, Counter.least, Counter.greatest] at hn ⊢
    omega
  constructor
  · rw [phaseDamage_takeOne hp, hsum]
    omega
  · rw [phaseDamage_takeOne hp, hsum, hpoints]
    omega

lemma fares_takeOne : u.Fares (u.takeOne a) :=
  ⟨wellFormed_takeOne wf hp fits, wears_takeOne wf hp fits,
    fun _ hn h => balanced_takeOne wf hp fits hn h⟩

end takeOne

/-- **What a ledger takes is lost**, and counts as damage of the phase. -/
lemma fares_takeDamage {taken : List Absorption} (ledger : Ledger u taken) (wf : u.WellFormed) :
    u.Fares (u.takeDamage taken) := by
  induction ledger with
  | nil => exact .refl wf
  | snoc _ part fits ih =>
      rw [takeDamage_append, takeDamage_singleton]
      exact ih.trans (fares_takeOne ih.wellFormed part fits)

/-! ### Ordeals -/

/-- Equipment does not count for the condition of a part. -/
lemma fares_mark (wf : u.WellFormed) (r : CriticalReport) : u.Fares (u.mark r) := by
  have hparts : u.Partwise (fun p q => ∃ components, q = { p with components }) (u.mark r) :=
    partwise_mark (fun p => ⟨p.components, rfl⟩) (fun p => p.exists_mark_eq r) u
  have hwears : u.Partwise BodyPart.Wears (u.mark r) := by
    refine hparts.imp ?_
    rintro p _ ⟨components, rfl⟩
    exact ⟨rfl, rfl, rfl, rfl, le_rfl, le_rfl, le_rfl⟩
  refine ⟨⟨fun l q hq => ?_, wf.facing⟩, hwears, ?_⟩
  · obtain ⟨p, hp, components, rfl⟩ := hparts.of_part hq
    obtain ⟨home, ha, ha', hr, hr', hno, hi, hi'⟩ := wf.parts l p hp
    exact ⟨home, ha, ha', hr, hr', hno, hi, hi'⟩
  · rintro n - ⟨hnonneg, htotal⟩
    have hat : (u.mark r).pointsAt = u.pointsAt := by
      funext l
      cases hp : u.part? l with
      | none => rw [pointsAt, pointsAt, hparts.missing l hp, hp]
      | some p =>
          obtain ⟨_, h, components, rfl⟩ := hparts.part l p hp
          rw [pointsAt_eq h, pointsAt_eq hp]
          rfl
    refine ⟨hnonneg, ?_⟩
    rw [points, hat]
    exact htotal

lemma fares_marks (wf : u.WellFormed) (reports : List CriticalReport) :
    u.Fares (reports.foldl mark u) := by
  induction reports generalizing u with
  | nil => exact .refl wf
  | cons r rest ih =>
      have hfirst := fares_mark wf r
      exact hfirst.trans (ih hfirst.wellFormed)

/-- Critical hits computed on the unit as it is, and applied at once. -/
lemma fares_takeCriticals (wf : u.WellFormed) (counted : u.Counted) (rolls : List CriticalRoll) :
    u.Fares (u.takeCriticals (u.strikeAll {} rolls)) := by
  have hnone : Ledger u ({} : Blast).spread := .nil
  have hdamage := fares_takeDamage (ledger_strikeAll hnone wf.home counted rolls) wf
  rw [takeCriticals_eq]
  exact hdamage.trans (fares_marks hdamage.wellFormed _)

/-- Hits that land together, computed on the unit as it is and applied at once. -/
lemma fares_hits (wf : u.WellFormed) (counted : u.Counted) (hits : List Hit) :
    u.Fares (u.takeDamage (u.absorbAll [] hits)) :=
  fares_takeDamage (ledger_absorbAll wf.home counted hits .nil) wf

/-- What a unit is besides its parts and the damage of the phase does not count,
as long as it faces a hexside. -/
lemma fares_of_parts_eq (wf : u.WellFormed) (hparts : v.parts = u.parts)
    (hphase : v.phaseDamage = u.phaseDamage) (hfacing : v.facing.index < 6) : u.Fares v := by
  have hpart : ∀ l, v.part? l = u.part? l := fun l => congrArg (·.get? l) hparts
  refine ⟨⟨fun l p hp => wf.parts l p (hpart l ▸ hp), hfacing⟩,
    .of_parts_eq BodyPart.Wears.refl hparts, ?_⟩
  · rintro n - ⟨hnonneg, htotal⟩
    have hat : v.pointsAt = u.pointsAt := by
      funext l
      rw [pointsAt, hpart, pointsAt]
    refine ⟨hphase.symm ▸ hnonneg, ?_⟩
    rw [hphase, points, hat]
    exact htotal

/-- A fall computed on the unit as it is, and applied at once. -/
lemma fares_takeFall (wf : u.WellFormed) (counted : u.Counted) (rules : Rules) {r : FallReport}
    (falls : u.Falls r) : u.Fares (u.takeFall rules r) := by
  rw [takeFall]
  split
  · exact .refl wf
  · next landing hlanding =>
      obtain ⟨htaken, hfacing⟩ := falls landing hlanding
      let down : BattleUnit := { u with prone := true, facing := landing.facing }
      have hdown : u.Fares down := fares_of_parts_eq wf rfl rfl hfacing
      have hsame : u.absorbLanding landing = down.absorbAll []
          (landing.clusters.map fun c => ⟨c.location, c.damage, .hit landing.side⟩) :=
        absorbAll_congr (u := u) (v := down) (fun _ => rfl) _ []
      have hfall : u.Fares (down.takeDamage r.taken) := by
        rw [htaken, hsame]
        exact hdown.trans (fares_hits hdown.wellFormed counted _)
      dsimp only
      split
      · exact hfall.trans (fares_of_parts_eq hfall.wellFormed rfl rfl hfall.wellFormed.facing)
      · exact hfall

end BattleUnit

namespace Course

variable {rules : Rules} {c d : Course}

/-- An ordeal wears the unit, and counts for the phase what it takes, or it
begins a new phase. -/
lemma fares_of_step (h : c.Step d) (wf : c.unit.WellFormed) (counted : c.unit.Counted) :
    d.opening = c.opening ∧ c.unit.Fares d.unit ∨
      d.opening = c.unit.startPhase ∧ d.unit = c.unit.startPhase := by
  cases h with
  | idle => exact .inl ⟨rfl, .refl wf⟩
  | newPhase => exact .inr ⟨rfl, rfl⟩
  | hits hits => exact .inl ⟨rfl, BattleUnit.fares_hits wf counted hits⟩
  | @strikes rolls => exact .inl ⟨rfl, BattleUnit.fares_takeCriticals wf counted rolls⟩
  | fall rules falls => exact .inl ⟨rfl, BattleUnit.fares_takeFall wf counted rules falls⟩

/-- What holds of a unit all along its course. -/
structure Sound (c : Course) : Prop where
  wellFormed : c.unit.WellFormed
  counted : c.unit.Counted

/-- The damage of the phase is what the unit lost since the opening, and no
counter will be stopped at an edge. -/
def Fair (c : Course) : Prop :=
  ∃ n ≤ Counter.greatest, c.unit.Balanced n ∧ c.opening.phaseDamage + c.opening.points = n

lemma sound_of_step (h : c.Step d) (sound : c.Sound) :
    d.Sound ∧ c.unit.Partwise BodyPart.Wears d.unit := by
  rcases fares_of_step h sound.wellFormed sound.counted with ⟨-, hfares⟩ | ⟨-, hunit⟩
  · have hcounted := BattleUnit.counted_of_wears hfares.wears hfares.wellFormed sound.counted
    exact ⟨⟨hfares.wellFormed, hcounted⟩, hfares.wears⟩
  · have hwears : c.unit.Partwise BodyPart.Wears d.unit := by
      rw [hunit]
      exact .of_parts_eq BodyPart.Wears.refl rfl
    have hwf : d.unit.WellFormed := by
      rw [hunit]
      exact ⟨sound.wellFormed.parts, sound.wellFormed.facing⟩
    exact ⟨⟨hwf, BattleUnit.counted_of_wears hwears hwf sound.counted⟩, hwears⟩

lemma fair_of_step (h : c.Step d) (sound : c.Sound) (fair : c.Fair) : d.Fair := by
  obtain ⟨n, hn, hbalanced, hopening⟩ := fair
  rcases fares_of_step h sound.wellFormed sound.counted with ⟨ho, hfares⟩ | ⟨ho, hunit⟩
  · exact ⟨n, hn, hfares.balanced n hn hbalanced, by rw [ho, hopening]⟩
  · -- the phase begins without damage, and what is left is the new total
    have hleft : c.unit.points ≤ n := by
      have := hbalanced.phaseDamage_nonneg
      have := hbalanced.total
      omega
    have hpoints : c.unit.startPhase.points = c.unit.points := rfl
    have hphase : c.unit.startPhase.phaseDamage = 0 := rfl
    refine ⟨c.unit.points, hleft.trans hn, ⟨?_, ?_⟩, ?_⟩
    · rw [hunit, hphase]
    · rw [hunit, hphase, hpoints, zero_add]
    · rw [ho, hphase, hpoints, zero_add]

lemma sound_of_run {ordeals : List Ordeal} (h : (c.run rules ordeals).Yields d)
    (sound : c.Sound) : d.Sound ∧ c.unit.Partwise BodyPart.Wears d.unit := by
  refine run_induction (P := fun d => d.Sound ∧ c.unit.Partwise BodyPart.Wears d.unit) ?_ h
    ⟨sound, .refl BodyPart.Wears.refl _⟩
  rintro e f ⟨he, hwears⟩ hstep
  obtain ⟨hf, hmore⟩ := sound_of_step hstep he
  exact ⟨hf, hwears.trans BodyPart.Wears.trans hmore⟩

lemma fair_of_run {ordeals : List Ordeal} (h : (c.run rules ordeals).Yields d)
    (sound : c.Sound) (fair : c.Fair) : d.Fair := by
  refine (run_induction (P := fun d => d.Sound ∧ d.Fair) ?_ h ⟨sound, fair⟩).2
  rintro e f ⟨he, hfair⟩ hstep
  exact ⟨(sound_of_step hstep he).1, fair_of_step hstep he hfair⟩

end Course

/-- **The condition of a unit.** Assembled units are well-formed and without
damage this phase. A well-formed unit stays so through any course of ordeals,
whatever the dice show, and nothing of it is ever repaired. As long as its points
are no more than a counter can hold, the damage of the phase grows by exactly the
armor and structure that it has lost since the phase began. -/
theorem condition_of_run {σ : Type} [DiceSource σ] (rules : Rules) (u : BattleUnit) :
    (u.Assembled rules → u.WellFormed ∧ u.Counted ∧ u.phaseDamage = 0) ∧
      (u.WellFormed → u.Counted →
        ∀ (first later : List Ordeal) (c d : Course) (dice dice' rest : σ),
          ((Course.start u).run rules first).run dice = (some c, dice') →
            (c.run rules later).run dice' = (some d, rest) →
              d.unit.WellFormed ∧ c.unit.Partwise BodyPart.Wears d.unit ∧
                (0 ≤ u.phaseDamage → u.phaseDamage + u.points ≤ Counter.greatest →
                  d.unit.phaseDamage - d.opening.phaseDamage =
                    d.opening.points - d.unit.points)) := by
  constructor
  · intro assembled
    have hnew := BattleUnit.new_of_assembled assembled
    exact ⟨hnew.wellFormed, hnew.counted, hnew.phaseDamage⟩
  · intro wf counted first later c d dice dice' rest hfirst hlater
    have hfirst := Rolls.yields_of_run hfirst
    have hlater := Rolls.yields_of_run hlater
    have hstart : (Course.start u).Sound := ⟨wf, counted⟩
    obtain ⟨hc, -⟩ := Course.sound_of_run hfirst hstart
    obtain ⟨hd, hwears⟩ := Course.sound_of_run hlater hc
    refine ⟨hd.wellFormed, hwears, fun hnonneg hsmall => ?_⟩
    have hfair : (Course.start u).Fair := ⟨_, hsmall, ⟨hnonneg, rfl⟩, rfl⟩
    obtain ⟨n, -, hbalanced, hopening⟩ :=
      Course.fair_of_run hlater hc (Course.fair_of_run hfirst hstart hfair)
    have htotal := hbalanced.total
    omega

/-- A torso is struck in front and behind, its ammunition bursts, and after the
phase has changed it is struck again. -/
theorem condition_of_run_burst :
    let u := (((BattleUnit.blank 7 "Target" .mech 50).withPart (.intact .centerTorso 6 2 8))
      |>.withPart (.intact .leftTorso 3 2 9)).mount .leftTorso (.ammoBin "Missiles" 0 3 2)
    let first : List Ordeal :=
      [.hits [⟨.leftTorso, 4, .hit .front⟩, ⟨.leftTorso, 1, .hit .rear⟩]]
    let later : List Ordeal :=
      [.criticals (internalByLocation [⟨.leftTorso, 3, 1, false, false⟩]), .newPhase,
        .hits [⟨.leftTorso, 5, .hit .front⟩]]
    let played := ((Course.start u).run {} first).run (⟨[3, 3, 0, 0], 0⟩ : Script)
    let c := played.1.getD (.start u)
    let ended := (c.run {} later).run played.2
    let d := ended.1.getD c
    played = (some c, played.2) ∧ ended = (some d, ended.2) ∧ d.unit.phaseDamage = 5 ∧
      d.unit.WellFormed ∧ c.unit.Partwise BodyPart.Wears d.unit ∧
        d.unit.phaseDamage - d.opening.phaseDamage = d.opening.points - d.unit.points := by
  intro u first later played c ended d
  have hassembled : u.Assembled {} :=
    .mount .leftTorso _ (.withPart .leftTorso (by decide) (by decide) (by decide)
      (.withPart .centerTorso (by decide) (by decide) (by decide) (.blank 7 "Target" .mech 50)))
  have hplayed : played = (some c, played.2) := by decide +kernel
  have hended : ended = (some d, ended.2) := by decide +kernel
  obtain ⟨wf, counted, -⟩ := (condition_of_run (σ := Script) {} u).1 hassembled
  obtain ⟨hwf, hwears, hfair⟩ :=
    (condition_of_run {} u).2 wf counted first later c d _ played.2 ended.2 hplayed hended
  exact ⟨hplayed, hended, by decide +kernel, hwf, hwears, hfair (by decide) (by decide)⟩

end MechBattle
