/-
The ammunition at risk.

Heat looks through all bins that can explode, location by location and in the order in
which they were mounted, and keeps the one that would do most damage. A later bin takes
its place only if it would do more, so of equal bins the first one is at risk. Which one
that is depends on where the bins are mounted and on nothing else.

* `BattleUnit.LiveAt`: a bin that can explode, by its place and damage;
* `Mounting` and `BattleUnit.mountings`: all components in order, with `mem_mountings`
  and `pairwise_mountings`;
* `LiveBin.exists_split_of_foldl`: what is before and after the bin that is kept;
* `BattleUnit.FirstWorst`: the bin at risk, told by its place among all others, with
  `exists_firstWorst` and `worstBin?_eq_none_iff`;
* `BattleUnit.checkCookOff_eq_firstWorst`: what a check comes to on any dice.
-/
import MechBattle.Proofs.CookOff
import MechBattle.Proofs.Faces
import MechBattle.Proofs.Tables

namespace MechBattle

/-! ### Live bins by place -/

namespace Component

variable {c : Component} {d e : Int}

/-- Whether a component is ammunition that would explode with so much damage. -/
def LiveWith (c : Component) (d : Int) : Prop :=
  ∃ bin, c.ammo = some bin ∧ c.exploded = false ∧ bin.damage = d ∧ 0 < d

lemma LiveWith.unique (h : c.LiveWith d) (h' : c.LiveWith e) : d = e := by
  obtain ⟨bin, hbin, -, rfl, -⟩ := h
  obtain ⟨bin', hbin', -, rfl, -⟩ := h'
  rw [Option.some.inj (hbin.symm.trans hbin')]

lemma liveWith_iff : c.LiveWith d ↔ c.ammo.isSome = true ∧ c.pendingExplosion = some d := by
  cases hammo : c.ammo with
  | none => simp [LiveWith, hammo]
  | some bin =>
      cases hexploded : c.exploded with
      | true => simp [LiveWith, pendingExplosion, hexploded]
      | false =>
          simp only [LiveWith, pendingExplosion, positive?, hammo, hexploded, Option.some.injEq,
            exists_eq_left', true_and, Option.isSome_some, Bool.false_eq_true, if_false,
            Option.ite_none_right_eq_some]
          constructor
          · rintro ⟨hd, hpos⟩
            exact ⟨hd ▸ hpos, hd⟩
          · rintro ⟨hpos, hd⟩
            exact ⟨hd, hd ▸ hpos⟩

end Component

/-- Whether the component at a place is ammunition that would explode with so much
damage. -/
def BattleUnit.LiveAt (u : BattleUnit) (l : Location) (j : Nat) (d : Int) : Prop :=
  ∃ c, u.fitted? l j = some c ∧ c.LiveWith d

namespace BattleUnit

variable {u : BattleUnit} {l : Location} {j : Nat} {c : Component} {d : Int}

/-! ### Components in order -/

/-- Whether one place is before another, in body order and then in mounting order. -/
def Earlier (x y : Location × Nat) : Prop :=
  Location.all.idxOf x.1 < Location.all.idxOf y.1 ∨ x.1 = y.1 ∧ x.2 < y.2

lemma Earlier.asymm {x y : Location × Nat} (h : Earlier x y) : ¬ Earlier y x := by
  rintro (hbody | ⟨hsame, hmount⟩)
  · rcases h with h | ⟨h, -⟩
    · omega
    · rw [h] at hbody
      omega
  · rcases h with h | ⟨-, h⟩
    · rw [hsame] at h
      omega
    · omega

/-- A component with its place: a location, and its number in the mounting order there. -/
structure Mounting where
  place : Location × Nat
  component : Component

/-- The components at a location. -/
def mountingsAt (u : BattleUnit) (l : Location) : List Mounting :=
  (u.part? l).elim [] fun p => p.components.mapIdx fun j c => ⟨(l, j), c⟩

/-- All components, in body order and then in mounting order. -/
def mountings (u : BattleUnit) : List Mounting := Location.all.flatMap u.mountingsAt

lemma mem_mountingsAt {m : Mounting} :
    m ∈ u.mountingsAt l ↔ m.place.1 = l ∧ u.fitted? l m.place.2 = some m.component := by
  obtain ⟨⟨k, j⟩, c⟩ := m
  cases hp : u.part? l with
  | none => simp [mountingsAt, fitted?, hp]
  | some p =>
      simp only [mountingsAt, fitted?, hp, Option.elim_some, Option.bind_some, List.mem_mapIdx,
        List.getElem?_eq_some_iff, Mounting.mk.injEq, Prod.mk.injEq]
      constructor
      · rintro ⟨i, hi, ⟨rfl, rfl⟩, hc⟩
        exact ⟨rfl, hi, hc⟩
      · rintro ⟨rfl, hj, hc⟩
        exact ⟨j, hj, ⟨rfl, rfl⟩, hc⟩

lemma mem_mountings {m : Mounting} :
    m ∈ u.mountings ↔ u.fitted? m.place.1 m.place.2 = some m.component := by
  rw [mountings, List.mem_flatMap]
  simp only [mem_mountingsAt]
  constructor
  · rintro ⟨l, -, rfl, h⟩
    exact h
  · intro h
    exact ⟨_, Location.mem_all _, rfl, h⟩

lemma pairwise_mountings (u : BattleUnit) :
    u.mountings.Pairwise fun m n => Earlier m.place n.place := by
  rw [mountings, List.pairwise_flatMap]
  constructor
  · intro l _
    rw [mountingsAt]
    cases u.part? l with
    | none => exact .nil
    | some p =>
        rw [Option.elim_some, List.pairwise_iff_getElem]
        intro i j hi hj hlt
        simp only [List.getElem_mapIdx]
        exact .inr ⟨rfl, hlt⟩
  · have hbody : Location.all.Pairwise fun l k => Location.all.idxOf l < Location.all.idxOf k := by
      decide
    refine hbody.imp fun h m hm n hn => .inl ?_
    rwa [(mem_mountingsAt.mp hm).1, (mem_mountingsAt.mp hn).1]

/-- Where every part sits under its own location, these are the components of the unit. -/
lemma components_eq_map_mountings (home : u.HomeParts) :
    u.components = u.mountings.map fun m => (m.place.1, m.component) := by
  have hpart : ∀ l, (u.mountingsAt l).map (fun m => (m.place.1, m.component)) =
      (u.part? l).toList.flatMap fun p => p.components.map fun c => (p.location, c) := by
    intro l
    cases hp : u.part? l with
    | none => simp [mountingsAt, hp]
    | some p =>
        simp only [mountingsAt, hp, home l p hp, Option.elim_some, Option.toList_some,
          List.flatMap_singleton]
        exact List.ext_getElem (by simp) fun i hi hi' => by simp
  have hvalues : u.parts.values = Location.all.flatMap fun l => (u.part? l).toList :=
    List.filterMap_eq_flatMap_toList _ _
  rw [mountings, List.map_flatMap, components, hvalues, List.flatMap_assoc]
  exact congrArg (List.flatMap · Location.all) (funext fun l => (hpart l).symm)

/-! ### The bin that is kept -/

/-- The bin at a place, if it can explode. -/
def Mounting.liveBin? (m : Mounting) : Option LiveBin :=
  if m.component.ammo.isSome then
    m.component.pendingExplosion.map fun damage => ⟨m.place.1, m.component, damage⟩
  else none

lemma Mounting.liveBin?_eq_some {m : Mounting} {bin : LiveBin} :
    m.liveBin? = some bin ↔
      bin.location = m.place.1 ∧ bin.component = m.component ∧
        m.component.LiveWith bin.damage := by
  obtain ⟨l, c, d⟩ := bin
  rw [liveBin?, Component.liveWith_iff]
  split
  · next hammo =>
      simp only [Option.map_eq_some_iff, LiveBin.mk.injEq, hammo, true_and]
      constructor
      · rintro ⟨d, hd, rfl, rfl, rfl⟩
        exact ⟨rfl, rfl, hd⟩
      · rintro ⟨rfl, rfl, hd⟩
        exact ⟨d, hd, rfl, rfl, rfl⟩
  · next hammo => simp [hammo]

lemma Mounting.liveBin?_eq_none {m : Mounting} :
    m.liveBin? = none ↔ ∀ d, ¬ m.component.LiveWith d := by
  constructor
  · intro h d hd
    have hsome : m.liveBin? = some ⟨m.place.1, m.component, d⟩ :=
      liveBin?_eq_some.mpr ⟨rfl, rfl, hd⟩
    rw [h] at hsome
    cases hsome
  · intro h
    by_contra hsome
    obtain ⟨bin, hbin⟩ := Option.ne_none_iff_exists'.mp hsome
    exact h _ (liveBin?_eq_some.mp hbin).2.2

lemma liveBins_eq_filterMap (home : u.HomeParts) :
    u.liveBins = u.mountings.filterMap Mounting.liveBin? := by
  rw [liveBins, components_eq_map_mountings home, List.filterMap_map]
  rfl

/-- One bin more is looked at: it is kept if it would do more damage than the one kept so
far. -/
def LiveBin.worse : Option LiveBin → LiveBin → Option LiveBin
  | none, bin => some bin
  | some w, bin => if w.damage < bin.damage then some bin else some w

lemma worstBin?_eq_foldl (u : BattleUnit) :
    u.worstBin? = u.liveBins.foldl LiveBin.worse none := by
  rw [worstBin?]
  refine List.foldl_ext _ _ _ fun worst bin _ => ?_
  cases worst <;> rfl

/-- **The bin that is kept** does more damage than each before it, and no less than any
after it. -/
lemma LiveBin.exists_split_of_foldl (bins : List LiveBin) :
    (bins = [] ∧ bins.foldl worse none = none) ∨
      ∃ before w after, bins = before ++ w :: after ∧ bins.foldl worse none = some w ∧
        (∀ b ∈ before, b.damage < w.damage) ∧ ∀ b ∈ after, b.damage ≤ w.damage := by
  induction bins using List.reverseRecOn with
  | nil => exact .inl ⟨rfl, rfl⟩
  | append_singleton bins bin ih =>
      right
      rw [List.foldl_append, List.foldl_cons, List.foldl_nil]
      rcases ih with ⟨rfl, hnone⟩ | ⟨before, w, after, rfl, hkept, hbefore, hafter⟩
      · exact ⟨[], bin, [], rfl, by rw [hnone, worse], by simp, by simp⟩
      · rw [hkept, worse]
        by_cases hmore : w.damage < bin.damage
        · refine ⟨before ++ w :: after, bin, [], rfl, if_pos hmore, ?_, by simp⟩
          intro b hb
          rcases List.mem_append.mp hb with hb | hb
          · exact (hbefore b hb).trans hmore
          · rcases List.mem_cons.mp hb with rfl | hb
            · exact hmore
            · exact (hafter b hb).trans_lt hmore
        · refine ⟨before, w, after ++ [bin], by simp, if_neg hmore, hbefore, ?_⟩
          intro b hb
          rcases List.mem_append.mp hb with hb | hb
          · exact hafter b hb
          · rw [List.mem_singleton.mp hb]
            exact not_lt.mp hmore

/-- The bin at risk: no live bin would do more damage, and each one before it less. -/
structure FirstWorst (u : BattleUnit) (l : Location) (j : Nat) (c : Component) (d : Int) :
    Prop where
  component : u.fitted? l j = some c
  live : c.LiveWith d
  most : ∀ k i e, u.LiveAt k i e → e ≤ d
  first : ∀ k i e, u.LiveAt k i e → Earlier (k, i) (l, j) → e < d

lemma worstBin?_eq_none_iff (home : u.HomeParts) :
    u.worstBin? = none ↔ ∀ l j d, ¬ u.LiveAt l j d := by
  have hlive : u.liveBins = [] ↔ ∀ l j d, ¬ u.LiveAt l j d := by
    rw [liveBins_eq_filterMap home, List.filterMap_eq_nil_iff]
    simp only [Mounting.liveBin?_eq_none, mem_mountings]
    constructor
    · rintro h l j d ⟨c, hc, hd⟩
      exact h ⟨(l, j), c⟩ hc d hd
    · intro h m hm d hd
      exact h m.place.1 m.place.2 d ⟨m.component, hm, hd⟩
  rw [worstBin?_eq_foldl, ← hlive]
  rcases LiveBin.exists_split_of_foldl u.liveBins with
    ⟨hnil, hnone⟩ | ⟨before, w, after, hsplit, hsome, -⟩
  · exact iff_of_true hnone hnil
  · rw [hsome, hsplit]
    simp

/-- The bin that is kept among all components: what is mounted before it would do less
damage, and what is mounted after it no more. -/
lemma exists_mountings_split (home : u.HomeParts) {w : LiveBin} (h : u.worstBin? = some w) :
    ∃ front m later, u.mountings = front ++ m :: later ∧ m.liveBin? = some w ∧
      (∀ n ∈ front, ∀ e, n.component.LiveWith e → e < w.damage) ∧
      ∀ n ∈ later, ∀ e, n.component.LiveWith e → e ≤ w.damage := by
  have hlive : ∀ {n : Mounting} {e}, n.component.LiveWith e →
      n.liveBin? = some ⟨n.place.1, n.component, e⟩ :=
    fun he => Mounting.liveBin?_eq_some.mpr ⟨rfl, rfl, he⟩
  rw [worstBin?_eq_foldl] at h
  rcases LiveBin.exists_split_of_foldl u.liveBins with
    ⟨-, hnone⟩ | ⟨before, w', after, hsplit, hsome, hbefore, hafter⟩
  · rw [h] at hnone
    cases hnone
  · obtain rfl : w' = w := Option.some.inj (hsome.symm.trans h)
    rw [liveBins_eq_filterMap home] at hsplit
    obtain ⟨front, back, hmountings, rfl, hback⟩ := List.filterMap_eq_append_iff.mp hsplit
    obtain ⟨idle, m, later, rfl, hidle, hm, rfl⟩ := List.filterMap_eq_cons_iff.mp hback
    refine ⟨front ++ idle, m, later, by rw [hmountings, List.append_assoc], hm, ?_, ?_⟩
    · intro n hn e he
      rcases List.mem_append.mp hn with hn | hn
      · exact hbefore _ (List.mem_filterMap.mpr ⟨n, hn, hlive he⟩)
      · cases (hidle n hn).symm.trans (hlive he)
    · intro n hn e he
      exact hafter _ (List.mem_filterMap.mpr ⟨n, hn, hlive he⟩)

/-- **The bin at risk is the first of the worst.** -/
lemma exists_firstWorst (home : u.HomeParts) {w : LiveBin} (h : u.worstBin? = some w) :
    ∃ j, u.FirstWorst w.location j w.component w.damage := by
  obtain ⟨front, m, later, hmountings, hm, hfront, hlater⟩ := exists_mountings_split home h
  obtain ⟨hlocation, hcomponent, hlive⟩ := Mounting.liveBin?_eq_some.mp hm
  have hordered := u.pairwise_mountings
  rw [hmountings, List.pairwise_append, List.pairwise_cons] at hordered
  have hmem : ∀ {k i c}, u.fitted? k i = some c →
      (⟨(k, i), c⟩ : Mounting) ∈ front ∨ ⟨(k, i), c⟩ = m ∨ ⟨(k, i), c⟩ ∈ later := by
    intro k i c hc
    have hn : (⟨(k, i), c⟩ : Mounting) ∈ u.mountings := mem_mountings.mpr hc
    rwa [hmountings, List.mem_append, List.mem_cons] at hn
  have hfitted : u.fitted? m.place.1 m.place.2 = some m.component := by
    rw [← mem_mountings, hmountings]
    simp
  rw [hlocation, hcomponent]
  refine ⟨m.place.2, hfitted, hlive, ?_, ?_⟩
  · rintro k i e ⟨c, hc, he⟩
    rcases hmem hc with hn | rfl | hn
    · exact (hfront _ hn e he).le
    · exact (he.unique hlive).le
    · exact hlater _ hn e he
  · rintro k i e ⟨c, hc, he⟩ hearlier
    rcases hmem hc with hn | rfl | hn
    · exact hfront _ hn e he
    · exact absurd hearlier hearlier.asymm
    · exact absurd hearlier (hordered.2.1.1 _ hn).asymm

/-! ### Checks -/

variable {rules : Rules} {turn : Nat}

lemma checkCookOff_of_quiet (quiet : rules.ammoExplosionAvoid? u.heat = none ∨ u.worstBin? = none) :
    u.checkCookOff rules turn = pure none := by
  rw [checkCookOff]
  split
  · next hnumber hbin => simp [hnumber, hbin] at quiet
  · rfl

/-- The check of a bin for which two dice show these faces. -/
def LiveBin.check (w : LiveBin) (u : BattleUnit) (turn : Nat) (avoid : Int) (x y : Face) :
    CookOffCheck where
  unit := u.id
  turn := turn
  heat := u.heat
  avoid := avoid
  roll := .ofFaces x y
  location := w.location
  slot := w.component.firstSlot
  componentName := w.component.name
  damage := w.damage
  exploded := decide ((x.pips + y.pips : Int) < avoid)

/-- Where a bin is at risk, two dice are read and decide. -/
lemma reads_checkCookOff {avoid : Int} {w : LiveBin} {faces : List Face}
    {answer : Option CookOffCheck} (havoid : rules.ammoExplosionAvoid? u.heat = some avoid)
    (hw : u.worstBin? = some w) :
    (u.checkCookOff rules turn).Reads faces answer ↔
      ∃ x y, faces = [x, y] ∧ answer = some (w.check u turn avoid x y) := by
  have hexploded : ∀ x y : Face, (!(TwoDice.ofFaces x y).meets avoid) =
      decide ((x.pips + y.pips : Int) < avoid) := by
    intro x y
    rw [TwoDice.meets, ← decide_not]
    exact decide_eq_decide.mpr not_le
  rw [checkCookOff, havoid, hw]
  simp only [Rolls.reads_bind, Rolls.reads_pure, Rolls.reads_twoDice]
  constructor
  · rintro ⟨_, _, _, ⟨x, y, rfl, rfl⟩, ⟨rfl, rfl⟩, rfl⟩
    exact ⟨x, y, rfl, by rw [hexploded]; rfl⟩
  · rintro ⟨x, y, rfl, rfl⟩
    exact ⟨[x, y], [], _, ⟨x, y, rfl, rfl⟩, ⟨rfl, by rw [hexploded]; rfl⟩, rfl⟩

lemma run_checkCookOff_iff {σ : Type} [DiceSource σ] {avoid : Int} {w : LiveBin}
    {dice rest : σ} {answer : Option CookOffCheck}
    (havoid : rules.ammoExplosionAvoid? u.heat = some avoid) (hw : u.worstBin? = some w) :
    (u.checkCookOff rules turn).run dice = (some answer, rest) ↔
      ∃ x y, DiceSource.Offers dice [x, y] rest ∧ answer = some (w.check u turn avoid x y) := by
  rw [Rolls.run_eq_some_iff]
  simp only [reads_checkCookOff havoid hw]
  constructor
  · rintro ⟨_, ⟨x, y, rfl, hanswer⟩, hoffers⟩
    exact ⟨x, y, hoffers, hanswer⟩
  · rintro ⟨x, y, hoffers, hanswer⟩
    exact ⟨[x, y], ⟨x, y, rfl, hanswer⟩, hoffers⟩

/-- **Heat threatens the first worst bin.** Where the table of explosions has no number for
the heat, or nothing can explode, a check comes to nothing and rolls no dice; a table of
ascending steps has no number just where the heat is below all of them. Otherwise two dice
are rolled, and the check names the bin that would do most damage, and of several the first
one in body order and then in mounting order. It explodes if the dice are below the number. -/
theorem checkCookOff_eq_firstWorst {σ : Type} [DiceSource σ] (rules : Rules) (u : BattleUnit)
    (home : u.HomeParts) (turn : Nat) :
    (∀ dice rest : σ, (u.checkCookOff rules turn).run dice = (some none, rest) ↔
        rest = dice ∧ (rules.ammoExplosionAvoid? u.heat = none ∨ ∀ l j d, ¬ u.LiveAt l j d)) ∧
      (Bracket.Ascending rules.ammoExplosion →
        (rules.ammoExplosionAvoid? u.heat = none ↔ ∀ b ∈ rules.ammoExplosion, u.heat < b.start) ∧
        ∀ avoid, rules.ammoExplosionAvoid? u.heat = some avoid ↔
          ∃ b, Bracket.Covers rules.ammoExplosion u.heat b ∧ b.value = avoid) ∧
      ∀ avoid, rules.ammoExplosionAvoid? u.heat = some avoid → (∃ l j d, u.LiveAt l j d) →
        ∃ l j c d, u.FirstWorst l j c d ∧ ∀ (dice rest : σ) (answer : Option CookOffCheck),
          (u.checkCookOff rules turn).run dice = (some answer, rest) ↔
            ∃ x y, DiceSource.Offers dice [x, y] rest ∧ answer = some
              { unit := u.id, turn, heat := u.heat, avoid, roll := .ofFaces x y, location := l
                slot := c.firstSlot, componentName := c.name, damage := d
                exploded := decide ((x.pips + y.pips : Int) < avoid) } := by
  refine ⟨fun dice rest => ?_, fun ascending => ?_, fun avoid havoid hlive => ?_⟩
  · rw [← worstBin?_eq_none_iff home]
    by_cases quiet : rules.ammoExplosionAvoid? u.heat = none ∨ u.worstBin? = none
    · rw [checkCookOff_of_quiet quiet, Rolls.run_pure, and_iff_left quiet, Prod.mk.injEq]
      exact (and_iff_right rfl).trans eq_comm
    · obtain ⟨havoid, hw⟩ := not_or.mp quiet
      obtain ⟨avoid, havoid⟩ := Option.ne_none_iff_exists'.mp havoid
      obtain ⟨w, hw⟩ := Option.ne_none_iff_exists'.mp hw
      simp [run_checkCookOff_iff havoid hw, havoid, hw]
  · exact ⟨Bracket.value?_eq_none_iff ascending, fun avoid => Bracket.value?_eq_some_iff ascending⟩
  · have hw : u.worstBin? ≠ none := by
      obtain ⟨l, j, d, h⟩ := hlive
      intro hnone
      exact (worstBin?_eq_none_iff home).mp hnone l j d h
    obtain ⟨w, hw⟩ := Option.ne_none_iff_exists'.mp hw
    obtain ⟨j, hfirst⟩ := exists_firstWorst home hw
    exact ⟨w.location, j, w.component, w.damage, hfirst,
      fun _ _ _ => run_checkCookOff_iff havoid hw⟩

/-- An empty bin, two bins of the same damage in two torsos, and a gun that would burst with
more than both. The first of the two is at risk; one degree less, and none is. -/
theorem checkCookOff_eq_firstWorst_twins :
    let u : BattleUnit := { ((((BattleUnit.blank 7 "Target" .mech 50).withPart
      (.intact .leftTorso 3 2 20)).withPart (.intact .rightTorso 3 2 20)).mount
        .rightTorso (.ammoBin "Rounds" 0 10 2) |>.mount
        .leftTorso (.ammoBin "Missiles" 0 0 6) |>.mount
        .leftTorso (.ammoBin "Shells" 1 4 5) |>.mount
        .leftTorso { Component.intact "Gauss Rifle" .weapon 2 7 with burst := some 25 })
      with heat := 19 }
    let check : CookOffCheck := ⟨7, 1, 19, 4, ⟨1, 2⟩, .leftTorso, 1, "Shells", 20, true⟩
    u.HomeParts ∧ ({} : Rules).ammoExplosionAvoid? u.heat = some 4 ∧
      (∃ l j d, u.LiveAt l j d) ∧ (∃ j c, u.FirstWorst .leftTorso j c 20 ∧ c.name = "Shells") ∧
      (u.checkCookOff {} 1).run (⟨[0, 1], 0⟩ : Script) = (some (some check), ⟨[], 2⟩) ∧
      Bracket.Ascending ({} : Rules).ammoExplosion ∧
      (∀ b ∈ ({} : Rules).ammoExplosion, 18 < b.start) ∧
      ({ u with heat := 18 }.checkCookOff {} 1).run (⟨[0, 1], 0⟩ : Script) =
        (some none, ⟨[0, 1], 0⟩) := by
  intro u check
  have home : u.HomeParts := by decide
  have havoid : ({} : Rules).ammoExplosionAvoid? u.heat = some 4 := rfl
  have hlive : u.LiveAt .rightTorso 0 20 := ⟨_, rfl, _, rfl, rfl, rfl, by decide⟩
  have hcheck : (u.checkCookOff {} 1).run (⟨[0, 1], 0⟩ : Script) =
      (some (some check), ⟨[], 2⟩) := by decide +kernel
  obtain ⟨l, j, c, d, hfirst, hrun⟩ :=
    (checkCookOff_eq_firstWorst (σ := Script) {} u home 1).2.2 4 havoid ⟨_, _, _, hlive⟩
  obtain ⟨x, y, -, hanswer⟩ := (hrun _ _ _).mp hcheck
  obtain ⟨-, -, -, -, -, rfl, -, hname, rfl, -⟩ := CookOffCheck.mk.inj (Option.some.inj hanswer)
  have ascending : Bracket.Ascending ({} : Rules).ammoExplosion := by decide
  obtain ⟨hcold, hnumbers, -⟩ :=
    checkCookOff_eq_firstWorst (σ := Script) {} { u with heat := 18 } home 1
  have hnone : ({} : Rules).ammoExplosionAvoid? 18 = none := rfl
  exact ⟨home, havoid, ⟨_, _, _, hlive⟩, ⟨j, c, hfirst, hname.symm⟩, hcheck, ascending,
    (hnumbers ascending).1.mp hnone, (hcold _ _).mpr ⟨rfl, .inl hnone⟩⟩

end BattleUnit

end MechBattle
