/-
The balance of damage in a body.

What comes to a location in the end is what is aimed at it and what the
locations before it let go, whatever way and in whatever order it came. This
balance holds after every hit, and it leaves no choice: the limbs and the head
get what is aimed at them, which settles the side torsos and then the center.

* `FlowBalance`: what came to each location is what was aimed at it and what was
  let go into it, and `FlowBalance.inflow_eq`: this determines all that came;
* `flowBalance_absorbAlong`, `flowBalance_absorbLive`: a hit keeps the balance, and so
  does a run of hits;
* `takeDamage_absorbAll_eq`: hits on one armor side that aim the same do the
  same;
* `FlowBalance.conserved`, `grossTaken_absorbAll`: all that was aimed is borne, or
  let go by the center torso.
-/
import MechBattle.Proofs.Flow

namespace MechBattle

/-! ### Up and down the body -/

/-- What holds of a location once it holds of those that let damage go into it
holds of all locations. -/
lemma Location.feeder_induction {P : Location → Prop}
    (feed : ∀ l, (∀ m : Location, m.transfer? = some l → P m) → P l) (l : Location) : P l := by
  induction hn : 3 - l.chain.length using Nat.strong_induction_on generalizing l with
  | _ n ih =>
      refine feed l fun m hm => ih (3 - m.chain.length) ?_ m rfl
      have hlonger : m.chain.length = l.chain.length + 1 := by rw [chain_eq m, hm, List.length_cons]
      have hshort : m.chain.length ≤ 3 := by cases m <;> decide
      omega

/-- What holds of a location once it holds of the one that it lets damage go
into holds of all locations. -/
lemma Location.transfer_induction {P : Location → Prop}
    (step : ∀ l : Location, (∀ m, l.transfer? = some m → P m) → P l) (l : Location) : P l := by
  induction hn : l.chain.length using Nat.strong_induction_on generalizing l with
  | _ n ih =>
      refine step l fun m hm => ih m.chain.length ?_ m rfl
      have hlonger : l.chain.length = m.chain.length + 1 := by rw [chain_eq l, hm, List.length_cons]
      omega

namespace BattleUnit

variable {u v : BattleUnit} {s : ArmorSide} {inflow : Location → Int} {l : Location} {d : Int}
  {p : BodyPart}

/-! ### The balance -/

/-- What came to each location is what was aimed at it and what the locations
before it let go. -/
structure FlowBalance (u : BattleUnit) (s : ArmorSide) (aimed inflow : Location → Int) : Prop where
  nonneg : 0 ≤ inflow
  balance : ∀ l, inflow l =
    aimed l + ∑ m, if m.transfer? = some l then u.spillAt s m (inflow m) else 0

/-- What flows on from a location. -/
def onward (l : Location) (d : Int) : Location → Int :=
  fun k => if l.transfer? = some k then d else 0

lemma onward_zero (l : Location) : onward l 0 = 0 := by
  funext k
  exact ite_self 0

lemma onward_of_none (h : l.transfer? = none) (d : Int) : onward l d = 0 := by
  funext k
  rw [onward, h, if_neg (by nofun)]
  rfl

lemma onward_of_some {m : Location} (h : l.transfer? = some m) (d : Int) :
    onward l d = surge m d := by
  funext k
  rw [onward, surge, h]
  exact if_congr (Option.some_inj.trans eq_comm) rfl rfl

namespace FlowBalance

variable {aimed : Location → Int}

lemma zero (hu : u.Sound) (s : ArmorSide) : u.FlowBalance s 0 0 where
  nonneg := le_rfl
  balance l := by
    refine ((Int.zero_add _).trans (Finset.sum_eq_zero fun m _ => ?_)).symm
    split
    · exact spillAt_zero hu s m
    · rfl

/-- More damage at one location keeps the balance, as long as what it lets go is still
to come to the next one. -/
lemma arrive (h : u.FlowBalance s aimed inflow) (hd : 0 ≤ d) :
    u.FlowBalance s (aimed + surge l d -
      onward l (u.spillAt s l (inflow l + d) - u.spillAt s l (inflow l))) (inflow + surge l d) where
  nonneg k := by
    have := h.nonneg k
    by_cases hk : k = l
    · subst hk
      rw [Pi.add_apply, surge_self]
      exact Int.add_nonneg this hd
    · rwa [Pi.add_apply, surge_of_ne hk, Int.add_zero]
  balance k := by
    have hsum := sum_add_surge
      (fun m x => if m.transfer? = some k then u.spillAt s m x else 0) inflow l d
    rw [hsum, Pi.add_apply, Pi.sub_apply, Pi.add_apply, h.balance k, onward]
    split <;> omega

/-- **The balance determines what came to each location.** -/
lemma inflow_eq {inflow' : Location → Int} (h : u.FlowBalance s aimed inflow)
    (h' : u.FlowBalance s aimed inflow') : inflow = inflow' := by
  funext l
  induction l using Location.feeder_induction with
  | feed l ih =>
    rw [h.balance, h'.balance]
    congr 1
    refine Finset.sum_congr rfl fun m _ => ?_
    split
    · next hm => rw [ih m hm]
    · rfl

end FlowBalance

/-! ### One hit -/

/-- How damage meets a part on its way. -/
lemma absorbAlong_cons_of_part (i : Impact) (hp : v.part? l = some p) (home : p.location = l)
    (hn : p.Nonneg) (hs : p.shield i.armorSide ≤ Counter.greatest)
    (hi : p.internal ≤ Counter.greatest) (chain : List Location) (d : Int) :
    v.absorbAlong i [] (l :: chain) d =
      if p.internal = 0 then v.absorbAlong i [] chain d
      else p.share i.armorSide d ::
        if 0 < p.spill i.armorSide d then v.absorbAlong i [] chain (p.spill i.armorSide d)
        else [] := by
  subst home
  rw [absorbAlong, hp]
  simp only [BodyPart.internalLeft_nil hn hi, BodyPart.armorLeft_nil hn i hs]
  split
  · rfl
  · next h =>
      have hspill : 0 < p.spill i.armorSide d →
          (p.share i.armorSide d).internal = p.internal := BodyPart.share_internal_of_spill_pos
      simp only [BodyPart.spill, BodyPart.share, if_neg h, i.meetsRear_armorSide,
        Bool.and_eq_true, decide_eq_true_eq] at hspill ⊢
      simp only [and_iff_right_of_imp hspill]
      split <;> rfl

/-- One location on the way of a hit: it takes its share, and what it lets go is
still to come to the next one. -/
lemma exists_arrival (hu : u.Sound) (i : Impact) (l : Location) (hd : 0 < d)
    {aimed : Location → Int} (h : u.FlowBalance i.armorSide aimed inflow) :
    ∃ e taken, 0 ≤ e ∧
      u.FlowBalance i.armorSide (aimed + surge l d - onward l e) (inflow + surge l d) ∧
      u.Rises i.armorSide inflow taken (inflow + surge l d) ∧
      ∀ chain, l ∉ chain → (u.bearing i.armorSide inflow).absorbAlong i [] (l :: chain) d =
        taken ++ if 0 < e then
          (u.bearing i.armorSide (inflow + surge l d)).absorbAlong i [] chain e else [] := by
  have harrive := h.arrive hd.le (l := l)
  cases hp : u.part? l with
  | none =>
      simp only [spillAt, hp, sub_self] at harrive
      refine ⟨0, [], le_rfl, harrive, rises_of_missing hp, fun chain _ => ?_⟩
      rw [absorbAlong, part?_bearing, hp]
      rfl
  | some p =>
      have hn := hu.nonneg l p hp
      have hc := hu.counted l p hp
      set q := p.bear i.armorSide (inflow l) with hq
      have hq' : (u.bearing i.armorSide inflow).part? l = some q := part?_bearing_of_part hp
      have hspill := BodyPart.spill_add hn i.armorSide (h.nonneg l) hd.le
      rw [← hq] at hspill
      have he : p.spill i.armorSide (inflow l + d) - p.spill i.armorSide (inflow l) =
          q.spill i.armorSide d := by omega
      simp only [spillAt, hp, he] at harrive
      have halong := absorbAlong_cons_of_part i hq' (BodyPart.bear_location.trans (hu.home l p hp))
        (hn.take _) (BodyPart.bear_shield_le hn hc i.armorSide (h.nonneg l))
        (BodyPart.bear_internal_le hn hc i.armorSide (h.nonneg l)) (d := d)
      -- A part without structure is passed by, and shows in no absorption.
      by_cases hspent : q.internal = 0
      · have hrise := rises_of_spent hu hp h.nonneg hd.le hspent
        have hpass : q.spill i.armorSide d = d := by
          obtain ⟨hqa, hqi⟩ := BodyPart.share_of_internal_eq_zero i.armorSide hd.le hspent
          rw [BodyPart.spill, hqa, hqi, Int.sub_zero, Int.sub_zero]
        have hsame : u.bearing i.armorSide inflow = _ := hrise.unit
        refine ⟨_, [], q.spill_nonneg _ d, harrive, hrise, fun chain _ => ?_⟩
        rw [halong, if_pos hspent, hpass, if_pos hd, hsame, List.nil_append]
      · have hrise := rises_share hu hp h.nonneg hd.le (s := i.armorSide)
        have htake : (u.bearing i.armorSide inflow).takeOne (q.share i.armorSide d) = _ :=
          hrise.unit
        refine ⟨_, _, q.spill_nonneg _ d, harrive, hrise, fun chain hl => ?_⟩
        have hloc : (q.share i.armorSide d).location ∉ chain := by
          rwa [BodyPart.share, hq, BodyPart.bear_location, hu.home l p hp]
        rw [halong, if_neg hspent, ← htake, absorbAlong_takeOne hloc]
        rfl

/-- **A hit keeps the balance**: it raises what came to each location as if its
damage were aimed there in one go with all before. -/
lemma flowBalance_absorbAlong (hu : u.Sound) (i : Impact) (l : Location) (hd : 0 < d)
    {aimed : Location → Int} (h : u.FlowBalance i.armorSide aimed inflow) :
    ∃ inflow', u.FlowBalance i.armorSide (aimed + surge l d) inflow' ∧
      u.Rises i.armorSide inflow
        ((u.bearing i.armorSide inflow).absorbAlong i [] l.chain d) inflow' := by
  -- Down the chain: what one location lets go is aimed at the next one.
  induction l using Location.transfer_induction generalizing d aimed inflow with
  | step l ih =>
      obtain ⟨e, taken, he, hbal, hrise, halong⟩ := exists_arrival hu i l hd h
      have hnodup := Location.nodup_chain l
      rw [Location.chain_eq] at hnodup ⊢
      rw [halong _ (List.nodup_cons.mp hnodup).1]
      split
      · next hpos =>
          cases hm : l.transfer? with
          | none =>
              rw [onward_of_none hm, sub_zero] at hbal
              exact ⟨_, hbal, by simpa [absorbAlong] using hrise⟩
          | some m =>
              obtain ⟨inflow', hbal', hrise'⟩ := ih m hm hpos hbal
              rw [onward_of_some hm, sub_add_cancel] at hbal'
              exact ⟨inflow', hbal', hrise.append hrise'⟩
      · next hpos =>
          obtain rfl : e = 0 := le_antisymm (not_lt.mp hpos) he
          rw [onward_zero, sub_zero] at hbal
          exact ⟨_, hbal, by rwa [List.append_nil]⟩

/-! ### A run of hits -/

/-- Damage that hits aim at a location. Only a hit that does damage counts. -/
def aimed (hits : List Hit) (l : Location) : Int :=
  ((hits.filter (·.location = l)).map (max 0 ·.damage)).sum

lemma aimed_nil : aimed [] = 0 := rfl

lemma aimed_cons (h : Hit) (hits : List Hit) :
    aimed (h :: hits) = surge h.location (max 0 h.damage) + aimed hits := by
  funext l
  rw [aimed, Pi.add_apply, surge, aimed]
  by_cases hl : h.location = l
  · rw [List.filter_cons_of_pos (by simpa using hl), List.map_cons, List.sum_cons, if_pos hl.symm]
  · rw [List.filter_cons_of_neg (by simpa using hl), if_neg (Ne.symm hl), Int.zero_add]

lemma flowBalance_absorb (hu : u.Sound) (h : Hit) {f : Location → Int}
    (hbal : u.FlowBalance h.impact.armorSide f inflow) :
    ∃ inflow', u.FlowBalance h.impact.armorSide (f + surge h.location (max 0 h.damage)) inflow' ∧
      u.Rises h.impact.armorSide inflow
        ((u.bearing h.impact.armorSide inflow).absorb h.location h.damage h.impact []) inflow' := by
  rw [absorb]
  split
  · next hd =>
      refine ⟨inflow, ?_, .refl⟩
      rwa [max_eq_left hd, surge_zero, add_zero]
  · next hd =>
      rw [max_eq_right (by omega)]
      exact flowBalance_absorbAlong hu h.impact h.location (by omega) hbal

/-- **A run of hits on one armor side keeps the balance.** -/
lemma flowBalance_absorbLive (hu : u.Sound) (hits : List Hit)
    (side : ∀ h ∈ hits, h.impact.armorSide = s) {f : Location → Int}
    (hbal : u.FlowBalance s f inflow) :
    ∃ inflow', u.FlowBalance s (f + aimed hits) inflow' ∧
      u.Rises s inflow ((u.bearing s inflow).absorbLive hits).1.flatten inflow' ∧
      ((u.bearing s inflow).absorbLive hits).2 = u.bearing s inflow' := by
  induction hits generalizing f inflow with
  | nil => exact ⟨inflow, by rwa [aimed_nil, add_zero], .refl, rfl⟩
  | cons h rest ih =>
      obtain ⟨rfl, hrest⟩ := List.forall_mem_cons.mp side
      obtain ⟨mid, hmid, hrise⟩ := flowBalance_absorb hu h hbal
      obtain ⟨last, hlast, hrise', hunit⟩ := ih hrest hmid
      rw [absorbLive_cons, hrise.unit]
      refine ⟨last, ?_, hrise.append hrise', hunit⟩
      rwa [aimed_cons, ← add_assoc]

/-- Hits on one armor side bring the unit to a balance of what they aim. -/
lemma exists_flowBalance (hu : u.Sound) (hits : List Hit)
    (side : ∀ h ∈ hits, h.impact.armorSide = s) :
    ∃ inflow, u.FlowBalance s (aimed hits) inflow ∧
      u.takeDamage (u.absorbAll [] hits) = u.bearing s inflow ∧
      grossTaken (u.absorbAll [] hits) = u.borne s inflow := by
  obtain ⟨inflow, hbal, hrise, hunit⟩ := flowBalance_absorbLive hu hits side (.zero hu s)
  have hlive : u.absorbLive hits = (u.absorbEach [] hits, u.takeDamage (u.absorbAll [] hits)) :=
    absorbLive_after hu.home hu.counted hits .nil
  rw [bearing_zero hu, hlive] at hunit
  have hgross := hrise.gross
  rw [bearing_zero hu, hlive, borne_zero hu, Int.zero_add] at hgross
  rw [zero_add] at hbal
  exact ⟨inflow, hbal, hunit, hgross⟩

/-- **Neither order nor splitting of hits on one armor side matters.** Hits that
land together, all on the armor in front, all on the armor at the back or all
inside, and that aim the same damage at each location, leave the same unit. -/
theorem takeDamage_absorbAll_eq (u : BattleUnit) (home : u.HomeParts)
    (nonneg : u.EachPart fun _ p => p.Nonneg) (counted : u.Counted)
    (phase : Counter.Mem u.phaseDamage) (s : ArmorSide) (hits hits' : List Hit)
    (side : ∀ h ∈ hits ++ hits', h.impact.armorSide = s)
    (same : ∀ l, aimed hits l = aimed hits' l) :
    u.takeDamage (u.absorbAll [] hits) = u.takeDamage (u.absorbAll [] hits') := by
  have hu : u.Sound := ⟨home, nonneg, counted, phase⟩
  obtain ⟨inflow, hbal, hunit, -⟩ := exists_flowBalance hu hits fun h hh =>
    side h (List.mem_append_left hits' hh)
  obtain ⟨inflow', hbal', hunit', -⟩ := exists_flowBalance hu hits' fun h hh =>
    side h (List.mem_append_right hits hh)
  rw [funext same] at hbal
  rw [hunit, hunit', hbal.inflow_eq hbal']

/-- Two limbs beside one torso, a head without structure and an arm that is not
there: the hits come in another order, split in another way, and one of them does
no damage. -/
theorem takeDamage_absorbAll_eq_limbs :
    let u := ((((blank 7 "Target" .mech 50).withPart (.intact .centerTorso 2 4 8)
      |>.withPart (.intact .leftTorso 3 2 5)).withPart (.intact .leftArm 2 0 3)).withPart
        (.intact .leftLeg 1 0 2)).withPart (.intact .head 1 0 0)
    let hits : List Hit := [⟨.leftArm, 7, .hit .front⟩, ⟨.leftLeg, 9, .hit .left⟩,
      ⟨.head, 2, .hit .front⟩, ⟨.rightArm, 4, .hit .front⟩, ⟨.leftTorso, 1, .hit .right⟩]
    let hits' : List Hit := [⟨.rightArm, 4, .hit .left⟩, ⟨.leftLeg, 4, .hit .front⟩,
      ⟨.leftArm, 3, .hit .right⟩, ⟨.leftTorso, -2, .hit .front⟩, ⟨.head, 2, .hit .right⟩,
      ⟨.leftLeg, 5, .hit .front⟩, ⟨.leftTorso, 1, .hit .front⟩, ⟨.leftArm, 4, .hit .left⟩]
    let after := u.takeDamage (u.absorbAll [] hits)
    u.HomeParts ∧ (u.EachPart fun _ p => p.Nonneg) ∧ u.Counted ∧ Counter.Mem u.phaseDamage ∧
      (∀ h ∈ hits ++ hits', h.impact.armorSide = .front) ∧
      (∀ l, aimed hits l = aimed hits' l) ∧
      u.absorbAll [] hits ≠ u.absorbAll [] hits' ∧
      (after.parts.values.map fun p => (p.location, p.armor, p.rearArmor, p.internal)) =
        [(.head, 1, 0, 0), (.centerTorso, 0, 4, 7), (.leftTorso, 0, 2, 0), (.leftArm, 0, 0, 0),
          (.leftLeg, 0, 0, 0)] ∧
      after.phaseDamage = 19 ∧
      after = u.takeDamage (u.absorbAll [] hits') := by
  intro u hits hits' after
  have home : u.HomeParts := by decide
  have nonneg : u.EachPart fun _ p => p.Nonneg := by decide
  have counted : u.Counted := by decide
  have phase : Counter.Mem u.phaseDamage := by decide
  have side : ∀ h ∈ hits ++ hits', h.impact.armorSide = .front := by decide
  have same : ∀ l, aimed hits l = aimed hits' l := by decide
  exact ⟨home, nonneg, counted, phase, side, same, by decide +kernel, by decide +kernel,
    by decide +kernel,
    takeDamage_absorbAll_eq u home nonneg counted phase .front hits hits' side same⟩

/-! ### Conservation -/

lemma sum_aimed (hits : List Hit) :
    ∑ l, aimed hits l = (hits.map fun h => max 0 h.damage).sum := by
  induction hits with
  | nil =>
      show ∑ _l : Location, (0 : Int) = 0
      exact Finset.sum_const_zero
  | cons h rest ih =>
      have hsum : ∑ l, aimed (h :: rest) l =
          ∑ l, surge h.location (max 0 h.damage) l + ∑ l, aimed rest l := by
        rw [aimed_cons]
        exact Finset.sum_add_distrib
      rw [hsum, sum_surge, ih, List.map_cons, List.sum_cons]

/-- Only what the center torso lets go does not come to another location. -/
lemma sum_onward (spilled : Location → Int) (l : Location) :
    ∑ k, onward l (spilled l) k + surge .centerTorso (spilled .centerTorso) l = spilled l := by
  cases hm : l.transfer? with
  | none =>
      obtain rfl : l = .centerTorso := by
        cases l <;> first | rfl | cases hm
      rw [onward_of_none hm, surge_self]
      exact (congrArg (· + _) Finset.sum_const_zero).trans (Int.zero_add _)
  | some m =>
      have hl : l ≠ .centerTorso := by
        rintro rfl
        cases hm
      rw [onward_of_some hm, surge_of_ne hl, sum_surge, Int.add_zero]

/-- On a unit that lacks no location, all damage that was aimed is borne, or let
go by the center torso. -/
lemma FlowBalance.conserved {f : Location → Int} (h : u.FlowBalance s f inflow)
    (full : ∀ l, (u.part? l).isSome) :
    u.borne s inflow + u.spillAt s .centerTorso (inflow .centerTorso) = ∑ l, f l := by
  obtain ⟨spilled, hspilled⟩ : ∃ spilled : Location → Int,
      ∀ l, u.spillAt s l (inflow l) = spilled l := ⟨_, fun _ => rfl⟩
  have hborne : u.borne s inflow + ∑ l, spilled l = ∑ l, inflow l := by
    rw [borne, ← Finset.sum_add_distrib]
    refine Finset.sum_congr rfl fun l _ => ?_
    obtain ⟨p, hp⟩ := Option.isSome_iff_exists.mp (full l)
    rw [← hspilled, borneAt, spillAt, hp]
    exact Int.sub_add_cancel _ _
  have hinflow : ∑ l, inflow l = ∑ l, f l + ∑ m, ∑ l, onward m (spilled m) l := by
    rw [Finset.sum_comm, ← Finset.sum_add_distrib]
    refine Finset.sum_congr rfl fun l _ => ?_
    simp only [h.balance l, hspilled, onward]
  have hsplit : ∑ m, ∑ l, onward m (spilled m) l + spilled .centerTorso = ∑ m, spilled m := by
    rw [← sum_surge .centerTorso (spilled .centerTorso), ← Finset.sum_add_distrib]
    exact Finset.sum_congr rfl fun m _ => sum_onward spilled m
  rw [hspilled]
  omega

/-- A center torso with structure left lets nothing go. -/
lemma spillAt_eq_zero_of_standing (hp : (u.bearing s inflow).part? l = some p)
    (standing : 0 < p.internal) : u.spillAt s l (inflow l) = 0 := by
  rw [part?_bearing] at hp
  obtain ⟨p₀, hp₀, rfl⟩ := Option.map_eq_some_iff.mp hp
  have hzero : ¬ 0 < p₀.spill s (inflow l) := by
    intro hpos
    have := BodyPart.share_internal_of_spill_pos hpos
    rw [BodyPart.bear_internal] at standing
    omega
  have := p₀.spill_nonneg s (inflow l)
  rw [spillAt, hp₀]
  simp only
  omega

/-- **Hits that leave the center torso standing are taken in full**: on a unit
that lacks no location, armor and structure taken add up to the damage of the
hits. -/
lemma grossTaken_absorbAll (hu : u.Sound) (full : ∀ l, (u.part? l).isSome) (hits : List Hit)
    (side : ∀ h ∈ hits, h.impact.armorSide = s)
    (standing : ∀ p, (u.takeDamage (u.absorbAll [] hits)).part? .centerTorso = some p →
      0 < p.internal) :
    grossTaken (u.absorbAll [] hits) = (hits.map fun h => max 0 h.damage).sum := by
  obtain ⟨inflow, hbal, hunit, hgross⟩ := exists_flowBalance hu hits side
  obtain ⟨p, hp⟩ := Option.isSome_iff_exists.mp (full .centerTorso)
  have hq : (u.bearing s inflow).part? .centerTorso = some (p.bear s (inflow .centerTorso)) :=
    part?_bearing_of_part hp
  rw [hunit] at standing
  have hcons := hbal.conserved full
  rw [spillAt_eq_zero_of_standing hq (standing _ hq), Int.add_zero, sum_aimed] at hcons
  rw [hgross, hcons]

end BattleUnit

end MechBattle
