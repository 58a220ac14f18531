/-
What a location loses to hits that land together.

The parts after the hits, the structure known to be lost, which critical hits are rolled for,
and the marks of destruction are three accounts of the same damage, and none of them is made
from another. They agree because a hit notes no more than one absorption at a location, and
the part that is there by then pays for it in full.

* `Absorption.Settles`: an absorption that a part pays for in full, marked iff it takes the
  last of the structure;
* `BodyPart.Account`: absorptions one after the other, with `Account.takeAll_eq` for the part
  that is left and `Account.countP_destroyed` for the marks;
* `get?_internalByLocation`: the structure known to be lost;
* `BattleUnit.Accounts`: such absorptions at every location, with `Accounts.part?_eq` for
  the parts left and `Accounts.countP_destroyed` for the marks;
* `accounts_absorb`, `accounts_absorbAll`: what one hit notes, and what all of them do;
* `losses_of_absorbAll`: all three accounts together.
-/
import MechBattle.Proofs.Allotment
import MechBattle.Proofs.Balance

namespace MechBattle

/-! ### The account of one location -/

/-- The part pays for the absorption in full. It stands before, and the absorption is marked
iff it does not stand any more. -/
structure Absorption.Settles (a : Absorption) (p : BodyPart) : Prop where
  armor_nonneg : 0 ≤ a.armor
  armor_le : a.armor ≤ if a.rear then p.rearArmor else p.armor
  internal_nonneg : 0 ≤ a.internal
  internal_le : a.internal ≤ p.internal
  standing : 0 < p.internal
  destroyed_iff : a.destroyed = true ↔ a.internal = p.internal

namespace BodyPart

/-- Absorptions of one part, each of which settles what the ones before it leave. -/
inductive Account : BodyPart → List Absorption → Prop
  | nil (p : BodyPart) : Account p []
  | cons {p : BodyPart} {a : Absorption} {rest : List Absorption} (settles : a.Settles p)
      (later : Account (p.take a) rest) : Account p (a :: rest)

variable {p : BodyPart} {a : Absorption} {taken later : List Absorption}

/-- What absorptions take of the armor on one side. -/
def armorTaken (taken : List Absorption) (rear : Bool) : Int :=
  ((taken.filter (·.rear == rear)).map (·.armor)).sum

lemma armorTaken_cons (a : Absorption) (rest : List Absorption) (rear : Bool) :
    armorTaken (a :: rest) rear =
      (if a.rear = rear then a.armor else 0) + armorTaken rest rear := by
  rw [armorTaken, armorTaken]
  by_cases h : a.rear = rear
  · rw [List.filter_cons_of_pos (by simpa using h), List.map_cons, List.sum_cons, if_pos h]
  · rw [List.filter_cons_of_neg (by simpa using h), if_neg h, Int.zero_add]

namespace Account

lemma append (h : p.Account taken) (h' : (takeAll taken p).Account later) :
    p.Account (taken ++ later) := by
  induction h with
  | nil p => exact h'
  | cons settles _ ih => exact .cons settles (ih h')

/-- What stands between others settles what those before it leave. -/
lemma settles (h : p.Account (taken ++ a :: later)) : a.Settles (takeAll taken p) := by
  induction taken generalizing p with
  | nil =>
      cases h with
      | cons settles _ => exact settles
  | cons b rest ih =>
      cases h with
      | cons _ h => exact ih h

/-- **What is left is what was there, less the sums.** -/
lemma takeAll_eq (h : p.Account taken) :
    takeAll taken p =
      { p with
        armor := p.armor - armorTaken taken false
        rearArmor := p.rearArmor - armorTaken taken true
        internal := p.internal - (taken.map (·.internal)).sum } := by
  induction h with
  | nil p => simp [takeAll, armorTaken]
  | @cons p a rest settles _ ih =>
      rw [takeAll_cons, ih, take_eq_of_le settles.armor_le settles.internal_le]
      simp only [armorTaken_cons, List.map_cons, List.sum_cons, mk.injEq, true_and, and_true]
      cases a.rear <;> simp <;> omega

/-- Where no structure is left, nothing is noted. -/
lemma eq_nil_of_spent (h : p.Account taken) (hp : p.internal = 0) : taken = [] := by
  cases h with
  | nil => rfl
  | cons settles _ => exact absurd hp settles.standing.ne'

/-- **The last structure is marked once**, and nothing else is. -/
lemma countP_destroyed (h : p.Account taken) (hp : 0 ≤ p.internal) :
    taken.countP (·.destroyed) =
      if 0 < p.internal ∧ (takeAll taken p).internal = 0 then 1 else 0 := by
  induction h with
  | nil p =>
      rw [List.countP_nil, if_neg]
      rintro ⟨hpos, hzero⟩
      exact hpos.ne' hzero
  | @cons p a rest settles later ih =>
      have hleft : (p.take a).internal = p.internal - a.internal := by
        rw [take_eq_of_le settles.armor_le settles.internal_le]
      have hle := settles.internal_le
      have hpos := settles.standing
      rw [List.countP_cons, takeAll_cons]
      by_cases hlast : a.internal = p.internal
      · -- the last of it: the part is gone, and nothing follows
        have hgone : (p.take a).internal = 0 := by omega
        obtain rfl := later.eq_nil_of_spent hgone
        rw [settles.destroyed_iff.mpr hlast, if_pos rfl, if_pos ⟨hpos, hgone⟩, List.countP_nil]
      · have hunmarked : ¬ a.destroyed = true := fun h => hlast (settles.destroyed_iff.mp h)
        rw [if_neg hunmarked, ih (by omega), Nat.add_zero]
        refine if_congr (and_congr_left' ?_) rfl rfl
        omega

lemma nonneg (h : p.Account taken) : ∀ a ∈ taken, 0 ≤ a.armor ∧ 0 ≤ a.internal := by
  induction h with
  | nil => exact fun _ ha => absurd ha List.not_mem_nil
  | cons settles _ ih =>
      exact List.forall_mem_cons.mpr ⟨⟨settles.armor_nonneg, settles.internal_nonneg⟩, ih⟩

lemma takeAll_nonneg (h : p.Account taken) (hp : p.Nonneg) : (takeAll taken p).Nonneg := by
  induction h with
  | nil => exact hp
  | @cons p a rest _ _ ih => exact ih (hp.take a)

/-- No counter grows. -/
lemma takeAll_counted (h : p.Account taken) (hp : p.Nonneg) (hc : p.Counted) :
    (takeAll taken p).Counted := by
  have hleft := h.takeAll_nonneg hp
  have harmor : ∀ rear, 0 ≤ armorTaken taken rear := fun rear =>
    List.sum_nonneg (List.forall_mem_map.mpr fun a ha =>
      (h.nonneg a (List.mem_of_mem_filter ha)).1)
  have hinternal : 0 ≤ (taken.map (·.internal)).sum :=
    List.sum_nonneg (List.forall_mem_map.mpr fun a ha => (h.nonneg a ha).2)
  have hleast : Counter.least ≤ 0 := by decide
  rw [h.takeAll_eq] at hleft ⊢
  exact ⟨⟨hleast.trans hleft.armor, (Int.sub_le_self _ (harmor false)).trans hc.armor.2⟩,
    ⟨hleast.trans hleft.rearArmor, (Int.sub_le_self _ (harmor true)).trans hc.rearArmor.2⟩,
    ⟨hleast.trans hleft.internal, (Int.sub_le_self _ hinternal).trans hc.internal.2⟩⟩

end Account

/-- What a part takes of damage settles it, if it stands. -/
lemma settles_share (hn : p.Nonneg) (hstanding : p.internal ≠ 0) (s : ArmorSide) {d : Int}
    (hd : 0 ≤ d) : (p.share s d).Settles p where
  armor_nonneg := share_armor_nonneg hn s hd
  armor_le := by
    have hle := share_armor_le hn s d
    cases s with
    | front => exact hle
    | inside => exact hle.trans hn.armor
    | rear =>
        rw [shield, armorFacing, Bool.and_self] at hle
        exact hle
  internal_nonneg := share_internal_nonneg hn s hd
  internal_le := share_internal_le p s d
  standing := lt_of_le_of_ne hn.internal hstanding.symm
  destroyed_iff := decide_eq_true_iff

end BodyPart

/-! ### The accounts of a unit -/

/-- What loses nothing adds nothing to what is lost. -/
lemma sum_positive {taken : List Absorption} (nonneg : ∀ a ∈ taken, 0 ≤ a.internal) :
    ((taken.filter fun a => decide (0 < a.internal)).map (·.internal)).sum =
      (taken.map (·.internal)).sum := by
  induction taken with
  | nil => rfl
  | cons a rest ih =>
      obtain ⟨ha, hrest⟩ := List.forall_mem_cons.mp nonneg
      rw [List.filter_cons, List.map_cons, List.sum_cons, ← ih hrest]
      split
      · rw [List.map_cons, List.sum_cons]
      · next h =>
          rw [decide_eq_true_eq] at h
          omega

/-- The structure known to be lost at a location is all that was noted there, and nothing is
known of a location that lost nothing. -/
lemma get?_internalByLocation {taken : List Absorption} (nonneg : ∀ a ∈ taken, 0 ≤ a.internal)
    (l : Location) :
    (internalByLocation taken).get? l =
      if notedInternal taken l = 0 then none else some (notedInternal taken l) := by
  set losses := taken.filter fun a => a.location == l && decide (0 < a.internal) with hlosses
  have hsplit :
      losses = (taken.filter (·.location == l)).filter fun a => decide (0 < a.internal) := by
    rw [List.filter_filter, hlosses]
    exact List.filter_congr fun a _ => Bool.and_comm _ _
  have hsum : sumOf (losses.map (·.internal)) = notedInternal taken l := by
    rw [hsplit]
    exact sum_positive fun a ha => nonneg a (List.mem_of_mem_filter ha)
  have hempty : losses.isEmpty = true ↔ notedInternal taken l = 0 := by
    rw [List.isEmpty_iff, ← hsum]
    constructor
    · intro h
      rw [h]
      rfl
    · intro h
      by_contra hsome
      have hpos : 0 < (losses.map (·.internal)).sum := by
        refine List.sum_pos _ ?_ (by simpa using hsome)
        rw [List.forall_mem_map]
        intro a ha
        have := (List.mem_filter.mp ha).2
        simp only [Bool.and_eq_true, decide_eq_true_eq] at this
        exact this.2
      exact hpos.ne' h
  rw [internalByLocation, Location.Map.get?_ofFn, ← hlosses]
  dsimp only
  rw [hsum]
  exact if_congr hempty rfl rfl

lemma getD_internalByLocation {taken : List Absorption} (nonneg : ∀ a ∈ taken, 0 ≤ a.internal)
    (l : Location) : ((internalByLocation taken).get? l).getD 0 = notedInternal taken l := by
  rw [get?_internalByLocation nonneg]
  split
  · next h => exact h.symm
  · rfl

/-- Nothing is known of a location that nothing was noted for. -/
lemma get?_internalByLocation_eq_none {taken : List Absorption} {l : Location}
    (h : ∀ a ∈ taken, a.location ≠ l) : (internalByLocation taken).get? l = none := by
  have hnone : (taken.filter fun a => a.location == l && decide (0 < a.internal)) = [] := by
    refine List.filter_eq_nil_iff.mpr fun a ha => ?_
    rw [Bool.and_eq_true, beq_iff_eq]
    exact fun hl => h a ha hl.1
  rw [internalByLocation, Location.Map.get?_ofFn]
  dsimp only
  rw [hnone]
  rfl

namespace BattleUnit

variable {u : BattleUnit} {taken later : List Absorption} {impact : Impact} {l : Location}
  {p : BodyPart}

/-- Whether every part of the unit settles, one after the other, what is noted at its
location. -/
def Accounts (u : BattleUnit) (taken : List Absorption) : Prop :=
  u.EachPart fun l p => p.Account (taken.filter (·.location == l))

lemma Accounts.append (h : u.Accounts taken) (h' : (u.takeDamage taken).Accounts later) :
    u.Accounts (taken ++ later) := by
  intro l p hp
  rw [List.filter_append]
  refine (h l p hp).append (h' l _ ?_)
  rw [part?_takeDamage, hp, Option.map_some]

lemma armorTaken_filter (taken : List Absorption) (l : Location) (rear : Bool) :
    BodyPart.armorTaken (taken.filter (·.location == l)) rear = notedArmor taken l rear := by
  rw [BodyPart.armorTaken, List.filter_filter, notedArmor]
  exact congrArg (fun notes => (List.map Absorption.armor notes).sum)
    (List.filter_congr fun a _ => Bool.and_comm _ _)

namespace Accounts

/-- What is left at a location is what was there, less the sums that were noted. -/
lemma part?_eq (h : u.Accounts taken) (hp : u.part? l = some p) :
    (u.takeDamage taken).part? l =
      some { p with
        armor := p.armor - notedArmor taken l false
        rearArmor := p.rearArmor - notedArmor taken l true
        internal := p.internal - notedInternal taken l } := by
  rw [part?_takeDamage, hp, Option.map_some, (h l p hp).takeAll_eq, armorTaken_filter,
    armorTaken_filter]
  rfl

/-- One absorption is marked where structure was and none is left, and no other one. -/
lemma countP_destroyed (h : u.Accounts taken) (hp : u.part? l = some p) (nonneg : p.Nonneg) :
    taken.countP (fun a => a.location == l && a.destroyed) =
      if 0 < p.internal ∧ p.internal - notedInternal taken l = 0 then 1 else 0 := by
  have haccount := h l p hp
  have hcount := haccount.countP_destroyed nonneg.internal
  rw [haccount.takeAll_eq, List.countP_filter] at hcount
  rw [notedInternal, ← hcount]
  exact List.countP_congr fun a _ => by rw [Bool.and_comm]

/-- What is noted is paid for by the part that is there by then. -/
lemma settles {before : List Absorption} {a : Absorption}
    (h : u.Accounts (before ++ a :: later)) (hp : u.part? a.location = some p) :
    ∃ q, (u.takeDamage before).part? a.location = some q ∧ a.Settles q := by
  have haccount : p.Account ((before ++ a :: later).filter (·.location == a.location)) :=
    h a.location p hp
  rw [List.filter_append, List.filter_cons_of_pos (by simp)] at haccount
  exact ⟨_, by rw [part?_takeDamage, hp, Option.map_some], haccount.settles⟩

end Accounts

/-- A hit notes nothing off its way. -/
lemma location_mem_chain {chain : List Location} {d : Int} {already : List Absorption} :
    ∀ a ∈ u.absorbAlong impact already chain d, a.location ∈ chain := by
  induction chain generalizing d with
  | nil => exact fun _ ha => absurd ha List.not_mem_nil
  | cons k chain ih =>
      have hlater : ∀ e, ∀ a ∈ u.absorbAlong impact already chain e, a.location ∈ k :: chain :=
        fun _ a ha => List.mem_cons_of_mem k (ih a ha)
      rw [absorbAlong]
      cases u.part? k with
      | none => exact fun _ ha => absurd ha List.not_mem_nil
      | some q =>
          dsimp only
          split
          · exact hlater d
          · split
            · exact List.forall_mem_cons.mpr ⟨List.mem_cons_self, hlater _⟩
            · exact List.forall_mem_singleton.mpr List.mem_cons_self

/-- A unit whose accounts are settled is as sound as before. -/
lemma Accounts.takeDamage (h : u.Accounts taken) (nonneg : u.EachPart fun _ p => p.Nonneg)
    (counted : u.Counted) : (u.takeDamage taken).EachPart fun _ p => p.Nonneg ∧ p.Counted := by
  intro l q hq
  rw [part?_takeDamage] at hq
  obtain ⟨p, hp, rfl⟩ := Option.map_eq_some_iff.mp hq
  have hn := nonneg l p hp
  exact ⟨(h l p hp).takeAll_nonneg hn, (h l p hp).takeAll_counted hn (counted l p hp)⟩

section Sound

variable (home : u.HomeParts) (nonneg : u.EachPart fun _ p => p.Nonneg) (counted : u.Counted)
include home nonneg counted

/-- What a hit notes on its way settles the parts there, each of them met once at most. -/
lemma accounts_absorbAlong (impact : Impact) {chain : List Location} (nodup : chain.Nodup)
    {d : Int} (hd : 0 < d) : u.Accounts (u.absorbAlong impact [] chain d) := by
  intro l p hp
  induction chain generalizing d with
  | nil => exact .nil p
  | cons k chain ih =>
      obtain ⟨hk, nodup⟩ := List.nodup_cons.mp nodup
      cases hq : u.part? k with
      | none =>
          rw [absorbAlong, hq]
          exact .nil p
      | some q =>
          have hn := nonneg k q hq
          have hc := counted k q hq
          have hhome := home k q hq
          rw [absorbAlong_cons_of_part impact hq hhome hn (hc.shield_le _) hc.internal.2]
          split
          · exact ih nodup hd
          · next hstanding =>
              have hhead : (q.share impact.armorSide d).location = k := hhome
              by_cases hl : k = l
              · subst hl
                obtain rfl : q = p := Option.some.inj (hq.symm.trans hp)
                have htail : (if 0 < q.spill impact.armorSide d then
                    u.absorbAlong impact [] chain (q.spill impact.armorSide d) else []).filter
                      (·.location == k) = [] := by
                  rw [List.filter_eq_nil_iff]
                  intro a ha hak
                  rw [beq_iff_eq] at hak
                  split at ha
                  · exact hk (hak ▸ location_mem_chain a ha)
                  · cases ha
                rw [List.filter_cons_of_pos (by simpa using hhead), htail]
                exact .cons (BodyPart.settles_share hn hstanding _ hd.le) (.nil _)
              · rw [List.filter_cons_of_neg (by rw [hhead]; simpa using hl)]
                split
                · next hspill => exact ih nodup hspill
                · exact .nil p

/-- What one hit notes on a unit settles its parts. -/
lemma accounts_absorb (l : Location) (damage : Int) (impact : Impact) :
    u.Accounts (u.absorb l damage impact []) := by
  rw [absorb]
  split
  · exact fun _ p _ => .nil p
  · exact accounts_absorbAlong home nonneg counted impact (Location.nodup_chain l) (by omega)

/-- **Hits that land together** settle the accounts, whatever sides they come from. -/
lemma accounts_absorbAll (hits : List Hit) {already : List Absorption} (ledger : Ledger u already)
    (accounts : u.Accounts already) : u.Accounts (already ++ u.absorbAll already hits) := by
  induction hits generalizing already with
  | nil => rwa [absorbAll, absorbEach, List.flatten_nil, List.append_nil]
  | cons h rest ih =>
      have hnext := ledger_absorb ledger home counted h.location h.damage h.impact
      have hlive := absorb_eq_live ledger home counted h.location h.damage h.impact
      have hsound := accounts.takeDamage nonneg counted
      rw [absorbAll_cons, ← List.append_assoc]
      refine ih hnext (accounts.append ?_)
      rw [hlive]
      exact accounts_absorb (home.takeDamage already) (fun l p hp => (hsound l p hp).1)
        (fun l p hp => (hsound l p hp).2) h.location h.damage h.impact

end Sound

/-- **What a location loses to hits that land together.** Its part loses on each side the armor
that is noted for that side, and of its structure what is known to be lost there; a location
that lost none is not among those that lost some. One absorption is marked where structure was
and none is left, and no other one. Whatever is noted, the part has by the time it is taken,
so nothing stops at zero, and nothing is noted for a location that the unit lacks. -/
theorem losses_of_absorbAll (u : BattleUnit) (home : u.HomeParts)
    (nonneg : u.EachPart fun _ p => p.Nonneg) (counted : u.Counted) (hits : List Hit) :
    let taken := u.absorbAll [] hits
    let lost := internalByLocation taken
    (∀ l p, u.part? l = some p → ∃ q, (u.takeDamage taken).part? l = some q ∧
      q = { p with
        armor := p.armor - notedArmor taken l false
        rearArmor := p.rearArmor - notedArmor taken l true
        internal := p.internal - (lost.get? l).getD 0 } ∧
      taken.countP (fun a => a.location == l && a.destroyed) =
        if 0 < p.internal ∧ q.internal = 0 then 1 else 0) ∧
      (∀ l n, lost.get? l = some n → 0 < n) ∧
      (∀ l, u.part? l = none →
        (u.takeDamage taken).part? l = none ∧ lost.get? l = none ∧ ∀ a ∈ taken, a.location ≠ l) ∧
      ∀ before a later, taken = before ++ a :: later →
        ∃ q, (u.takeDamage before).part? a.location = some q ∧ a.Settles q := by
  intro taken lost
  have hledger : Ledger u taken := ledger_absorbAll home counted hits .nil
  have haccounts : u.Accounts taken :=
    accounts_absorbAll home nonneg counted hits .nil fun _ p _ => .nil p
  have hinternal : ∀ a ∈ taken, 0 ≤ a.internal := fun a ha => (hledger.nonneg a ha).2
  refine ⟨fun l p hp => ?_, fun l n hn => ?_, fun l hl => ?_, fun before a later htaken => ?_⟩
  · rw [show (lost.get? l).getD 0 = notedInternal taken l from getD_internalByLocation hinternal l]
    exact ⟨_, haccounts.part?_eq hp, rfl, haccounts.countP_destroyed hp (nonneg l p hp)⟩
  · have hsum := notedInternal_nonneg hledger.nonneg l
    rw [show lost.get? l = _ from get?_internalByLocation hinternal l] at hn
    split at hn
    · cases hn
    · cases hn
      omega
  · have hnone : ∀ a ∈ taken, a.location ≠ l := by
      rintro a ha rfl
      exact Option.isSome_iff_ne_none.mp (hledger.isSome_part? a ha) hl
    exact ⟨by rw [part?_takeDamage, hl, Option.map_none], get?_internalByLocation_eq_none hnone,
      hnone⟩
  · have ha : a ∈ taken := htaken ▸ List.mem_append_cons_self
    obtain ⟨p, hp⟩ := Option.isSome_iff_exists.mp (hledger.isSome_part? a ha)
    rw [htaken] at haccounts
    exact haccounts.settles hp

/-- A mech with a left arm and two torsos, the side torso thin. -/
def thinSide : BattleUnit :=
  (((BattleUnit.blank 6 "Target" .mech 50).withPart (.intact .leftArm 1 0 2)).withPart
    (.intact .leftTorso 2 1 3)).withPart (.intact .centerTorso 4 2 9)

/-- The side torso is struck in front and behind, bursts from within, and is gone by the time
the arm lets damage go. -/
def sideHits : List Hit :=
  [⟨.leftTorso, 1, .hit .front⟩, ⟨.leftTorso, 2, .hit .rear⟩, ⟨.leftTorso, 3, .explosion⟩,
    ⟨.leftArm, 5, .hit .left⟩]

/-- The torso keeps a point of armor in front, and is marked once. -/
theorem losses_of_absorbAll_sideHits :
    thinSide.HomeParts ∧ (thinSide.EachPart fun _ p => p.Nonneg) ∧ thinSide.Counted ∧
      (thinSide.takeDamage (thinSide.absorbAll [] sideHits)).part? .leftTorso =
        some { BodyPart.intact .leftTorso 2 1 3 with armor := 1, rearArmor := 0, internal := 0 } ∧
      (thinSide.absorbAll [] sideHits).countP
        (fun a => a.location == .leftTorso && a.destroyed) = 1 ∧
      (internalByLocation (thinSide.absorbAll [] sideHits)).get? .rightTorso = none := by
  have home : thinSide.HomeParts := by decide
  have nonneg : thinSide.EachPart fun _ p => p.Nonneg := by decide
  have counted : thinSide.Counted := by decide
  obtain ⟨hparts, -, hmissing, -⟩ :=
    losses_of_absorbAll thinSide home nonneg counted sideHits
  obtain ⟨q, hq, hloss, hmarks⟩ := hparts .leftTorso _ rfl
  subst hloss
  refine ⟨home, nonneg, counted, ?_, ?_, (hmissing .rightTorso rfl).2.1⟩
  · rw [hq]
    decide
  · rw [hmarks]
    decide

end BattleUnit

end MechBattle
