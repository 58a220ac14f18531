/-
The ledger of damage: absorptions noted down before any of them is applied.

A hit that is resolved on the unit as it stands is told what the earlier
hits absorb. It then spreads as it would on the unit that has taken all of
that already, as long as the notes form a ledger: each of them takes no more
than what the ones before it have left.

* `BattleUnit.EachPart`, `BattleUnit.Partwise`: a condition on all parts of a
  unit, and one on the parts of two units;
* `BodyPart.take_location`, `BodyPart.armorFacing_take`, `BodyPart.take_eq_of_le`: what an
  absorption does to a part;
* `Absorption.Fits` and `Ledger`: notes that never take more than there is;
* `Remains`: the part that is left after a ledger, and `Ledger.remains`: armor
  and structure left are those at first less the sums noted;
* `absorb_eq_live`: resolving after a ledger is resolving on the unit that has
  taken it;
* `ledger_absorb`: what a hit spreads is a ledger, and continues one.
-/
import Mathlib.Tactic
import MechBattle.Damage

namespace MechBattle

/-! ### Conditions on every part -/

instance Location.decidableForall {P : Location → Prop} [DecidablePred P] : Decidable (∀ l, P l) :=
  decidable_of_iff (∀ l ∈ Location.all, P l)
    ⟨fun h l => h l (Location.mem_all l), fun h l _ => h l⟩

/-- Whether every part of the unit satisfies a condition at its location. -/
def BattleUnit.EachPart (u : BattleUnit) (P : Location → BodyPart → Prop) : Prop :=
  ∀ l p, u.part? l = some p → P l p

instance (u : BattleUnit) (P : Location → BodyPart → Prop) [∀ l, DecidablePred (P l)] :
    Decidable (u.EachPart P) :=
  decidable_of_iff (∀ l, ∀ p ∈ u.part? l, P l p) Iff.rfl

instance (u : BattleUnit) : Decidable u.HomeParts :=
  inferInstanceAs (Decidable (u.EachPart fun l p => p.location = l))

/-- The units have parts at the same locations, and what is said of two parts
holds location by location. -/
structure BattleUnit.Partwise (u : BattleUnit) (R : BodyPart → BodyPart → Prop)
    (v : BattleUnit) : Prop where
  part : ∀ l p, u.part? l = some p → ∃ q, v.part? l = some q ∧ R p q
  missing : ∀ l, u.part? l = none → v.part? l = none

namespace BattleUnit.Partwise

variable {R : BodyPart → BodyPart → Prop} {u v w : BattleUnit}

lemma refl (hR : ∀ p, R p p) (u : BattleUnit) : u.Partwise R u where
  part _ p hp := ⟨p, hp, hR p⟩
  missing _ hl := hl

lemma trans (hR : ∀ {p q r}, R p q → R q r → R p r) (h : u.Partwise R v)
    (h' : v.Partwise R w) : u.Partwise R w where
  part l p hp := by
    obtain ⟨q, hq, hpq⟩ := h.part l p hp
    obtain ⟨r, hr, hqr⟩ := h'.part l q hq
    exact ⟨r, hr, hR hpq hqr⟩
  missing l hl := h'.missing l (h.missing l hl)

lemma imp {S : BodyPart → BodyPart → Prop} (hRS : ∀ {p q}, R p q → S p q)
    (h : u.Partwise R v) : u.Partwise S v where
  part l p hp := by
    obtain ⟨q, hq, hpq⟩ := h.part l p hp
    exact ⟨q, hq, hRS hpq⟩
  missing := h.missing

/-- Every part of the second unit belongs to one of the first. -/
lemma of_part (h : u.Partwise R v) {l : Location} {q : BodyPart} (hq : v.part? l = some q) :
    ∃ p, u.part? l = some p ∧ R p q := by
  cases hp : u.part? l with
  | none =>
      rw [h.missing l hp] at hq
      cases hq
  | some p =>
      obtain ⟨q', hq', hpq⟩ := h.part l p hp
      obtain rfl := Option.some.inj (hq'.symm.trans hq)
      exact ⟨p, rfl, hpq⟩

/-- What is said of the parts location by location holds of them in body order. -/
lemma values (h : u.Partwise R v) : List.Forall₂ R u.parts.values v.parts.values := by
  show List.Forall₂ R (Location.all.filterMap u.part?) (Location.all.filterMap v.part?)
  induction Location.all with
  | nil => exact .nil
  | cons l rest ih =>
      cases hp : u.part? l with
      | none =>
          rw [List.filterMap_cons_none hp, List.filterMap_cons_none (h.missing l hp)]
          exact ih
      | some p =>
          obtain ⟨q, hq, hpq⟩ := h.part l p hp
          rw [List.filterMap_cons_some hp, List.filterMap_cons_some hq]
          exact .cons hpq ih

/-- Units with the same parts. -/
lemma of_parts_eq (hR : ∀ p, R p p) (h : v.parts = u.parts) : u.Partwise R v := by
  have hpart : ∀ l, v.part? l = u.part? l := fun l => congrArg (·.get? l) h
  constructor
  · intro l p hp
    exact ⟨p, (hpart l).trans hp, hR p⟩
  · intro l hl
    exact (hpart l).trans hl

/-- A change of one part. -/
lemma modifyPart {f : BodyPart → BodyPart} (hself : ∀ p, R p p) (hf : ∀ p, R p (f p))
    (u : BattleUnit) (k : Location) : u.Partwise R (u.modifyPart k f) where
  part l p hp := by
    rw [BattleUnit.part?_modifyPart, hp]
    split
    · exact ⟨f p, rfl, hf p⟩
    · exact ⟨p, rfl, hself p⟩
  missing l hl := by rw [BattleUnit.part?_modifyPart, hl, Option.map_none, ite_self]

end BattleUnit.Partwise

/-! ### What an absorption takes -/

namespace BodyPart

variable (a : Absorption) (p : BodyPart)

@[simp] lemma take_location : (p.take a).location = p.location := by
  rw [take]
  split <;> rfl

@[simp] lemma take_internal : (p.take a).internal = max 0 (p.internal - a.internal) := by
  rw [take]
  split <;> rfl

/-- Only the side that was struck loses armor. -/
lemma armorFacing_take {rear : Bool} (ha : a.rear = true → p.location.hasRearArmor = true)
    (hr : rear = true → p.location.hasRearArmor = true) :
    (p.take a).armorFacing rear =
      if a.rear = rear then max 0 (p.armorFacing rear - a.armor) else p.armorFacing rear := by
  cases hs : a.rear <;> cases rear <;> simp_all [take, armorFacing]

/-- What a part can pay for it pays in full: nothing stops at zero. -/
lemma take_eq_of_le {a : Absorption} {p : BodyPart}
    (harmor : a.armor ≤ if a.rear then p.rearArmor else p.armor)
    (hinternal : a.internal ≤ p.internal) :
    p.take a =
      { p with
        armor := p.armor - if a.rear then 0 else a.armor
        rearArmor := p.rearArmor - if a.rear then a.armor else 0
        internal := p.internal - a.internal } := by
  cases hs : a.rear with
  | false =>
      rw [hs, if_neg Bool.false_ne_true] at harmor
      simp only [take, hs, Bool.false_eq_true, if_false, sub_zero, mk.injEq, true_and, and_true]
      omega
  | true =>
      rw [hs, if_pos rfl] at harmor
      simp only [take, hs, if_true, sub_zero, mk.injEq, true_and, and_true]
      omega

/-- The part after absorptions, one after the other. -/
def takeAll (taken : List Absorption) (p : BodyPart) : BodyPart :=
  taken.foldl (fun p a => p.take a) p

lemma takeAll_cons (taken : List Absorption) : takeAll (a :: taken) p = takeAll taken (p.take a) :=
  rfl

@[simp] lemma takeAll_location (taken : List Absorption) :
    (takeAll taken p).location = p.location := by
  induction taken generalizing p with
  | nil => rfl
  | cons a rest ih => rw [takeAll_cons, ih, take_location]

end BodyPart

namespace BattleUnit

lemma part?_takeOne (u : BattleUnit) (a : Absorption) (l : Location) :
    (u.takeOne a).part? l =
      if l = a.location then (u.part? l).map (BodyPart.take a) else u.part? l := by
  by_cases h : (u.part? a.location).isSome
  · rw [takeOne, if_pos h]
    exact u.part?_modifyPart a.location l (BodyPart.take a)
  · rw [takeOne, if_neg h]
    split
    · next hl =>
        subst hl
        rw [Option.not_isSome_iff_eq_none] at h
        rw [h, Option.map_none]
    · rfl

lemma part?_takeOne_self {u : BattleUnit} {a : Absorption} {p : BodyPart}
    (h : u.part? a.location = some p) : (u.takeOne a).part? a.location = some (p.take a) := by
  rw [part?_takeOne, if_pos rfl, h, Option.map_some]

lemma part?_takeOne_of_ne {u : BattleUnit} {a : Absorption} {l : Location}
    (h : l ≠ a.location) : (u.takeOne a).part? l = u.part? l := by
  rw [part?_takeOne, if_neg h]

lemma takeDamage_cons (u : BattleUnit) (a : Absorption) (taken : List Absorption) :
    u.takeDamage (a :: taken) = (u.takeOne a).takeDamage taken := rfl

lemma takeDamage_singleton (u : BattleUnit) (a : Absorption) :
    u.takeDamage [a] = u.takeOne a := rfl

/-- A part takes, one after the other, the absorptions of its own location. -/
lemma part?_takeDamage (u : BattleUnit) (taken : List Absorption) (l : Location) :
    (u.takeDamage taken).part? l =
      (u.part? l).map (BodyPart.takeAll (taken.filter (·.location == l))) := by
  induction taken generalizing u with
  | nil => exact Option.map_id'.symm
  | cons a rest ih =>
      rw [takeDamage_cons, ih, part?_takeOne]
      by_cases hl : l = a.location
      · rw [if_pos hl, Option.map_map, List.filter_cons_of_pos (by simp [hl])]
        rfl
      · rw [if_neg hl, List.filter_cons_of_neg (by simpa using Ne.symm hl)]

lemma HomeParts.takeDamage {u : BattleUnit} (home : u.HomeParts) (taken : List Absorption) :
    (u.takeDamage taken).HomeParts := by
  intro l q hq
  rw [part?_takeDamage] at hq
  obtain ⟨p, hp, rfl⟩ := Option.map_eq_some_iff.mp hq
  rw [BodyPart.takeAll_location]
  exact home l p hp

lemma HomeParts.takeOne {u : BattleUnit} (home : u.HomeParts) (a : Absorption) :
    (u.takeOne a).HomeParts :=
  home.takeDamage [a]

end BattleUnit

/-! ### Sums of what was noted -/

lemma priorInternal_append_singleton (taken : List Absorption) (a : Absorption) (l : Location) :
    priorInternal (taken ++ [a]) l =
      if a.location = l then Counter.add (priorInternal taken l) a.internal
      else priorInternal taken l := by
  by_cases h : a.location = l <;> simp [priorInternal, List.filter_append, h]

lemma priorArmor_append_singleton (taken : List Absorption) (a : Absorption) (l : Location)
    (rear : Bool) :
    priorArmor (taken ++ [a]) l rear =
      if a.location = l ∧ a.rear = rear then Counter.add (priorArmor taken l rear) a.armor
      else priorArmor taken l rear := by
  by_cases h : a.location = l <;> by_cases hr : a.rear = rear <;>
    simp [priorArmor, List.filter_append, h, hr]

/-! ### Ledgers -/

/-- The absorption takes from a part no more than it has, on the side that the
absorption names. -/
structure Absorption.Fits (a : Absorption) (p : BodyPart) : Prop where
  armor_nonneg : 0 ≤ a.armor
  internal_nonneg : 0 ≤ a.internal
  armor_le : a.armor ≤ max 0 (p.armorFacing a.rear)
  internal_le : a.internal ≤ max 0 p.internal
  rear : a.rear = true → p.location.hasRearArmor = true

/-- Absorptions of which each fits the unit that has taken the ones before it. -/
inductive Ledger (u : BattleUnit) : List Absorption → Prop
  | nil : Ledger u []
  | snoc {taken : List Absorption} {a : Absorption} {p : BodyPart} (before : Ledger u taken)
      (part : (u.takeDamage taken).part? a.location = some p) (fits : a.Fits p) :
      Ledger u (taken ++ [a])

namespace Ledger

variable {u : BattleUnit} {taken later : List Absorption}

lemma append (h : Ledger u taken) (h' : Ledger (u.takeDamage taken) later) :
    Ledger u (taken ++ later) := by
  induction h' with
  | nil => rwa [List.append_nil]
  | snoc _ part fits ih =>
      rw [← List.append_assoc]
      refine ih.snoc ?_ fits
      rwa [BattleUnit.takeDamage_append]

lemma cons {a : Absorption} {p : BodyPart} (h : Ledger (u.takeOne a) later)
    (part : u.part? a.location = some p) (fits : a.Fits p) : Ledger u (a :: later) := by
  have first : Ledger u [a] := snoc nil part fits
  exact first.append h

/-- A ledger never gives anything back. -/
lemma nonneg (h : Ledger u taken) : ∀ a ∈ taken, 0 ≤ a.armor ∧ 0 ≤ a.internal := by
  induction h with
  | nil => exact fun _ ha => absurd ha List.not_mem_nil
  | snoc _ _ fits ih =>
      exact List.forall_mem_append.mpr ⟨ih, List.forall_mem_singleton.mpr
        ⟨fits.armor_nonneg, fits.internal_nonneg⟩⟩

/-- A ledger takes from locations that the unit has. -/
lemma isSome_part? (h : Ledger u taken) : ∀ a ∈ taken, (u.part? a.location).isSome := by
  induction h with
  | nil => exact fun _ ha => absurd ha List.not_mem_nil
  | snoc _ part _ ih =>
      refine List.forall_mem_append.mpr ⟨ih, List.forall_mem_singleton.mpr ?_⟩
      rw [BattleUnit.part?_takeDamage, Option.map_eq_some_iff] at part
      obtain ⟨p, hp, -⟩ := part
      exact Option.isSome_of_eq_some hp

end Ledger

/-- The counters of a part lie in the range of counters. -/
structure BodyPart.Counted (p : BodyPart) : Prop where
  armor : Counter.Mem p.armor
  rearArmor : Counter.Mem p.rearArmor
  internal : Counter.Mem p.internal

instance (p : BodyPart) : Decidable p.Counted :=
  decidable_of_iff (Counter.Mem p.armor ∧ Counter.Mem p.rearArmor ∧ Counter.Mem p.internal)
    ⟨fun ⟨ha, hr, hi⟩ => ⟨ha, hr, hi⟩, fun h => ⟨h.armor, h.rearArmor, h.internal⟩⟩

/-- The counters of all parts lie in the range of counters. -/
def BattleUnit.Counted (u : BattleUnit) : Prop := u.EachPart fun _ p => p.Counted

instance (u : BattleUnit) : Decidable u.Counted :=
  inferInstanceAs (Decidable (u.EachPart fun _ p => p.Counted))

lemma BodyPart.Counted.armorFacing {p : BodyPart} (h : p.Counted) (rear : Bool) :
    Counter.Mem (p.armorFacing rear) := by
  rw [BodyPart.armorFacing]
  split
  · exact h.rearArmor
  · exact h.armor

/-- At the location `l`, `q` is what is left of `p` once the absorptions are
taken: what they absorb there and what is left of it add up to what there was. -/
structure Remains (taken : List Absorption) (l : Location) (p q : BodyPart) : Prop where
  location : q.location = p.location
  internal : max 0 q.internal + priorInternal taken l = max 0 p.internal
  internal_nonneg : 0 ≤ priorInternal taken l
  armor : ∀ rear, (rear = true → l.hasRearArmor = true) →
    max 0 (q.armorFacing rear) + priorArmor taken l rear = max 0 (p.armorFacing rear)
  armor_nonneg : ∀ rear, (rear = true → l.hasRearArmor = true) → 0 ≤ priorArmor taken l rear

lemma Remains.nil (l : Location) (p : BodyPart) : Remains [] l p p where
  location := rfl
  internal := Int.add_zero _
  internal_nonneg := le_rfl
  armor _ _ := Int.add_zero _
  armor_nonneg _ _ := le_rfl

/-- An absorption elsewhere leaves the location as it was. -/
lemma Remains.snoc_of_ne {taken : List Absorption} {a : Absorption} {l : Location}
    {p q : BodyPart} (h : Remains taken l p q) (hl : a.location ≠ l) :
    Remains (taken ++ [a]) l p q := by
  have hi : priorInternal (taken ++ [a]) l = priorInternal taken l := by
    rw [priorInternal_append_singleton, if_neg hl]
  have ha : ∀ rear, priorArmor (taken ++ [a]) l rear = priorArmor taken l rear := by
    intro rear
    rw [priorArmor_append_singleton, if_neg fun h => hl h.1]
  constructor
  · exact h.location
  · rw [hi]
    exact h.internal
  · rw [hi]
    exact h.internal_nonneg
  · intro rear hr
    rw [ha]
    exact h.armor rear hr
  · intro rear hr
    rw [ha]
    exact h.armor_nonneg rear hr

/-- A sum of counters that stays between zero and a counter is exact. -/
lemma Counter.add_eq {m n k : Int} (hk : Mem k) (h₀ : 0 ≤ m + n) (h : m + n ≤ max 0 k) :
    add m n = m + n := by
  refine clamp_of_mem ⟨?_, ?_⟩
  · rw [least]
    omega
  · have := hk.2
    rw [greatest] at this ⊢
    omega

/-- An absorption that fits what is left is paid for in full. -/
lemma Remains.snoc {taken : List Absorption} {a : Absorption} {l : Location} {p q : BodyPart}
    (h : Remains taken l p q) (hl : a.location = l) (counted : p.Counted)
    (home : p.location = l) (fits : a.Fits q) : Remains (taken ++ [a]) l p (q.take a) := by
  have hi : priorInternal (taken ++ [a]) l = priorInternal taken l + a.internal := by
    rw [priorInternal_append_singleton, if_pos hl]
    have := h.internal
    have := h.internal_nonneg
    have := fits.internal_nonneg
    have := fits.internal_le
    exact Counter.add_eq counted.internal (by omega) (by omega)
  have ha : ∀ rear, (rear = true → l.hasRearArmor = true) →
      priorArmor (taken ++ [a]) l rear =
        priorArmor taken l rear + if a.rear = rear then a.armor else 0 := by
    intro rear hr
    rw [priorArmor_append_singleton]
    by_cases hs : a.rear = rear
    · subst hs
      rw [if_pos ⟨hl, rfl⟩, if_pos rfl]
      have := h.armor a.rear hr
      have := h.armor_nonneg a.rear hr
      have := fits.armor_nonneg
      have := fits.armor_le
      exact Counter.add_eq (counted.armorFacing a.rear) (by omega) (by omega)
    · rw [if_neg fun h => hs h.2, if_neg hs, Int.add_zero]
  have hq : q.location = l := h.location.trans home
  constructor
  · rw [BodyPart.take_location, h.location]
  · rw [hi, BodyPart.take_internal]
    have := h.internal
    have := fits.internal_nonneg
    have := fits.internal_le
    omega
  · rw [hi]
    have := h.internal_nonneg
    have := fits.internal_nonneg
    omega
  · intro rear hr
    rw [ha rear hr, BodyPart.armorFacing_take a q fits.rear (by rwa [hq])]
    have := h.armor rear hr
    by_cases hs : a.rear = rear
    · subst hs
      have := fits.armor_nonneg
      have := fits.armor_le
      rw [if_pos rfl, if_pos rfl]
      omega
    · rw [if_neg hs, if_neg hs, Int.add_zero]
      exact this
  · intro rear hr
    rw [ha rear hr]
    have := h.armor_nonneg rear hr
    have := fits.armor_nonneg
    split <;> omega

/-- What a ledger notes and what it leaves of a part add up to the part. -/
lemma Ledger.remains {u : BattleUnit} {taken : List Absorption} (ledger : Ledger u taken)
    (home : u.HomeParts) (counted : u.Counted) {l : Location} {p : BodyPart}
    (hp : u.part? l = some p) :
    ∃ q : BodyPart, (u.takeDamage taken).part? l = some q ∧ Remains taken l p q := by
  induction ledger with
  | nil => exact ⟨p, hp, .nil l p⟩
  | @snoc taken a q₀ _ part fits ih =>
      obtain ⟨q, hq, hrem⟩ := ih
      rw [BattleUnit.takeDamage_append, BattleUnit.takeDamage_singleton]
      by_cases hl : a.location = l
      · subst hl
        obtain rfl : q = q₀ := Option.some.inj (hq.symm.trans part)
        exact ⟨q.take a, BattleUnit.part?_takeOne_self hq,
          hrem.snoc rfl (counted _ p hp) (home _ p hp) fits⟩
      · exact ⟨q, by rw [BattleUnit.part?_takeOne_of_ne (Ne.symm hl), hq], hrem.snoc_of_ne hl⟩

/-! ### Resolving after a ledger -/

namespace Remains

variable {taken : List Absorption} {l : Location} {p q : BodyPart}

/-- The structure left by the notes is the structure left in the part. -/
lemma internalLeft_eq (h : Remains taken l p q) (counted : p.Counted) :
    p.internalLeft taken l = q.internalLeft [] l := by
  have hi := h.internal
  have hn := h.internal_nonneg
  have hc := counted.internal.2
  simp only [BodyPart.internalLeft, Counter.sub, Counter.clamp, priorInternal, List.filter_nil,
    List.foldl_nil, Counter.least, Counter.greatest] at hi hn hc ⊢
  omega

/-- The armor left by the notes is the armor left on the part. -/
lemma armorLeft_eq (h : Remains taken l p q) (counted : p.Counted) (impact : Impact) :
    p.armorLeft impact taken l = q.armorLeft impact [] l := by
  cases impact with
  | explosion => rfl
  | hit side =>
      have hr : (Impact.hit side).meetsRear l = true → l.hasRearArmor = true := by
        cases side <;> simp [Impact.meetsRear]
      have ha := h.armor _ hr
      have hn := h.armor_nonneg _ hr
      have hc := (counted.armorFacing ((Impact.hit side).meetsRear l)).2
      simp only [BodyPart.armorLeft, Counter.sub, Counter.clamp, priorArmor, List.filter_nil,
        List.foldl_nil, Counter.least, Counter.greatest] at ha hn hc ⊢
      omega

end Remains

namespace BattleUnit

variable {u v : BattleUnit} {taken : List Absorption}

/-- A hit told what was taken before spreads as it does without notes on the
unit that has taken it. -/
lemma absorbAlong_eq_live (ledger : Ledger u taken) (home : u.HomeParts) (counted : u.Counted)
    (impact : Impact) (chain : List Location) (damage : Int) :
    u.absorbAlong impact taken chain damage =
      (u.takeDamage taken).absorbAlong impact [] chain damage := by
  induction chain generalizing damage with
  | nil => rfl
  | cons l chain ih =>
      cases hp : u.part? l with
      | none =>
          have hq : (u.takeDamage taken).part? l = none := by
            rw [part?_takeDamage, hp, Option.map_none]
          rw [absorbAlong, absorbAlong, hp, hq]
      | some p =>
          obtain ⟨q, hq, hrem⟩ := ledger.remains home counted hp
          have hc := counted l p hp
          simp only [absorbAlong, hp, hq, hrem.internalLeft_eq hc, hrem.armorLeft_eq hc, ih]

/-- **Resolving after a ledger is resolving on the unit that has taken it.** -/
lemma absorb_eq_live (ledger : Ledger u taken) (home : u.HomeParts) (counted : u.Counted)
    (l : Location) (damage : Int) (impact : Impact) :
    u.absorb l damage impact taken = (u.takeDamage taken).absorb l damage impact [] := by
  rw [absorb, absorb, absorbAlong_eq_live ledger home counted]

/-! ### What a hit spreads is a ledger -/

/-- The way along a chain depends on the parts of that chain only. -/
lemma absorbAlong_congr {chain : List Location} (h : ∀ l ∈ chain, u.part? l = v.part? l)
    (impact : Impact) (damage : Int) :
    u.absorbAlong impact taken chain damage = v.absorbAlong impact taken chain damage := by
  induction chain generalizing damage with
  | nil => rfl
  | cons l chain ih =>
      have ih := ih fun k hk => h k (List.mem_cons_of_mem l hk)
      simp only [absorbAlong, h l List.mem_cons_self, ih]

lemma absorb_congr (h : ∀ l, u.part? l = v.part? l) (l : Location) (damage : Int)
    (impact : Impact) : u.absorb l damage impact taken = v.absorb l damage impact taken := by
  rw [absorb, absorb, absorbAlong_congr fun k _ => h k]

/-- What was taken off the chain does not show on it. -/
lemma absorbAlong_takeOne {a : Absorption} {chain : List Location} (h : a.location ∉ chain)
    (impact : Impact) (damage : Int) :
    (u.takeOne a).absorbAlong impact taken chain damage =
      u.absorbAlong impact taken chain damage := by
  refine absorbAlong_congr (fun l hl => part?_takeOne_of_ne ?_) impact damage
  rintro rfl
  exact h hl

/-- What a part without notes takes of some damage fits the part. -/
lemma fits_of_unnoted {p : BodyPart} {l : Location} (home : p.location = l) {damage : Int}
    (hd : 0 < damage) (impact : Impact) (destroyed : Bool) :
    (⟨l, min damage (p.armorLeft impact [] l),
      min (damage - min damage (p.armorLeft impact [] l)) (p.internalLeft [] l),
      impact.meetsRear l, destroyed⟩ : Absorption).Fits p := by
  have ha : 0 ≤ p.armorLeft impact [] l ∧
      p.armorLeft impact [] l ≤ max 0 (p.armorFacing (impact.meetsRear l)) := by
    cases impact <;>
      simp only [BodyPart.armorLeft, Counter.sub, Counter.clamp, Counter.least, Counter.greatest,
        priorArmor, List.filter_nil, List.foldl_nil] <;> omega
  have hi : 0 ≤ p.internalLeft [] l ∧ p.internalLeft [] l ≤ max 0 p.internal := by
    simp only [BodyPart.internalLeft, Counter.sub, Counter.clamp, Counter.least,
      Counter.greatest, priorInternal, List.filter_nil, List.foldl_nil]
    omega
  constructor
  · simp only
    omega
  · simp only
    omega
  · simp only
    omega
  · simp only
    omega
  · intro hr
    rw [home]
    revert hr
    cases impact with
    | explosion => simp [Impact.meetsRear]
    | hit side => cases side <;> simp [Impact.meetsRear]

lemma ledger_cons_absorbAlong {a : Absorption} {p : BodyPart} {impact : Impact}
    {chain : List Location} {damage : Int} (part : u.part? a.location = some p) (fits : a.Fits p)
    (hl : a.location ∉ chain)
    (later : Ledger (u.takeOne a) ((u.takeOne a).absorbAlong impact [] chain damage)) :
    Ledger u (a :: u.absorbAlong impact [] chain damage) := by
  rw [absorbAlong_takeOne hl] at later
  exact later.cons part fits

lemma ledger_absorbAlong (home : u.HomeParts) (impact : Impact) {chain : List Location}
    (nodup : chain.Nodup) {damage : Int} (hd : 0 < damage) :
    Ledger u (u.absorbAlong impact [] chain damage) := by
  induction chain generalizing u damage with
  | nil => exact .nil
  | cons l chain ih =>
      obtain ⟨hl, nodup⟩ := List.nodup_cons.mp nodup
      rw [absorbAlong]
      cases hp : u.part? l with
      | none => exact .nil
      | some p =>
          simp only
          split
          · exact ih home nodup hd
          · have fits := fits_of_unnoted (home l p hp) hd impact
            split
            · next hx =>
                simp only [Bool.and_eq_true, decide_eq_true_eq] at hx
                exact ledger_cons_absorbAlong hp (fits _) hl (ih (home.takeOne _) nodup hx.2)
            · exact Ledger.nil.cons hp (fits _)

/-- What one hit spreads on a unit fits it, location by location. -/
lemma ledger_absorb_nil (home : u.HomeParts) (l : Location) (damage : Int) (impact : Impact) :
    Ledger u (u.absorb l damage impact []) := by
  rw [absorb]
  split
  · exact .nil
  · exact ledger_absorbAlong home impact (Location.nodup_chain l) (by omega)

/-- What a hit spreads after a ledger continues it. -/
lemma ledger_absorb (ledger : Ledger u taken) (home : u.HomeParts) (counted : u.Counted)
    (l : Location) (damage : Int) (impact : Impact) :
    Ledger u (taken ++ u.absorb l damage impact taken) := by
  rw [absorb_eq_live ledger home counted]
  exact ledger.append (ledger_absorb_nil (home.takeDamage taken) l damage impact)

end BattleUnit

end MechBattle
