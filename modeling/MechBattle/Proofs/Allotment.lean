/-
How a hit is shared out among the locations on its way.

A hit goes down the chain of locations from the one it strikes, as far as the unit has them.
Each of them holds the armor that it has left on the side that is struck and the structure
that it has left, and one without structure holds nothing. The damage fills them in order,
so that what one of them takes depends only on the room that the ones before it have.

* `notedArmor`, `notedInternal`: what earlier hits took, without a ceiling, with
  `priorArmor_eq` and `priorInternal_eq` for the sums that stop at the edges;
* `BattleUnit.capacity`: the room that a location has, and `BattleUnit.reach`: the locations
  on the way;
* `upstream`, `filled`: the room before a location, and the locations that some damage comes
  to;
* `BattleUnit.allot`: what a location takes of the damage that comes to it;
* `absorbAlong_cons`: one step of a hit, and `absorbAlong_eq`: all of them;
* `absorb_allotted`: the whole hit.
-/
import Mathlib.Data.List.TakeWhile
import MechBattle.BattleUnit.Assembly
import MechBattle.Proofs.Flow
import MechBattle.Proofs.Totals

namespace MechBattle

/-! ### What was noted before -/

/-- Armor noted at a location on one side, without a ceiling. -/
def notedArmor (already : List Absorption) (l : Location) (rear : Bool) : Int :=
  ((already.filter fun a => a.location == l && a.rear == rear).map (·.armor)).sum

/-- Structure noted at a location, without a ceiling. -/
def notedInternal (already : List Absorption) (l : Location) : Int :=
  ((already.filter fun a => a.location == l).map (·.internal)).sum

section Noted

variable {already : List Absorption}

lemma noted_nonneg {value : Absorption → Int} (h : ∀ a ∈ already, 0 ≤ value a)
    (select : Absorption → Bool) : ∀ m ∈ (already.filter select).map value, 0 ≤ m :=
  List.forall_mem_map.mpr fun a ha => h a (List.mem_of_mem_filter ha)

/-- Among notes of which none is negative, a sum that stops at the edges stops at the
ceiling alone. -/
lemma foldl_noted {value : Absorption → Int} (h : ∀ a ∈ already, 0 ≤ value a)
    (select : Absorption → Bool) :
    (already.filter select).foldl (fun n a => Counter.add n (value a)) 0 =
      min Counter.greatest ((already.filter select).map value).sum := by
  rw [← List.foldl_map (f := value),
    Counter.foldl_add_of_nonneg le_rfl (by decide) (noted_nonneg h select), Int.zero_add]

variable (nonneg : ∀ a ∈ already, 0 ≤ a.armor ∧ 0 ≤ a.internal)
include nonneg

lemma notedArmor_nonneg (l : Location) (rear : Bool) : 0 ≤ notedArmor already l rear :=
  List.sum_nonneg (noted_nonneg (fun a ha => (nonneg a ha).1) _)

lemma notedInternal_nonneg (l : Location) : 0 ≤ notedInternal already l :=
  List.sum_nonneg (noted_nonneg (fun a ha => (nonneg a ha).2) _)

lemma priorArmor_eq (l : Location) (rear : Bool) :
    priorArmor already l rear = min Counter.greatest (notedArmor already l rear) :=
  foldl_noted (fun a ha => (nonneg a ha).1) _

lemma priorInternal_eq (l : Location) :
    priorInternal already l = min Counter.greatest (notedInternal already l) :=
  foldl_noted (fun a ha => (nonneg a ha).2) _

end Noted

/-! ### Filling one location after the other -/

/-- The room of the locations before a given one. -/
def upstream (room : Location → Int) (chain : List Location) (k : Location) : Int :=
  ((chain.takeWhile (· != k)).map room).sum

/-- The locations with some room that damage comes to. -/
def filled (room : Location → Int) (chain : List Location) (d : Int) : List Location :=
  chain.filter fun k => decide (0 < room k ∧ upstream room chain k < d)

section Filling

variable {room : Location → Int} {chain : List Location} {k l : Location} {d : Int}

lemma upstream_cons_self : upstream room (l :: chain) l = 0 := by
  rw [upstream, List.takeWhile_cons_of_neg (by simp)]
  rfl

lemma upstream_cons_of_ne (h : l ≠ k) :
    upstream room (l :: chain) k = room l + upstream room chain k := by
  rw [upstream, List.takeWhile_cons_of_pos (by simpa using h), List.map_cons, List.sum_cons,
    upstream]

lemma upstream_nonneg (hroom : ∀ k, 0 ≤ room k) (chain : List Location) (k : Location) :
    0 ≤ upstream room chain k :=
  List.sum_nonneg (List.forall_mem_map.mpr fun l _ => hroom l)

lemma filled_of_le (hroom : ∀ k, 0 ≤ room k) (hd : d ≤ 0) : filled room chain d = [] := by
  refine List.filter_eq_nil_iff.mpr fun k _ => ?_
  have := upstream_nonneg hroom chain k
  rw [decide_eq_true_eq]
  omega

/-- What the first location has no room for comes to the others. -/
lemma filled_cons (hl : l ∉ chain) :
    filled room (l :: chain) d =
      if 0 < room l ∧ 0 < d then l :: filled room chain (d - room l)
      else filled room chain (d - room l) := by
  have hrest : chain.filter (fun k => decide (0 < room k ∧ upstream room (l :: chain) k < d)) =
      filled room chain (d - room l) := by
    refine List.filter_congr fun k hk => ?_
    rw [upstream_cons_of_ne (ne_of_mem_of_not_mem hk hl).symm]
    exact decide_eq_decide.mpr (and_congr_right' lt_sub_iff_add_lt'.symm)
  rw [filled, List.filter_cons, upstream_cons_self, hrest]
  simp only [decide_eq_true_eq]

end Filling

/-! ### The room of a location -/

namespace BattleUnit

/-- The locations on the way of a hit, up to the first one that the unit lacks. -/
def reach (u : BattleUnit) (l : Location) : List Location :=
  l.chain.takeWhile fun k => (u.part? k).isSome

/-- The structure that is left at a location. -/
def structureLeft (u : BattleUnit) (already : List Absorption) (l : Location) : Int :=
  match u.part? l with
  | some p => max 0 (p.internal - notedInternal already l)
  | none => 0

/-- The armor that is left at a location on the side that is struck. Nothing stands in the
way of an explosion. -/
def armorLeft (u : BattleUnit) (impact : Impact) (already : List Absorption) (l : Location) :
    Int :=
  match impact, u.part? l with
  | .hit side, some p =>
    let rear := (Impact.hit side).meetsRear l
    max 0 ((if rear then p.rearArmor else p.armor) - notedArmor already l rear)
  | _, _ => 0

/-- The room that a location has for damage: none without structure. -/
def capacity (u : BattleUnit) (impact : Impact) (already : List Absorption) (l : Location) :
    Int :=
  if u.structureLeft already l = 0 then 0
  else u.armorLeft impact already l + u.structureLeft already l

/-- What a location takes of the damage that comes to it: armor first, and then structure. -/
def allot (u : BattleUnit) (impact : Impact) (already : List Absorption) (l : Location)
    (d : Int) : Absorption :=
  let armor := min d (u.armorLeft impact already l)
  let internal := min (d - armor) (u.structureLeft already l)
  ⟨l, armor, internal, impact.meetsRear l, decide (internal = u.structureLeft already l)⟩

variable {u : BattleUnit} {impact : Impact} {already : List Absorption} {k l : Location}
  {chain : List Location} {d : Int} {p : BodyPart}

lemma structureLeft_nonneg (u : BattleUnit) (already : List Absorption) (l : Location) :
    0 ≤ u.structureLeft already l := by
  rw [structureLeft]
  split
  · exact le_max_left _ _
  · exact le_rfl

lemma armorLeft_nonneg (u : BattleUnit) (impact : Impact) (already : List Absorption)
    (l : Location) : 0 ≤ u.armorLeft impact already l := by
  rw [armorLeft.eq_def]
  split
  · exact le_max_left _ _
  · exact le_rfl

lemma capacity_nonneg (u : BattleUnit) (impact : Impact) (already : List Absorption)
    (l : Location) : 0 ≤ u.capacity impact already l := by
  have := u.structureLeft_nonneg already l
  have := u.armorLeft_nonneg impact already l
  rw [capacity]
  split <;> omega

lemma capacity_of_pos (h : 0 < u.capacity impact already l) :
    u.capacity impact already l = u.armorLeft impact already l + u.structureLeft already l := by
  rw [capacity] at h ⊢
  split at h
  · omega
  · next hstanding => rw [if_neg hstanding]

/-- A location with room for damage takes all of it, or as much as it has room for. -/
lemma allot_sum (d : Int) (h : 0 < u.capacity impact already l) :
    (u.allot impact already l d).armor + (u.allot impact already l d).internal =
      min (u.capacity impact already l) d := by
  have := u.structureLeft_nonneg already l
  have := u.armorLeft_nonneg impact already l
  rw [capacity_of_pos h]
  simp only [allot]
  omega

lemma allot_rear_iff (d : Int) :
    (u.allot impact already l d).rear = true ↔
      impact = .hit .rear ∧ l.hasRearArmor = true := by
  cases impact with
  | explosion => simp [allot, Impact.meetsRear]
  | hit side => cases side <;> simp [allot, Impact.meetsRear]

lemma allot_of_explosion (hd : 0 ≤ d) :
    (u.allot .explosion already l d).armor = 0 ∧ (u.allot .explosion already l d).rear = false :=
  ⟨min_eq_right hd, rfl⟩

section Counters

variable (nonneg : ∀ a ∈ already, 0 ≤ a.armor ∧ 0 ≤ a.internal)
include nonneg

lemma internalLeft_eq (counted : u.Counted) (hp : u.part? l = some p) :
    p.internalLeft already l = u.structureLeft already l := by
  have hnoted := notedInternal_nonneg nonneg l
  obtain ⟨-, -, hleast, hgreatest⟩ := counted l p hp
  simp only [structureLeft, hp, BodyPart.internalLeft, priorInternal_eq nonneg, Counter.sub,
    Counter.clamp, Counter.least, Counter.greatest] at hnoted hleast hgreatest ⊢
  omega

lemma armorLeft_eq (home : u.HomeParts) (counted : u.Counted) (impact : Impact)
    (hp : u.part? l = some p) :
    p.armorLeft impact already l = u.armorLeft impact already l := by
  cases impact with
  | explosion => rfl
  | hit side =>
      set rear := (Impact.hit side).meetsRear l with hrear
      have hfacing : p.armorFacing rear = if rear then p.rearArmor else p.armor := by
        have htorso : (rear && l.hasRearArmor) = rear := by
          cases side <;> simp [hrear, Impact.meetsRear]
        rw [BodyPart.armorFacing, home l p hp, htorso]
      have hnoted := notedArmor_nonneg nonneg l rear
      obtain ⟨hleast, hgreatest⟩ := (counted l p hp).armorFacing rear
      simp only [armorLeft, hp, BodyPart.armorLeft, ← hrear, ← hfacing, priorArmor_eq nonneg,
        Counter.sub, Counter.clamp, Counter.least, Counter.greatest]
        at hnoted hleast hgreatest ⊢
      omega

/-- **One step of a hit.** A location without room is passed over, and one with room takes
its part; what it has no room for goes on. -/
lemma absorbAlong_cons (home : u.HomeParts) (counted : u.Counted) (hp : u.part? l = some p)
    (chain : List Location) (d : Int) :
    u.absorbAlong impact already (l :: chain) d =
      if u.capacity impact already l = 0 then u.absorbAlong impact already chain d
      else u.allot impact already l d ::
        if u.capacity impact already l < d then
          u.absorbAlong impact already chain (d - u.capacity impact already l)
        else [] := by
  have hstructure := u.structureLeft_nonneg already l
  have harmor := u.armorLeft_nonneg impact already l
  simp only [absorbAlong, hp, internalLeft_eq nonneg counted hp,
    armorLeft_eq nonneg home counted impact hp, Bool.and_eq_true, decide_eq_true_eq]
  by_cases hs : u.structureLeft already l = 0
  · have hcap : u.capacity impact already l = 0 := if_pos hs
    rw [if_pos hs, if_pos hcap]
  · have hcap : u.capacity impact already l =
        u.armorLeft impact already l + u.structureLeft already l := if_neg hs
    have hroom : u.capacity impact already l ≠ 0 := by omega
    rw [if_neg hs, if_neg hroom, allot, hcap]
    by_cases hover : u.armorLeft impact already l + u.structureLeft already l < d
    · have harmor : min d (u.armorLeft impact already l) = u.armorLeft impact already l := by
        omega
      have hinternal : min (d - u.armorLeft impact already l) (u.structureLeft already l) =
          u.structureLeft already l := by omega
      rw [if_pos hover, harmor, hinternal, if_pos ⟨rfl, by omega⟩, Int.sub_sub]
    · rw [if_neg hover, if_neg (by omega)]

/-- **The whole way of a hit.** Each location with room that some damage comes to takes its
part of what the ones before it leave. -/
lemma absorbAlong_eq (home : u.HomeParts) (counted : u.Counted) (impact : Impact)
    (nodup : chain.Nodup) (full : ∀ k ∈ chain, (u.part? k).isSome) (hd : 0 < d) :
    u.absorbAlong impact already chain d =
      (filled (u.capacity impact already) chain d).map fun k =>
        u.allot impact already k (d - upstream (u.capacity impact already) chain k) := by
  -- Down the chain the damage shrinks by the room passed, and so does what lies upstream.
  induction chain generalizing d with
  | nil => rfl
  | cons l chain ih =>
      obtain ⟨hl, nodup⟩ := List.nodup_cons.mp nodup
      obtain ⟨hsome, full⟩ := List.forall_mem_cons.mp full
      obtain ⟨p, hp⟩ := Option.isSome_iff_exists.mp hsome
      set room := u.capacity impact already with hroom
      have hroom_nonneg : ∀ k, 0 ≤ room k := u.capacity_nonneg impact already
      have hlater : ((filled room chain (d - room l)).map fun k =>
          u.allot impact already k (d - upstream room (l :: chain) k)) =
            (filled room chain (d - room l)).map fun k =>
              u.allot impact already k (d - room l - upstream room chain k) := by
        refine List.map_congr_left fun k hk => ?_
        have hne : l ≠ k := (ne_of_mem_of_not_mem (List.mem_of_mem_filter hk) hl).symm
        rw [upstream_cons_of_ne hne, Int.sub_sub]
      rw [absorbAlong_cons nonneg home counted hp, ← hroom]
      by_cases hempty : room l = 0
      · rw [if_pos hempty, filled_cons hl, if_neg (by omega), hlater, hempty, Int.sub_zero]
        exact ih nodup full hd
      · have hpos : 0 < room l := lt_of_le_of_ne (hroom_nonneg l) (Ne.symm hempty)
        have hfirst : filled room (l :: chain) d = l :: filled room chain (d - room l) := by
          rw [filled_cons hl, if_pos ⟨hpos, hd⟩]
        rw [if_neg hempty, hfirst, List.map_cons, upstream_cons_self, Int.sub_zero, hlater]
        by_cases hover : room l < d
        · rw [if_pos hover, ih nodup full (by omega)]
        · rw [if_neg hover, filled_of_le hroom_nonneg (by omega), List.map_nil]

/-- The damage is taken in full, or as much of it as there is room for. -/
lemma grossTaken_absorbAlong (home : u.HomeParts) (counted : u.Counted)
    (full : ∀ k ∈ chain, (u.part? k).isSome) (hd : 0 ≤ d) :
    grossTaken (u.absorbAlong impact already chain d) =
      min d (chain.map (u.capacity impact already)).sum := by
  induction chain generalizing d with
  | nil => exact (min_eq_right hd).symm
  | cons l chain ih =>
      obtain ⟨hsome, full⟩ := List.forall_mem_cons.mp full
      obtain ⟨p, hp⟩ := Option.isSome_iff_exists.mp hsome
      have hroom := u.capacity_nonneg impact already l
      have hrest : 0 ≤ (chain.map (u.capacity impact already)).sum :=
        List.sum_nonneg (List.forall_mem_map.mpr fun k _ => u.capacity_nonneg impact already k)
      rw [absorbAlong_cons nonneg home counted hp, List.map_cons, List.sum_cons]
      by_cases hempty : u.capacity impact already l = 0
      · rw [if_pos hempty, hempty, Int.zero_add, ih full hd]
      · rw [if_neg hempty, grossTaken_cons, allot_sum d (by omega)]
        by_cases hover : u.capacity impact already l < d
        · rw [if_pos hover, ih full (by omega)]
          omega
        · rw [if_neg hover, grossTaken, List.map_nil, List.sum_nil]
          omega

end Counters

/-- Beyond the first location that the unit lacks nothing is taken. -/
lemma absorbAlong_takeWhile (u : BattleUnit) (impact : Impact) (already : List Absorption)
    (chain : List Location) (d : Int) :
    u.absorbAlong impact already chain d =
      u.absorbAlong impact already (chain.takeWhile fun k => (u.part? k).isSome) d := by
  induction chain generalizing d with
  | nil => rfl
  | cons l chain ih =>
      cases hp : u.part? l with
      | none => simp [absorbAlong, hp]
      | some p =>
          rw [List.takeWhile_cons_of_pos (by simp [hp])]
          simp only [absorbAlong, hp, ih]

lemma mem_dropLast_cons {α : Type} {x a : α} {rest : List α} (h : x ∈ (a :: rest).dropLast) :
    x = a ∨ x ∈ rest.dropLast := by
  cases rest with
  | nil => cases h
  | cons b rest => exact List.mem_cons.mp h

/-- A hit goes on only from a location that gives way. -/
lemma destroyed_of_mem_dropLast {a : Absorption}
    (ha : a ∈ (u.absorbAlong impact already chain d).dropLast) : a.destroyed = true := by
  induction chain generalizing d with
  | nil => cases ha
  | cons l chain ih =>
      rw [absorbAlong] at ha
      cases hp : u.part? l with
      | none =>
          rw [hp] at ha
          cases ha
      | some p =>
          simp only [hp] at ha
          split at ha
          · exact ih ha
          · split at ha
            · next hgives =>
                rw [Bool.and_eq_true] at hgives
                rcases mem_dropLast_cons ha with rfl | ha
                · exact hgives.1
                · exact ih ha
            · cases ha

/-! ### The whole hit -/

lemma isSome_of_mem_reach (hk : k ∈ u.reach l) : (u.part? k).isSome :=
  List.mem_takeWhile_imp (p := fun k => (u.part? k).isSome) hk

lemma nodup_reach (u : BattleUnit) (l : Location) : (u.reach l).Nodup :=
  (Location.nodup_chain l).sublist (List.takeWhile_sublist _)

lemma absorb_eq_absorbAlong (hd : 0 < d) (l : Location) :
    u.absorb l d impact already = u.absorbAlong impact already (u.reach l) d := by
  rw [absorb, if_neg (not_le.mpr hd), absorbAlong_takeWhile, reach]

/-- **How a hit is shared out.** The locations that take some of it are, in the order of the
chain, those with room that damage is left for. Each of them fills its room, armor first, as
far as the damage goes that the ones before it leave; it counts as destroyed iff all
structure that it had is taken, and all but the last one do. Torsos struck from behind, and
nothing else, are noted with rear armor, and an explosion meets no armor. Together they take
the damage, or as much of it as there is room for. -/
theorem absorb_allotted (u : BattleUnit) (home : u.HomeParts) (counted : u.Counted)
    (l : Location) {damage : Int} (hpos : 0 < damage) (hle : damage ≤ Counter.greatest)
    (impact : Impact) (already : List Absorption)
    (nonneg : ∀ a ∈ already, 0 ≤ a.armor ∧ 0 ≤ a.internal) :
    let room := u.capacity impact already
    let taken := u.absorb l damage impact already
    taken.map (·.location) =
        (u.reach l).filter (fun k =>
          decide (0 < room k ∧ upstream room (u.reach l) k < damage)) ∧
      (∀ a ∈ taken,
        let left := damage - upstream room (u.reach l) a.location
        a.armor + a.internal = min (room a.location) left ∧
          a.armor = min (u.armorLeft impact already a.location) left ∧
          (a.destroyed = true ↔ a.internal = u.structureLeft already a.location) ∧
          (a.rear = true ↔ impact = .hit .rear ∧ a.location.hasRearArmor = true) ∧
          (impact = .explosion → a.armor = 0 ∧ a.rear = false)) ∧
      (∀ a ∈ taken.dropLast, a.destroyed = true) ∧
      (taken.map Absorption.total).sum = min damage ((u.reach l).map room).sum := by
  have htaken : u.absorb l damage impact already =
      u.absorbAlong impact already (u.reach l) damage := absorb_eq_absorbAlong hpos l
  have heq := absorbAlong_eq nonneg home counted impact (u.nodup_reach l)
    (fun _ => isSome_of_mem_reach) hpos
  intro room taken
  have hentry : ∀ a ∈ taken, ∃ k d, 0 < d ∧ 0 < room k ∧
      d = damage - upstream room (u.reach l) k ∧ a = u.allot impact already k d := by
    intro a ha
    rw [show taken = _ from htaken, heq] at ha
    obtain ⟨k, hk, rfl⟩ := List.mem_map.mp ha
    have hk := of_decide_eq_true (List.mem_filter.mp hk).2
    exact ⟨k, _, Int.sub_pos.mpr hk.2, hk.1, rfl, rfl⟩
  refine ⟨?_, ?_, ?_, ?_⟩
  · rw [show taken = _ from htaken, heq, List.map_map]
    exact List.map_id' _
  · intro a ha
    obtain ⟨k, d, hd, hroom, hleft, rfl⟩ := hentry a ha
    refine ⟨?_, ?_, decide_eq_true_iff, allot_rear_iff d, ?_⟩
    · rw [allot_sum d hroom, hleft]
      rfl
    · rw [min_comm, hleft]
      rfl
    · rintro rfl
      exact allot_of_explosion hd.le
  · intro a ha
    rw [show taken = _ from htaken] at ha
    exact destroyed_of_mem_dropLast ha
  · have hgross : grossTaken taken = min damage ((u.reach l).map room).sum := by
      rw [show taken = _ from htaken]
      exact grossTaken_absorbAlong nonneg home counted (fun _ => isSome_of_mem_reach) hpos.le
    rw [sum_total ?_ (by omega), hgross]
    intro a ha
    obtain ⟨k, d, hd, hroom, -, rfl⟩ := hentry a ha
    rw [allot_sum d hroom]
    exact le_min hroom.le hd.le

/-- A mech with a left arm and two torsos. -/
def armedSide : BattleUnit :=
  (((BattleUnit.blank 5 "Target" .mech 50).withPart (.intact .leftArm 4 0 3)).withPart
    (.intact .leftTorso 6 2 5)).withPart (.intact .centerTorso 8 3 9)

/-- An earlier hit has taken the left torso. -/
def torsoGone : List Absorption := [⟨.leftTorso, 6, 5, false, true⟩]

/-- From behind, a hit on the arm goes past the torso that is gone to the center. -/
theorem absorb_allotted_torso_gone :
    armedSide.HomeParts ∧ armedSide.Counted ∧
      (∀ a ∈ torsoGone, 0 ≤ a.armor ∧ 0 ≤ a.internal) ∧
      (armedSide.absorb .leftArm 12 (.hit .rear) torsoGone).map (·.location) =
        [.leftArm, .centerTorso] ∧
      ((armedSide.absorb .leftArm 12 (.hit .rear) torsoGone).map Absorption.total).sum = 12 := by
  have home : armedSide.HomeParts := by decide
  have counted : armedSide.Counted := by decide
  have nonneg : ∀ a ∈ torsoGone, 0 ≤ a.armor ∧ 0 ≤ a.internal := by decide
  obtain ⟨hlocations, -, -, htotal⟩ := absorb_allotted armedSide home counted .leftArm
    (by decide : (0 : Int) < 12) (by decide) (.hit .rear) torsoGone nonneg
  refine ⟨home, counted, nonneg, ?_, ?_⟩
  · rw [hlocations]
    decide
  · rw [htotal]
    decide

end BattleUnit

end MechBattle
