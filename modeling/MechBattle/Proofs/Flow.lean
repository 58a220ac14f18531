/-
Damage that comes to the locations of a unit, however much came before.

Damage that comes to a location fills it, armor first and then structure, and
what it cannot hold is let go. A location that has borne some damage bears more
of it as if all had come at once.

* `ArmorSide`: what stands in the way of damage, the armor in front, the armor
  at the back, or none;
* `BodyPart.share`, `BodyPart.spill`, `BodyPart.bear`: what a part takes of
  damage, what it lets go, and the part that is left;
* `BodyPart.bear_bear`, `BodyPart.spill_add`: damage that comes in two goes;
* `BattleUnit.bearing`: the unit whose locations have borne what came to each;
* `BattleUnit.Rises`: absorptions that stand for a rise of what came, with one
  lemma for each way a location meets more damage.
-/
import MechBattle.Proofs.Batch

namespace MechBattle

instance : Fintype Location := ⟨⟨Location.all, Location.nodup_all⟩, Location.mem_all⟩

/-! ### Armor sides -/

/-- What damage meets before the structure. -/
inductive ArmorSide where
  /-- The armor in front, for hits from the front and from both flanks. -/
  | front
  /-- The armor at the back, where there is such armor. -/
  | rear
  /-- No armor, for explosions. -/
  | inside
  deriving DecidableEq, Repr

/-- The armor side that an impact comes to. -/
def Impact.armorSide : Impact → ArmorSide
  | .hit .rear => .rear
  | .hit _ => .front
  | .explosion => .inside

/-- Whether damage from the side meets rear armor at a location. -/
def ArmorSide.meetsRear (s : ArmorSide) (l : Location) : Bool :=
  match s with
  | .rear => l.hasRearArmor
  | _ => false

lemma Impact.meetsRear_armorSide (i : Impact) (l : Location) :
    i.armorSide.meetsRear l = i.meetsRear l := by
  cases i with
  | explosion => rfl
  | hit side => cases side <;> rfl

/-! ### What a part bears -/

namespace BodyPart

/-- No armor and no structure of the part is negative. -/
structure Nonneg (p : BodyPart) : Prop where
  armor : 0 ≤ p.armor
  rearArmor : 0 ≤ p.rearArmor
  internal : 0 ≤ p.internal

instance (p : BodyPart) : Decidable p.Nonneg :=
  decidable_of_iff (0 ≤ p.armor ∧ 0 ≤ p.rearArmor ∧ 0 ≤ p.internal)
    ⟨fun ⟨ha, hr, hi⟩ => ⟨ha, hr, hi⟩, fun h => ⟨h.armor, h.rearArmor, h.internal⟩⟩

/-- The armor that meets damage from a side. -/
def shield (p : BodyPart) : ArmorSide → Int
  | .front => p.armor
  | .rear => p.armorFacing p.location.hasRearArmor
  | .inside => 0

/-- What the part takes of damage that comes to it. Without structure it takes
nothing. -/
def share (p : BodyPart) (s : ArmorSide) (d : Int) : Absorption :=
  let armor := if p.internal = 0 then 0 else min d (p.shield s)
  let internal := min (d - armor) p.internal
  ⟨p.location, armor, internal, s.meetsRear p.location, decide (internal = p.internal)⟩

/-- What the part lets go of damage that comes to it. -/
def spill (p : BodyPart) (s : ArmorSide) (d : Int) : Int :=
  d - (p.share s d).armor - (p.share s d).internal

/-- The part after damage that came to it. -/
def bear (p : BodyPart) (s : ArmorSide) (d : Int) : BodyPart := p.take (p.share s d)

variable {p : BodyPart} {s : ArmorSide} {d e : Int}

lemma Nonneg.take (h : p.Nonneg) (a : Absorption) : (p.take a).Nonneg := by
  rw [BodyPart.take]
  split
  · exact ⟨h.armor, le_max_left _ _, le_max_left _ _⟩
  · exact ⟨le_max_left _ _, h.rearArmor, le_max_left _ _⟩

/-- Two absorptions on one side take what one absorption of both takes. -/
lemma take_take {a b c : Absorption} (p : BodyPart) (hb : b.rear = a.rear) (hc : c.rear = a.rear)
    (ha₀ : 0 ≤ b.armor) (hi₀ : 0 ≤ b.internal) (ha : c.armor = a.armor + b.armor)
    (hi : c.internal = a.internal + b.internal) : (p.take a).take b = p.take c := by
  have clamped : ∀ x m n k : Int, 0 ≤ n → k = m + n →
      max 0 (max 0 (x - m) - n) = max 0 (x - k) := by
    intro x m n k hn hk
    omega
  rw [take, take, take, hb, hc]
  cases a.rear <;> simp [clamped _ _ _ _ ha₀ ha, clamped _ _ _ _ hi₀ hi]

/-- An empty absorption takes nothing. -/
lemma take_empty {a : Absorption} (h : p.Nonneg) (ha : a.armor = 0) (hi : a.internal = 0) :
    p.take a = p := by
  rw [BodyPart.take, ha, hi, Int.sub_zero, Int.sub_zero, Int.sub_zero, max_eq_right h.armor,
    max_eq_right h.rearArmor, max_eq_right h.internal, ite_self]

@[simp] lemma bear_location : (p.bear s d).location = p.location := take_location _ p

lemma Nonneg.shield (h : p.Nonneg) (s : ArmorSide) : 0 ≤ p.shield s := by
  cases s with
  | front => exact h.armor
  | rear =>
      simp only [BodyPart.shield, armorFacing]
      split
      · exact h.rearArmor
      · exact h.armor
  | inside => exact le_rfl

/-- Damage goes into armor and structure of the part, or on. -/
lemma share_add_spill (p : BodyPart) (s : ArmorSide) (d : Int) :
    (p.share s d).armor + (p.share s d).internal + p.spill s d = d := by
  rw [spill]
  omega

lemma share_internal_le (p : BodyPart) (s : ArmorSide) (d : Int) :
    (p.share s d).internal ≤ p.internal := min_le_right _ _

/-- Without structure nothing is taken. -/
lemma share_of_internal_eq_zero (s : ArmorSide) (hd : 0 ≤ d) (hi : p.internal = 0) :
    (p.share s d).armor = 0 ∧ (p.share s d).internal = 0 := by
  have ha : (p.share s d).armor = 0 := if_pos hi
  refine ⟨ha, ?_⟩
  show min (d - (p.share s d).armor) p.internal = 0
  rw [ha, hi, Int.sub_zero]
  exact min_eq_right hd

/-- A part that lets damage go has no structure left. -/
lemma share_internal_of_spill_pos (hs : 0 < p.spill s d) :
    (p.share s d).internal = p.internal := by
  simp only [spill, share] at hs ⊢
  omega

/-- What is let go is never negative. -/
lemma spill_nonneg (p : BodyPart) (s : ArmorSide) (d : Int) : 0 ≤ p.spill s d := by
  simp only [spill, share]
  omega

lemma bear_internal (p : BodyPart) (s : ArmorSide) (d : Int) :
    (p.bear s d).internal = p.internal - (p.share s d).internal := by
  have := share_internal_le p s d
  rw [bear, take_internal]
  omega

lemma Counted.shield_le (h : p.Counted) (s : ArmorSide) : p.shield s ≤ Counter.greatest := by
  cases s with
  | front => exact h.armor.2
  | rear => exact (h.armorFacing _).2
  | inside => exact le_of_lt (by decide : (0 : Int) < Counter.greatest)

section Nonneg

variable (h : p.Nonneg)
include h

lemma share_armor_le (s : ArmorSide) (d : Int) : (p.share s d).armor ≤ p.shield s := by
  have := h.shield s
  simp only [share]
  split <;> omega

lemma share_armor_nonneg (s : ArmorSide) (hd : 0 ≤ d) : 0 ≤ (p.share s d).armor := by
  have := h.shield s
  simp only [share]
  split <;> omega

lemma share_internal_nonneg (s : ArmorSide) (hd : 0 ≤ d) : 0 ≤ (p.share s d).internal := by
  have := h.internal
  simp only [share]
  split <;> omega

lemma bear_shield (s : ArmorSide) (hd : 0 ≤ d) :
    (p.bear s d).shield s = p.shield s - (p.share s d).armor := by
  have hle := share_armor_le h s d
  cases s with
  | inside =>
      have := share_armor_nonneg h .inside hd
      simp only [shield] at hle ⊢
      omega
  | front =>
      have htake := armorFacing_take (p.share .front d) p (by nofun) (by nofun : false = true → _)
      exact (htake.trans (if_pos rfl)).trans (max_eq_right (Int.sub_nonneg.mpr hle))
  | rear =>
      have htake := armorFacing_take (p.share .rear d) p id
        (id : p.location.hasRearArmor = true → _)
      rw [shield, bear_location]
      exact (htake.trans (if_pos rfl)).trans (max_eq_right (Int.sub_nonneg.mpr hle))

/-- No counter of a part grows when it bears damage. -/
lemma bear_shield_le (hc : p.Counted) (s : ArmorSide) (hd : 0 ≤ d) :
    (p.bear s d).shield s ≤ Counter.greatest := by
  have := hc.shield_le s
  have := share_armor_nonneg h s hd
  rw [bear_shield h s hd]
  omega

lemma bear_internal_le (hc : p.Counted) (s : ArmorSide) (hd : 0 ≤ d) :
    (p.bear s d).internal ≤ Counter.greatest := by
  have := share_internal_nonneg h s hd
  have := hc.internal.2
  rw [bear_internal]
  omega

/-- A part bears damage that comes in two goes as if it came in one. -/
lemma share_add (s : ArmorSide) (hd : 0 ≤ d) (he : 0 ≤ e) :
    (p.share s (d + e)).armor = (p.share s d).armor + ((p.bear s d).share s e).armor ∧
      (p.share s (d + e)).internal =
        (p.share s d).internal + ((p.bear s d).share s e).internal := by
  have hi := bear_internal p s d
  have ha := bear_shield h s hd
  have := h.shield s
  have := h.internal
  simp only [share] at hi ha ⊢
  rw [hi, ha]
  split <;> split <;> omega

lemma bear_bear (s : ArmorSide) (hd : 0 ≤ d) (he : 0 ≤ e) :
    (p.bear s d).bear s e = p.bear s (d + e) := by
  obtain ⟨ha, hi⟩ := share_add h s hd he
  have hn : (p.bear s d).Nonneg := h.take _
  have hrear : ((p.bear s d).share s e).rear = (p.share s d).rear := by
    simp only [share, bear_location]
  exact take_take p hrear rfl (share_armor_nonneg hn s he) (share_internal_nonneg hn s he) ha hi

/-- What a part lets go of damage that comes in two goes is what it lets go when
it comes in one. -/
lemma spill_add (s : ArmorSide) (hd : 0 ≤ d) (he : 0 ≤ e) :
    p.spill s d + (p.bear s d).spill s e = p.spill s (d + e) := by
  obtain ⟨ha, hi⟩ := share_add h s hd he
  rw [spill, spill, spill, ha, hi]
  omega

lemma share_zero (s : ArmorSide) : (p.share s 0).armor = 0 ∧ (p.share s 0).internal = 0 := by
  have := share_armor_nonneg h s le_rfl
  have := share_internal_nonneg h s le_rfl
  have := spill_nonneg p s 0
  have := share_add_spill p s 0
  omega

lemma spill_zero (s : ArmorSide) : p.spill s 0 = 0 := by
  rw [spill, (share_zero h s).1, (share_zero h s).2]
  rfl

lemma bear_zero (s : ArmorSide) : p.bear s 0 = p :=
  take_empty h (share_zero h s).1 (share_zero h s).2

/-- The structure that meets damage, as far as it is a counter. -/
lemma internalLeft_nil (hi : p.internal ≤ Counter.greatest) (l : Location) :
    p.internalLeft [] l = p.internal := by
  have := h.internal
  simp only [internalLeft, priorInternal, List.filter_nil, List.foldl_nil, Counter.sub,
    Counter.clamp, Counter.least, Counter.greatest] at hi ⊢
  omega

/-- The armor that meets damage, as far as it is a counter. -/
lemma armorLeft_nil (i : Impact) (hs : p.shield i.armorSide ≤ Counter.greatest) :
    p.armorLeft i [] p.location = p.shield i.armorSide := by
  have hn := h.shield i.armorSide
  cases i with
  | explosion => rfl
  | hit side =>
      have hfacing : p.armorFacing ((Impact.hit side).meetsRear p.location) =
          p.shield (Impact.hit side).armorSide := by
        cases side <;> rfl
      simp only [armorLeft, hfacing, priorArmor, List.filter_nil, List.foldl_nil, Counter.sub,
        Counter.clamp, Counter.least, Counter.greatest] at hs ⊢
      omega

end Nonneg

end BodyPart

/-! ### Damage at one location -/

/-- Damage that comes to one location. -/
def surge (l : Location) (d : Int) : Location → Int := fun k => if k = l then d else 0

@[simp] lemma surge_self (l : Location) (d : Int) : surge l d l = d := if_pos rfl

lemma surge_zero (l : Location) : surge l 0 = 0 := by
  funext k
  exact ite_self 0

lemma surge_of_ne {l k : Location} (h : k ≠ l) (d : Int) : surge l d k = 0 := if_neg h

@[simp] lemma sum_surge (l : Location) (d : Int) : ∑ k, surge l d k = d :=
  (Finset.sum_ite_eq' Finset.univ l fun _ => d).trans (if_pos (Finset.mem_univ l))

/-- A sum over all locations changes by what one of them changes. -/
lemma sum_add_surge (f : Location → Int → Int) (inflow : Location → Int) (l : Location)
    (d : Int) :
    ∑ k, f k ((inflow + surge l d) k) =
      ∑ k, f k (inflow k) + (f l (inflow l + d) - f l (inflow l)) := by
  have hpoint : ∀ k, f k ((inflow + surge l d) k) =
      f k (inflow k) + surge l (f l (inflow l + d) - f l (inflow l)) k := by
    intro k
    by_cases hk : k = l
    · subst hk
      rw [Pi.add_apply, surge_self, surge_self]
      omega
    · rw [Pi.add_apply, surge_of_ne hk, surge_of_ne hk, Int.add_zero, Int.add_zero]
  rw [Finset.sum_congr rfl fun k _ => hpoint k, Finset.sum_add_distrib, sum_surge]

/-! ### What a unit bears -/

/-- Armor and structure taken by absorptions, without a ceiling. -/
def grossTaken (taken : List Absorption) : Int :=
  (taken.map fun a => a.armor + a.internal).sum

lemma grossTaken_cons (a : Absorption) (taken : List Absorption) :
    grossTaken (a :: taken) = a.armor + a.internal + grossTaken taken := by
  rw [grossTaken, List.map_cons, List.sum_cons, grossTaken]

/-- Totals of absorptions add up to what was taken, as long as that is a
counter. -/
lemma sum_total {taken : List Absorption} (nonneg : ∀ a ∈ taken, 0 ≤ a.armor + a.internal)
    (small : grossTaken taken ≤ Counter.greatest) :
    (taken.map Absorption.total).sum = grossTaken taken := by
  induction taken with
  | nil => rfl
  | cons a rest ih =>
      obtain ⟨hfirst, hrest⟩ := List.forall_mem_cons.mp nonneg
      have hcons := grossTaken_cons a rest
      have hgross : 0 ≤ grossTaken rest := by
        refine List.sum_nonneg fun x hx => ?_
        obtain ⟨b, hb, rfl⟩ := List.mem_map.mp hx
        exact hrest b hb
      have hmem : Counter.Mem (a.armor + a.internal) := by
        rw [Counter.Mem, Counter.least]
        omega
      rw [List.map_cons, List.sum_cons, ih hrest (by omega), Absorption.total, Counter.add,
        Counter.clamp_of_mem hmem, hcons]

/-- Counters that only grow stop at the ceiling alone. -/
lemma Counter.add_add_clamp {n a b : Int} (hn : least ≤ n) (ha : 0 ≤ a) (hb : 0 ≤ b) :
    add (add (clamp n) a) b = clamp (n + (a + b)) := by
  simp only [add, clamp, least, greatest] at hn ⊢
  omega

namespace BattleUnit

/-- A unit of sound parts under their own locations, with all counters in
range. -/
structure Sound (u : BattleUnit) : Prop where
  home : u.HomeParts
  nonneg : u.EachPart fun _ p => p.Nonneg
  counted : u.Counted
  phaseDamage : Counter.Mem u.phaseDamage

/-- What a location lets go of the damage that comes to it. Damage that comes to
a location the unit lacks is lost. -/
def spillAt (u : BattleUnit) (s : ArmorSide) (l : Location) (d : Int) : Int :=
  match u.part? l with
  | some p => p.spill s d
  | none => 0

/-- What a location takes of the damage that comes to it. -/
def borneAt (u : BattleUnit) (s : ArmorSide) (l : Location) (d : Int) : Int :=
  match u.part? l with
  | some p => d - p.spill s d
  | none => 0

/-- What all locations take of the damage that comes to each. -/
def borne (u : BattleUnit) (s : ArmorSide) (inflow : Location → Int) : Int :=
  ∑ l, u.borneAt s l (inflow l)

/-- The unit whose locations have borne the damage that came to each. -/
def bearing (u : BattleUnit) (s : ArmorSide) (inflow : Location → Int) : BattleUnit :=
  { u with
    parts := .ofFn fun l => (u.part? l).map (·.bear s (inflow l))
    phaseDamage := Counter.clamp (u.phaseDamage + u.borne s inflow) }

variable {u v : BattleUnit} {s : ArmorSide} {inflow : Location → Int} {l : Location} {d : Int}
  {p : BodyPart}

lemma part?_bearing (u : BattleUnit) (s : ArmorSide) (inflow : Location → Int) (l : Location) :
    (u.bearing s inflow).part? l = (u.part? l).map (·.bear s (inflow l)) :=
  Location.Map.get?_ofFn _ l

lemma part?_bearing_of_part (hp : u.part? l = some p) :
    (u.bearing s inflow).part? l = some (p.bear s (inflow l)) := by
  rw [part?_bearing, hp, Option.map_some]

lemma borneAt_zero (hu : u.Sound) (s : ArmorSide) (l : Location) : u.borneAt s l 0 = 0 := by
  rw [borneAt]
  split
  · next p hp => rw [BodyPart.spill_zero (hu.nonneg l p hp), Int.sub_zero]
  · rfl

lemma borneAt_nonneg (hu : u.Sound) (s : ArmorSide) (l : Location) (hd : 0 ≤ d) :
    0 ≤ u.borneAt s l d := by
  rw [borneAt]
  split
  · next p hp =>
      have := BodyPart.share_armor_nonneg (hu.nonneg l p hp) s hd
      have := BodyPart.share_internal_nonneg (hu.nonneg l p hp) s hd
      have := p.share_add_spill s d
      omega
  · exact le_rfl

lemma borne_nonneg (hu : u.Sound) (s : ArmorSide) (hg : 0 ≤ inflow) : 0 ≤ u.borne s inflow :=
  Finset.sum_nonneg fun l _ => borneAt_nonneg hu s l (hg l)

lemma spillAt_zero (hu : u.Sound) (s : ArmorSide) (l : Location) : u.spillAt s l 0 = 0 := by
  rw [spillAt]
  split
  · next p hp => exact BodyPart.spill_zero (hu.nonneg l p hp) s
  · rfl

lemma borne_zero (hu : u.Sound) (s : ArmorSide) : u.borne s 0 = 0 :=
  Finset.sum_eq_zero fun l _ => borneAt_zero hu s l

/-- A unit to which no damage comes is left as it is. -/
lemma bearing_zero (hu : u.Sound) (s : ArmorSide) : u.bearing s 0 = u := by
  have hparts : (Location.Map.ofFn fun l => (u.part? l).map (·.bear s 0)) = u.parts := by
    ext1 l
    rw [Location.Map.get?_ofFn]
    change (u.part? l).map _ = u.part? l
    cases hp : u.part? l with
    | none => rfl
    | some p => rw [Option.map_some, BodyPart.bear_zero (hu.nonneg l p hp)]
  rw [bearing, borne_zero hu, Int.add_zero, Counter.clamp_of_mem hu.phaseDamage]
  simp only [Pi.zero_apply, hparts]

/-! ### One location after the other -/

/-- The damage that came to the locations rose from one inflow to another while
the absorptions were taken. -/
structure Rises (u : BattleUnit) (s : ArmorSide) (inflow : Location → Int)
    (taken : List Absorption) (inflow' : Location → Int) : Prop where
  unit : (u.bearing s inflow).takeDamage taken = u.bearing s inflow'
  gross : u.borne s inflow + grossTaken taken = u.borne s inflow'

namespace Rises

variable {taken later : List Absorption} {inflow' inflow'' : Location → Int}

lemma append (h : u.Rises s inflow taken inflow') (h' : u.Rises s inflow' later inflow'') :
    u.Rises s inflow (taken ++ later) inflow'' where
  unit := by rw [takeDamage_append, h.unit, h'.unit]
  gross := by
    rw [grossTaken, List.map_append, List.sum_append, ← Int.add_assoc]
    exact (congrArg (· + _) h.gross).trans h'.gross

lemma refl : u.Rises s inflow [] inflow where
  unit := rfl
  gross := Int.add_zero _

end Rises

/-- Nothing is taken where more damage neither changes the part nor is borne. -/
lemma rises_nil
    (hpart : (u.part? l).map (·.bear s (inflow l + d)) = (u.part? l).map (·.bear s (inflow l)))
    (hborne : u.borneAt s l (inflow l + d) = u.borneAt s l (inflow l)) :
    u.Rises s inflow [] (inflow + surge l d) := by
  have hsame : u.borne s (inflow + surge l d) = u.borne s inflow := by
    rw [borne, borne, sum_add_surge (u.borneAt s), hborne, Int.sub_self, Int.add_zero]
  have hparts : ∀ k, (u.part? k).map (·.bear s ((inflow + surge l d) k)) =
      (u.part? k).map (·.bear s (inflow k)) := by
    intro k
    by_cases hk : k = l
    · subst hk
      rwa [Pi.add_apply, surge_self]
    · rw [Pi.add_apply, surge_of_ne hk, Int.add_zero]
  constructor
  · rw [bearing, bearing, hsame, funext hparts]
    rfl
  · exact (Int.add_zero _).trans hsame.symm

/-- Damage that comes to a location which the unit lacks changes nothing. -/
lemma rises_of_missing (hp : u.part? l = none) : u.Rises s inflow [] (inflow + surge l d) := by
  refine rises_nil ?_ ?_
  · rw [hp, Option.map_none, Option.map_none]
  · rw [borneAt, borneAt, hp]

/-- A location without structure lets all further damage go. -/
lemma rises_of_spent (hu : u.Sound) (hp : u.part? l = some p) (hg : 0 ≤ inflow) (hd : 0 ≤ d)
    (hspent : (p.bear s (inflow l)).internal = 0) :
    u.Rises s inflow [] (inflow + surge l d) := by
  have hn := hu.nonneg l p hp
  obtain ⟨ha, hi⟩ := BodyPart.share_of_internal_eq_zero s hd hspent
  refine rises_nil ?_ ?_
  · rw [hp, Option.map_some, Option.map_some, ← BodyPart.bear_bear hn s (hg l) hd]
    exact congrArg some (BodyPart.take_empty (hn.take _) ha hi)
  · have hspill := BodyPart.spill_add hn s (hg l) hd
    have hsplit := (p.bear s (inflow l)).share_add_spill s d
    rw [borneAt, borneAt, hp]
    simp only
    omega

/-- A location takes its share of the damage that comes to it. -/
lemma rises_share (hu : u.Sound) (hp : u.part? l = some p) (hg : 0 ≤ inflow) (hd : 0 ≤ d) :
    u.Rises s inflow [(p.bear s (inflow l)).share s d] (inflow + surge l d) := by
  have hn := hu.nonneg l p hp
  have hn' : (p.bear s (inflow l)).Nonneg := hn.take _
  set a := (p.bear s (inflow l)).share s d with ha
  have hloc : a.location = l := by
    rw [ha, BodyPart.share, BodyPart.bear_location]
    exact hu.home l p hp
  have hgross : u.borne s inflow + (a.armor + a.internal) = u.borne s (inflow + surge l d) := by
    have hspill := BodyPart.spill_add hn s (hg l) hd
    have hsplit := (p.bear s (inflow l)).share_add_spill s d
    rw [← ha] at hsplit
    rw [borne, borne, sum_add_surge (u.borneAt s), borneAt, borneAt, hp]
    simp only
    omega
  have hparts : ((u.bearing s inflow).modifyPart a.location (BodyPart.take a)).parts =
      (u.bearing s (inflow + surge l d)).parts := by
    ext1 k
    change (BattleUnit.modifyPart _ _ _).part? k = (u.bearing s _).part? k
    rw [part?_modifyPart, part?_bearing, part?_bearing, hloc]
    by_cases hk : k = l
    · subst hk
      rw [if_pos rfl, hp, Option.map_some, Option.map_some, Option.map_some, Pi.add_apply,
        surge_self, ← BodyPart.bear_bear hn s (hg k) hd]
      rfl
    · rw [if_neg hk, Pi.add_apply, surge_of_ne hk, Int.add_zero]
  have hphase : Counter.add (Counter.add (u.bearing s inflow).phaseDamage a.armor) a.internal =
      (u.bearing s (inflow + surge l d)).phaseDamage := by
    have hleast := hu.phaseDamage.1
    have := borne_nonneg hu s hg
    rw [bearing, bearing, ← hgross, ← Int.add_assoc]
    exact Counter.add_add_clamp (by omega) (BodyPart.share_armor_nonneg hn' s hd)
      (BodyPart.share_internal_nonneg hn' s hd)
  constructor
  · have hsome : ((u.bearing s inflow).part? a.location).isSome := by
      rw [hloc, part?_bearing_of_part hp]
      rfl
    rw [takeDamage_singleton, takeOne, if_pos hsome]
    show ({ u with
      parts := ((u.bearing s inflow).modifyPart a.location (BodyPart.take a)).parts
      phaseDamage := Counter.add (Counter.add (u.bearing s inflow).phaseDamage a.armor)
        a.internal } : BattleUnit) = _
    rw [hparts, hphase]
    rfl
  · rw [← hgross]
    simp [grossTaken]

end BattleUnit

end MechBattle
