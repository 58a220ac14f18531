/-
Piloting rolls that get no easier.

What is destroyed makes a piloting roll harder, and so do wounds. The component that is hit
just now is counted by the reason of the roll and left out of what was destroyed before, and
a gyro counts once however many there are; neither lets more damage count for less.

* `Component.Worn`, `BodyPart.Worn`, `BattleUnit.Worn`: the same equipment after more
  damage, and the same pilot after more wounds;
* `Worn.countComponents_le`, `Worn.destroyedLegs_le`: what is destroyed only grows in number;
* `Worn.hasRequired_eq`: what a roll can be about does not change;
* `foldl_standingModifiers`, `Worn.standingValues_le`: the standing items of a roll as
  products of a factor and a count, none of which gets smaller;
* `pilotingCheck_no_easier`: the whole roll.
-/
import MechBattle.BattleUnit.Assembly
import MechBattle.PilotingCheck
import MechBattle.Proofs.Ledger
import MechBattle.Proofs.Totals

namespace MechBattle

/-! ### More damage -/

/-- The second component is of the same kind, and destroyed if the first one is. -/
structure Component.Worn (c d : Component) : Prop where
  kind : d.kind = c.kind
  destroyed : c.destroyed = true → d.destroyed = true

/-- The second part has the components of the first, some of them destroyed since, and no
more structure. -/
structure BodyPart.Worn (p q : BodyPart) : Prop where
  location : q.location = p.location
  internal : q.internal ≤ p.internal
  components : List.Forall₂ Component.Worn p.components q.components

/-- The second unit stands where the first one does and has the same parts, worn, and a
pilot of the same skill with no fewer wounds. -/
structure BattleUnit.Worn (u v : BattleUnit) : Prop where
  parts : u.Partwise BodyPart.Worn v
  position : v.position = u.position
  pilot : ∀ p, u.pilot = some p →
    ∃ q, v.pilot = some q ∧ q.piloting = p.piloting ∧ p.wounds ≤ q.wounds

/-- In these tables, what is destroyed and wounds never help. -/
structure PilotingTables.Harmful (t : PilotingTables) : Prop where
  damagedGyro : 0 ≤ t.damagedGyro
  destroyedHip : 0 ≤ t.destroyedHip
  destroyedLegActuator : 0 ≤ t.destroyedLegActuator
  destroyedLeg : 0 ≤ t.destroyedLeg
  pilotWound : 0 ≤ t.pilotWound

lemma countP_le_of_forall₂ {α : Type} {R : α → α → Prop} {f g : α → Bool} {xs ys : List α}
    (hR : ∀ {x y}, R x y → f x = true → g y = true) (h : List.Forall₂ R xs ys) :
    xs.countP f ≤ ys.countP g := by
  induction h with
  | nil => exact le_rfl
  | @cons x y xs ys hxy _ ih =>
      rw [List.countP_cons, List.countP_cons]
      by_cases hx : f x = true
      · rw [if_pos hx, if_pos (hR hxy hx)]
        exact Nat.add_le_add_right ih 1
      · rw [if_neg hx]
        exact ih.trans (Nat.le_add_right _ _)

namespace BattleUnit

namespace Worn

variable {u v : BattleUnit}

lemma components (worn : u.Worn v) :
    List.Forall₂ (fun x y : Location × Component => x.2.Worn y.2) u.components v.components := by
  refine List.rel_flatMap worn.parts.values fun p q hpq => ?_
  rw [List.forall₂_map_left_iff, List.forall₂_map_right_iff]
  exact hpq.components

/-- Damage changes no component into one of another kind. -/
lemma kinds (worn : u.Worn v) :
    v.components.map (·.2.kind) = u.components.map (·.2.kind) := by
  refine Eq.symm ?_
  rw [← List.forall₂_eq_eq_eq, List.forall₂_map_left_iff, List.forall₂_map_right_iff]
  exact worn.components.imp fun _ _ h => h.kind.symm

lemma any_kind_eq (worn : u.Worn v) (f : ComponentKind → Bool) :
    (v.components.any fun x => f x.2.kind) = u.components.any fun x => f x.2.kind := by
  have hmap : ∀ w : BattleUnit, (w.components.any fun x => f x.2.kind) =
      (w.components.map (·.2.kind)).any f := fun _ => List.any_map.symm
  rw [hmap, hmap, worn.kinds]

/-- What a roll can be about does not change. -/
lemma hasRequired_eq (worn : u.Worn v) (reason : CheckReason) :
    v.hasRequired reason = u.hasRequired reason := by
  cases reason with
  | gyroHit => exact worn.any_kind_eq (· == .gyro)
  | hipHit => exact worn.any_kind_eq (· == .hip)
  | legActuatorHit => exact worn.any_kind_eq ComponentKind.isLowerLeg
  | heavyDamage => rfl
  | fallInjury levels => rfl

lemma missing?_eq_none (worn : u.Worn v) {reasons : List CheckReason}
    (h : u.missing? reasons = none) : v.missing? reasons = none := by
  rw [missing?, List.findSome?_eq_none_iff] at h ⊢
  intro reason hreason
  have h := h reason hreason
  rw [worn.hasRequired_eq]
  cases hk : reason.required? with
  | none => rfl
  | some k =>
      simp only [hk, ite_eq_left_iff, reduceCtorEq, imp_false, not_not] at h ⊢
      exact h

/-- A condition that destruction cannot undo holds of no fewer components. -/
lemma countComponents_le (worn : u.Worn v) {f : Component → Bool}
    (hf : ∀ {c d : Component}, c.Worn d → f c = true → f d = true) :
    u.countComponents f ≤ v.countComponents f :=
  countP_le_of_forall₂ (fun h => hf h) worn.components

lemma destroyedCount_le (worn : u.Worn v) (k : ComponentKind) :
    u.destroyedCount k ≤ v.destroyedCount k := by
  refine worn.countComponents_le fun h => ?_
  rw [Bool.and_eq_true, Bool.and_eq_true, h.kind]
  exact And.imp_right h.destroyed

lemma destroyedLowerLeg_le (worn : u.Worn v) : u.destroyedLowerLeg ≤ v.destroyedLowerLeg := by
  refine worn.countComponents_le fun h => ?_
  rw [Bool.and_eq_true, Bool.and_eq_true, h.kind]
  exact And.imp_left h.destroyed

lemma destroyedLegs_le (worn : u.Worn v) : u.destroyedLegs ≤ v.destroyedLegs := by
  refine countP_le_of_forall₂ (fun {p q} h => ?_) worn.parts.values
  rw [Bool.and_eq_true, Bool.and_eq_true, h.location, BodyPart.isDestroyed,
    BodyPart.isDestroyed, decide_eq_true_eq, decide_eq_true_eq]
  exact And.imp_right h.internal.trans

end Worn

/-! ### The items of a roll -/

variable {rules : Rules} {u v : BattleUnit} {reasons : List CheckReason}

/-- Leaving out the component that is hit just now keeps the order of two counts. -/
lemma withoutStruck_le {m n : Nat} (h : m ≤ n) (reasons : List CheckReason)
    (reason : CheckReason) : withoutStruck m reasons reason ≤ withoutStruck n reasons reason := by
  rw [withoutStruck, withoutStruck]
  split <;> omega

lemma value_checkModifier? (rules : Rules) (factor : PilotingFactor) (name : String)
    (times : Int) :
    ((rules.checkModifier? factor name times).map (·.value)).getD 0 =
      Counter.mul (rules.piloting.ofFactor factor) times := by
  rw [Rules.checkModifier?]
  split
  · next h => exact h.symm
  · rfl

/-- An item that is left out would count for nothing. -/
lemma value_countedModifier? (rules : Rules) (factor : PilotingFactor) (name : String)
    (count : Nat) :
    ((countedModifier? rules factor name count).map (·.value)).getD 0 =
      Counter.mul (rules.piloting.ofFactor factor) count := by
  rw [countedModifier?]
  split
  · next h =>
      rw [h, Counter.mul, Nat.cast_zero, Int.mul_zero]
      rfl
  · exact value_checkModifier? rules factor name count

/-- What the standing items of a roll add, an item that is left out included. -/
def standingValues (rules : Rules) (u : BattleUnit) (pilot : Pilot)
    (reasons : List CheckReason) : List Int :=
  [Counter.mul rules.piloting.damagedGyro
      (min 1 (withoutStruck (u.destroyedCount .gyro) reasons .gyroHit) : Nat),
    Counter.mul rules.piloting.destroyedHip
      (withoutStruck (u.destroyedCount .hip) reasons .hipHit),
    Counter.mul rules.piloting.destroyedLegActuator
      (withoutStruck u.destroyedLowerLeg reasons .legActuatorHit),
    Counter.mul rules.piloting.destroyedLeg u.destroyedLegs,
    Counter.mul rules.piloting.pilotWound pilot.wounds]

/-- Standing items add what their factors count, as often as they count. -/
lemma foldl_standingModifiers {base : Int} (hbase : Counter.Mem base) (rules : Rules)
    (u : BattleUnit) (pilot : Pilot) (reasons : List CheckReason) :
    (standingModifiers rules u pilot reasons).foldl (fun n m => Counter.add n m.value) base =
      (standingValues rules u pilot reasons).foldl Counter.add base := by
  rw [← List.foldl_map (f := CheckModifier.value), standingModifiers,
    Counter.foldl_add_filterMap hbase]
  simp only [List.map_cons, List.map_nil, value_countedModifier?, standingValues,
    PilotingTables.ofFactor]

/-- Each standing item counts for no less. -/
lemma Worn.standingValues_le (worn : u.Worn v) (harmful : rules.piloting.Harmful) {p q : Pilot}
    (wounds : p.wounds ≤ q.wounds) (reasons : List CheckReason) :
    List.Forall₂ (· ≤ ·) (standingValues rules u p reasons)
      (standingValues rules v q reasons) := by
  have htimes : ∀ {factor : Int} {m n : Nat}, 0 ≤ factor → m ≤ n →
      Counter.mul factor m ≤ Counter.mul factor n := fun hfactor hmn =>
    Counter.mul_le_mul_of_nonneg_left (Int.ofNat_le.mpr hmn) hfactor
  refine .cons (htimes harmful.damagedGyro ?_) (.cons (htimes harmful.destroyedHip ?_)
    (.cons (htimes harmful.destroyedLegActuator ?_) (.cons (htimes harmful.destroyedLeg ?_)
      (.cons (htimes harmful.pilotWound wounds) .nil))))
  · exact min_le_min_left 1 (withoutStruck_le (worn.destroyedCount_le .gyro) _ _)
  · exact withoutStruck_le (worn.destroyedCount_le .hip) _ _
  · exact withoutStruck_le worn.destroyedLowerLeg_le _ _
  · exact worn.destroyedLegs_le

/-- The items other than the standing ones. -/
def otherModifiers (rules : Rules) (u : BattleUnit) (reasons : List CheckReason)
    (board : Option Board) (damage : Option Int) : List CheckModifier :=
  (firsts reasons).filterMap (reasonModifier? rules damage) ++
    (groundModifier? rules u board).toList

/-- They depend on where the unit stands and not on its damage. -/
lemma Worn.otherModifiers_eq (worn : u.Worn v) (rules : Rules) (reasons : List CheckReason)
    (board : Option Board) (damage : Option Int) :
    otherModifiers rules v reasons board damage = otherModifiers rules u reasons board damage := by
  simp only [otherModifiers, groundModifier?, worn.position]

lemma pilotingCheck_eq_ok_iff {board : Option Board} {damage : Option Int} {c : PilotingCheck} :
    pilotingCheck rules u reasons board damage = .ok c ↔
      ∃ pilot, u.pilot = some pilot ∧ u.missing? reasons = none ∧
        c = .ofModifiers (firsts reasons) pilot.piloting
          (standingModifiers rules u pilot reasons ++
            otherModifiers rules u reasons board damage) := by
  rw [pilotingCheck]
  cases hpilot : u.pilot with
  | none => simp
  | some pilot =>
      cases hmissing : u.missing? reasons with
      | some refusal => simp
      | none => simp [otherModifiers, eq_comm]

/-- **Damage never makes a piloting roll easier.** With more components destroyed, less
structure and more wounds, a roll that was not refused is still not refused. The number that
it takes is no lower, and one that was out of reach stays out of reach. -/
theorem pilotingCheck_no_easier (rules : Rules) (harmful : rules.piloting.Harmful)
    {u v : BattleUnit} (worn : u.Worn v)
    (counted : ∀ pilot, u.pilot = some pilot → Counter.Mem pilot.piloting)
    (reasons : List CheckReason) (board : Option Board) (damage : Option Int)
    {c : PilotingCheck} (h : pilotingCheck rules u reasons board damage = .ok c) :
    ∃ d, pilotingCheck rules v reasons board damage = .ok d ∧ c.target ≤ d.target ∧
      (c.impossible = true → d.impossible = true) := by
  obtain ⟨p, hp, hmissing, rfl⟩ := pilotingCheck_eq_ok_iff.mp h
  obtain ⟨q, hq, hskill, hwounds⟩ := worn.pilot p hp
  have hbase : Counter.Mem p.piloting := counted p hp
  refine ⟨_, pilotingCheck_eq_ok_iff.mpr ⟨q, hq, worn.missing?_eq_none hmissing, rfl⟩, ?_⟩
  have htarget :
      (standingModifiers rules u p reasons ++ otherModifiers rules u reasons board damage).foldl
          (fun n m => Counter.add n m.value) p.piloting ≤
        (standingModifiers rules v q reasons ++
            otherModifiers rules v reasons board damage).foldl
          (fun n m => Counter.add n m.value) q.piloting := by
    rw [hskill, worn.otherModifiers_eq, List.foldl_append, List.foldl_append,
      foldl_standingModifiers hbase, foldl_standingModifiers hbase,
      ← List.foldl_map (f := CheckModifier.value), ← List.foldl_map (f := CheckModifier.value)]
    refine Counter.foldl_add_mono ?_ _
    exact Counter.foldl_add_le (worn.standingValues_le harmful hwounds reasons) le_rfl
  exact ⟨htarget, isImpossible_of_le htarget⟩

end BattleUnit

/-! ### A gyro hit on a lame mech -/

/-- The part without structure, and with everything in it wrecked. -/
def BodyPart.ruined (p : BodyPart) : BodyPart :=
  { p with internal := min 0 p.internal, components := p.components.map Component.wrecked }

lemma BodyPart.worn_ruined (p : BodyPart) : p.Worn p.ruined where
  location := rfl
  internal := min_le_right 0 p.internal
  components := by
    rw [ruined, List.forall₂_map_right_iff, List.forall₂_same]
    exact fun _ _ => ⟨rfl, fun _ => rfl⟩

lemma BodyPart.Worn.refl (p : BodyPart) : p.Worn p where
  location := rfl
  internal := le_rfl
  components := List.forall₂_same.mpr fun _ _ => ⟨rfl, fun h => h⟩

namespace BattleUnit

/-- A mech whose gyro has just been hit. -/
def reeling : BattleUnit :=
  ((((BattleUnit.blank 4 "Target" .mech 50).withPart
    { BodyPart.intact .centerTorso 20 8 16 with
      components := [{ Component.intact "Gyro" .gyro 3 4 with destroyed := true }] }).withPart
    (.intact .leftLeg 10 0 12)).mount .leftLeg (.intact "Hip" .hip 0 1)).withPilot
    { name := "Pilot", gunnery := 4, piloting := 5 }

/-- The same mech without its left leg, and its pilot wounded. -/
def lame : BattleUnit :=
  (reeling.modifyPart .leftLeg BodyPart.ruined).withPilot
    { name := "Pilot", gunnery := 4, piloting := 5, wounds := 1 }

/-- The gyro alone makes for an 8, and the hip, the leg and the wound for no less. -/
theorem pilotingCheck_no_easier_lame :
    ({} : Rules).piloting.Harmful ∧ reeling.Worn lame ∧
      (∀ pilot, reeling.pilot = some pilot → Counter.Mem pilot.piloting) ∧
      ∃ c d, pilotingCheck {} reeling [.gyroHit] none none = .ok c ∧
        pilotingCheck {} lame [.gyroHit] none none = .ok d ∧ c.target = 8 ∧
        c.target ≤ d.target ∧ (c.impossible = true → d.impossible = true) := by
  have harmful : ({} : Rules).piloting.Harmful := by constructor <;> decide
  have worn : reeling.Worn lame := by
    have parts : reeling.Partwise BodyPart.Worn (reeling.modifyPart .leftLeg BodyPart.ruined) :=
      .modifyPart BodyPart.Worn.refl BodyPart.worn_ruined reeling .leftLeg
    refine ⟨⟨parts.part, parts.missing⟩, rfl, fun p hp => ⟨_, rfl, ?_⟩⟩
    obtain rfl := Option.some.inj hp
    exact ⟨rfl, Nat.zero_le 1⟩
  have counted : ∀ pilot, reeling.pilot = some pilot → Counter.Mem pilot.piloting := by
    rintro pilot hpilot
    obtain rfl := Option.some.inj hpilot
    decide
  obtain ⟨c, hc, htarget⟩ :
      ∃ c, pilotingCheck {} reeling [.gyroHit] none none = .ok c ∧ c.target = 8 := ⟨_, rfl, rfl⟩
  obtain ⟨d, hd, h⟩ := pilotingCheck_no_easier {} harmful worn counted [.gyroHit] none none hc
  exact ⟨harmful, worn, counted, c, d, hc, hd, htarget, h⟩

end BattleUnit

end MechBattle
