/-
Arcs and the hexsides between which they lie.

Which arc another hex lies in is read from the signs of a step that is turned back hexside by
hexside. The facings themselves are given by the steps across the hexsides. Both say the same:
an arc holds the steps that are made of steps across two hexsides, and no others.

* `Hex.across`: the step across a hexside, counted on past the sixth, with `turnedBack_across`;
* `Arc.Spans`: the steps that make up an arc, as combinations of steps across two hexsides;
* `spans_succ_iff`, `spans_iff_north`: turning back by one hexside, and by as many as it takes to
  look north;
* `ofStep_eq_iff`: the arcs of an observer who looks north;
* `spans_add_three_iff`: the arcs of the facing the other way;
* `arcTo_eq_iff_spans`: the arcs of every observer.
-/
import Mathlib.Tactic
import MechBattle.Hex

namespace MechBattle

/-! ### Combinations of steps -/

namespace Hex

/-- A step taken so many times, backwards if negative. -/
instance : SMul Int Hex := ⟨fun n d => ⟨n * d.q, n * d.r⟩⟩

lemma smul_q (n : Int) (d : Hex) : (n • d).q = n * d.q := rfl

lemma smul_r (n : Int) (d : Hex) : (n • d).r = n * d.r := rfl

lemma eq_iff {a b : Hex} : a = b ↔ a.q = b.q ∧ a.r = b.r := by
  obtain ⟨q, r⟩ := a
  obtain ⟨q', r'⟩ := b
  rw [mk.injEq]

/-- The step across a hexside, counted clockwise from north and on past the sixth. -/
def across (k : Nat) : Hex := (Facing.wrap k).step

lemma across_congr {j k : Nat} (h : j % 6 = k % 6) : across j = across k := by
  rw [across, across, Facing.wrap, Facing.wrap, h]

lemma turnedBack_smul_add_smul (m n : Int) (x y : Hex) :
    (m • x + n • y).turnedBack = m • x.turnedBack + n • y.turnedBack := by
  simp only [eq_iff, turnedBack, add_q, add_r, smul_q, smul_r]
  constructor <;> ring

lemma turnedBack_inj {x y : Hex} : x.turnedBack = y.turnedBack ↔ x = y := by
  simp only [eq_iff, turnedBack]
  omega

/-- Turned back, the step across a hexside is the step across the one before. -/
lemma turnedBack_across (k : Nat) : (across (k + 1)).turnedBack = across k := by
  have hsix : ∀ i : Fin 6, (across (i + 1)).turnedBack = across i := by decide
  calc (across (k + 1)).turnedBack
      = (across (k % 6 + 1)).turnedBack := by rw [across_congr (Nat.mod_add_mod k 6 1)]
    _ = across (k % 6) := hsix ⟨k % 6, Nat.mod_lt k (by decide)⟩
    _ = across k := across_congr (Nat.mod_mod k 6)

lemma turnedBackBy_origin (n : Nat) : turnedBackBy n origin = origin := by
  induction n with
  | zero => rfl
  | succ n ih => exact ih

end Hex

open Hex

/-! ### Arcs between two hexsides -/

namespace Arc

/-- The two hexsides between which an arc lies, counted clockwise from the facing. -/
def hexsides : Arc → Nat × Nat
  | .front => (5, 1)
  | .right => (1, 2)
  | .rear => (2, 4)
  | .left => (4, 5)

/-- How many steps across its two hexsides may make up a step of an arc. The hexes straight
across both hexsides of the front are its own, as are those of the rear, so that the flanks are
left with what lies strictly between theirs. -/
def Allows : Arc → Int → Int → Prop
  | .front, m, n => 0 ≤ m ∧ 0 ≤ n
  | .rear, m, n => 0 ≤ m ∧ 0 ≤ n ∧ ¬(m = 0 ∧ n = 0)
  | .right, m, n => 1 ≤ m ∧ 1 ≤ n
  | .left, m, n => 1 ≤ m ∧ 1 ≤ n

/-- Whether a step lies in an arc of an observer with the given facing: it is made of steps
across the two hexsides of the arc. -/
def Spans (arc : Arc) (facing : Nat) (d : Hex) : Prop :=
  ∃ m n : Int, arc.Allows m n ∧
    d = m • across (facing + arc.hexsides.1) + n • across (facing + arc.hexsides.2)

/-- The arc on the other side. -/
def opposite : Arc → Arc
  | .front => .rear
  | .rear => .front
  | .left => .right
  | .right => .left

variable {arc : Arc} {d : Hex} {f : Nat}

lemma opposite_opposite (arc : Arc) : arc.opposite.opposite = arc := by
  cases arc <;> rfl

/-- Turning back by one hexside takes the arcs of a facing to those of the facing before. -/
lemma spans_succ_iff : arc.Spans (f + 1) d ↔ arc.Spans f d.turnedBack := by
  refine exists_congr fun m => exists_congr fun n => and_congr_right fun _ => ?_
  rw [← turnedBack_inj, turnedBack_smul_add_smul, Nat.add_right_comm f 1, Nat.add_right_comm f 1,
    turnedBack_across, turnedBack_across]

/-- The arcs of any observer are those of one who looks north, after the turn. -/
lemma spans_iff_north : arc.Spans f d ↔ arc.Spans 0 (turnedBackBy f d) := by
  induction f generalizing d with
  | zero => rfl
  | succ f ih => rw [spans_succ_iff, ih, turnedBackBy]

/-- **The arcs of an observer who looks north.** -/
lemma ofStep_eq_iff : ofStep d = arc ↔ arc.Spans 0 d := by
  have hsides : across 1 = ⟨1, -1⟩ ∧ across 2 = ⟨1, 0⟩ ∧ across 4 = ⟨-1, 1⟩ ∧
      across 5 = ⟨-1, 0⟩ := by decide
  obtain ⟨hone, htwo, hfour, hfive⟩ := hsides
  obtain ⟨q, r⟩ := d
  simp only [ofStep, Hex.s, Spans, Nat.zero_add, eq_iff, add_q, add_r, smul_q, smul_r]
  -- The coordinates of a step tell how many steps across the two hexsides it takes.
  cases arc with
  | front =>
      simp only [hexsides, Allows, hone, hfive]
      constructor
      · intro h
        exact ⟨-q - r, -r, by grind⟩
      · rintro ⟨m, n, hallows, hstep⟩
        grind
  | rear =>
      simp only [hexsides, Allows, htwo, hfour]
      constructor
      · intro h
        exact ⟨q + r, r, by grind⟩
      · rintro ⟨m, n, hallows, hstep⟩
        grind
  | right =>
      simp only [hexsides, Allows, hone, htwo]
      constructor
      · intro h
        exact ⟨-r, q + r, by grind⟩
      · rintro ⟨m, n, hallows, hstep⟩
        grind
  | left =>
      simp only [hexsides, Allows, hfour, hfive]
      constructor
      · intro h
        exact ⟨r, -q - r, by grind⟩
      · rintro ⟨m, n, hallows, hstep⟩
        grind

/-! ### The facing the other way -/

lemma spans_congr {g : Nat} (h : f % 6 = g % 6) : arc.Spans f d ↔ arc.Spans g d := by
  rw [Spans, Spans, across_congr (Nat.ModEq.add_right _ h : _ ≡ _ [MOD 6]),
    across_congr (Nat.ModEq.add_right _ h : _ ≡ _ [MOD 6])]

/-- Across from each hexside of an arc lies one of the arc on the other side. -/
lemma across_opposite (arc : Arc) (f : Nat) :
    across (f + 3 + arc.hexsides.1) = across (f + arc.opposite.hexsides.1) ∧
      across (f + 3 + arc.hexsides.2) = across (f + arc.opposite.hexsides.2) := by
  cases arc <;> constructor <;> refine across_congr ?_ <;> simp only [hexsides, opposite] <;> omega

/-- The arcs of the facing the other way are those on the other side, except that the own hex
lies in front of both. -/
lemma spans_add_three_iff (hd : d ≠ origin) : arc.Spans (f + 3) d ↔ arc.opposite.Spans f d := by
  obtain ⟨hfirst, hlast⟩ := arc.across_opposite f
  rw [Spans, Spans, hfirst, hlast]
  refine exists_congr fun m => exists_congr fun n => and_congr_left fun heq => ?_
  have hsome : ¬(m = 0 ∧ n = 0) := by
    rintro ⟨rfl, rfl⟩
    refine hd (heq.trans ?_)
    simp only [eq_iff, add_q, add_r, smul_q, smul_r, Int.zero_mul]
    decide
  cases arc <;> simp only [Allows, opposite, hsome, not_false_eq_true, and_true]

end Arc

/-! ### The arcs of a unit -/

open Arc

lemma arcTo_eq (a : Hex) (facing : Facing) (b : Hex) :
    a.arcTo facing b = ofStep ((b - a).turnedBackBy facing.index) := by
  rw [arcTo]
  split
  · next hown =>
      rw [hown, turnedBackBy_origin]
      rfl
  · rfl

/-- **Arcs lie between the hexsides of a facing.** Another hex is in front when the step to it is
made of steps across the two hexsides next to the facing, behind when it is made of steps, at
least one, across the two next to the facing the other way, and on a flank when it is made of
steps across the two hexsides of that flank, at least one across each. So every hex lies in one
arc and in no other. For the facing the other way, front and rear change places and so do left
and right, as long as the hex is not the own one. -/
theorem arcTo_eq_iff_spans (a b : Hex) (facing : Facing) :
    (∀ arc, a.arcTo facing b = arc ↔ arc.Spans facing.index (b - a)) ∧
    (∃! arc : Arc, arc.Spans facing.index (b - a)) ∧
    (b ≠ a → a.arcTo facing.opposite b = (a.arcTo facing b).opposite) := by
  have hspans : ∀ (f : Facing) (arc : Arc),
      a.arcTo f b = arc ↔ arc.Spans f.index (b - a) := by
    intro f arc
    rw [arcTo_eq, ofStep_eq_iff, ← spans_iff_north]
  refine ⟨hspans facing,
    ⟨_, (hspans facing _).mp rfl, fun arc h => ((hspans facing arc).mpr h).symm⟩, fun hne => ?_⟩
  have hstep : b - a ≠ origin := by
    intro h
    refine hne (eq_iff.mpr ?_)
    have := eq_iff.mp h
    simp only [sub_q, sub_r, origin] at this
    omega
  have hturned : facing.opposite.index % 6 = (facing.index + 3) % 6 := Nat.mod_mod _ 6
  rw [hspans, spans_congr hturned, spans_add_three_iff hstep, opposite_opposite, ← hspans]

/-- Facing 8 is facing 2, so three hexes south are straight across a hexside of the front, and
behind a unit that faces the other way. -/
theorem arcTo_eq_iff_spans_south :
    origin.arcTo ⟨8⟩ ⟨0, 3⟩ = .front ∧ (⟨0, 3⟩ : Hex) ≠ origin ∧
      origin.arcTo (Facing.opposite ⟨8⟩) ⟨0, 3⟩ = .rear := by
  obtain ⟨hspans, -, hopposite⟩ := arcTo_eq_iff_spans origin ⟨0, 3⟩ ⟨8⟩
  have hfront : origin.arcTo ⟨8⟩ ⟨0, 3⟩ = .front :=
    (hspans .front).mpr ⟨0, 3, ⟨by decide, by decide⟩, by decide⟩
  have hother : (⟨0, 3⟩ : Hex) ≠ origin := by decide
  exact ⟨hfront, hother, by rw [hopposite hother, hfront]; rfl⟩

end MechBattle
