/-
The hex board: coordinates, facings, distances and firing arcs.

Hexes have axial coordinates, column `q` and row `r`, on a grid of flat
tops. Facing 0 points north, to the row above, and facings go on
clockwise.

* `Hex`: a hex, and also the step from one hex to another, with the third
  coordinate `Hex.s`;
* `Facing`: a hexside, with the step across it, `Facing.step`, and
  turning by hexsides;
* `Hex.distance`: the length of the shortest way between two hexes, given
  by a formula; `Hex.Walk` is a way of a given length;
* `Arc` and `Hex.arcTo`: on which side of a unit another hex lies.
-/

namespace MechBattle

/-- A hex by column and row, or a step by so many columns and rows. -/
structure Hex where
  q : Int
  r : Int
  deriving DecidableEq, Hashable, Repr, Inhabited

namespace Hex

instance : Add Hex := ⟨fun a b => ⟨a.q + b.q, a.r + b.r⟩⟩

instance : Sub Hex := ⟨fun a b => ⟨a.q - b.q, a.r - b.r⟩⟩

theorem add_q (a b : Hex) : (a + b).q = a.q + b.q := rfl

theorem add_r (a b : Hex) : (a + b).r = a.r + b.r := rfl

theorem sub_q (a b : Hex) : (a - b).q = a.q - b.q := rfl

theorem sub_r (a b : Hex) : (a - b).r = a.r - b.r := rfl

/-- The hex with both coordinates zero. -/
def origin : Hex := ⟨0, 0⟩

/-- The third coordinate; all three add up to zero. -/
def s (a : Hex) : Int := -a.q - a.r

end Hex

/-! ### Facings -/

/-- A hexside, counted clockwise from north. Facings are written 0 to 5;
a record may hold a larger number. -/
structure Facing where
  index : Nat
  deriving DecidableEq, Repr, Inhabited

namespace Facing

/-- The facing with a number, which wraps past 5. -/
def wrap (n : Nat) : Facing := ⟨n % 6⟩

/-- North. -/
def north : Facing := ⟨0⟩

/-- The facing some hexsides further clockwise. For facings up to 250 the
sum fits into a byte. -/
def turned (f : Facing) (hexsides : Nat) : Facing := wrap (f.index + hexsides % 6)

/-- The facing the other way. -/
def opposite (f : Facing) : Facing := f.turned 3

/-- The step across the hexside. Numbers past 5 count as north-west. -/
def step (f : Facing) : Hex :=
  match f.index with
  | 0 => ⟨0, -1⟩
  | 1 => ⟨1, -1⟩
  | 2 => ⟨1, 0⟩
  | 3 => ⟨0, 1⟩
  | 4 => ⟨-1, 1⟩
  | _ => ⟨-1, 0⟩

theorem wrap_index_lt (n : Nat) : (wrap n).index < 6 := Nat.mod_lt n (by decide)

theorem turned_index_lt (f : Facing) (n : Nat) : (f.turned n).index < 6 := wrap_index_lt _

end Facing

namespace Hex

/-- The next hex across a hexside. -/
def neighbor (a : Hex) (f : Facing) : Hex := a + f.step

/-! ### Distance -/

/-- How many hexes apart two hexes lie. The sum of the three coordinates
is twice the distance, so that counters hold all that is computed here
just for hexes fewer than `2³⁰` apart. -/
def distance (a b : Hex) : Int :=
  let dq := a.q - b.q
  let dr := a.r - b.r
  ((dq.natAbs + dr.natAbs + (dq + dr).natAbs : Nat) : Int) / 2

theorem distance_nonneg (a b : Hex) : 0 ≤ a.distance b := by
  simp only [distance]
  omega

theorem distance_comm (a b : Hex) : a.distance b = b.distance a := by
  simp only [distance]
  omega

theorem distance_eq_zero {a b : Hex} : a.distance b = 0 ↔ a = b := by
  obtain ⟨q, r⟩ := a
  obtain ⟨q', r'⟩ := b
  simp only [distance, mk.injEq]
  omega

/-- A way of `n` steps from hex to neighbouring hex. -/
inductive Walk : Nat → Hex → Hex → Prop where
  /-- Staying put. -/
  | stay (a : Hex) : Walk 0 a a
  /-- One step first, then the rest of the way. -/
  | step {n : Nat} {a b : Hex} (f : Facing) (facing_lt : f.index < 6)
      (rest : Walk n (a.neighbor f) b) : Walk (n + 1) a b

/-! ### Arcs -/

/-- A step seen by an observer who turns one hexside clockwise. -/
def turnedBack (d : Hex) : Hex := ⟨d.q + d.r, -d.q⟩

/-- A step seen by an observer who turns so many hexsides clockwise. -/
def turnedBackBy : Nat → Hex → Hex
  | 0, d => d
  | n + 1, d => turnedBackBy n d.turnedBack

end Hex

/-- A side of a unit, as seen from it. -/
inductive Arc where
  | front
  | left
  | right
  | rear
  deriving DecidableEq, Repr

/-- The arc of a step for an observer who looks north: the front is the
wedge between the two forward diagonals, the rear the wedge behind, and
what is left lies on one side or the other. -/
def Arc.ofStep (d : Hex) : Arc :=
  if 0 ≤ d.s ∧ d.r ≤ 0 then .front
  else if d.s ≤ 0 ∧ 0 ≤ d.r then .rear
  else if d.q < 0 then .left
  else .right

/-- The arc in which an observer at `a` with the given facing sees `b`.
The own hex counts as in front. Turning the step moves its three
coordinates around and changes their signs. Counters hold them all as long
as none of the three of `b - a` exceeds `2³¹ - 1`, whatever its sign. -/
def Hex.arcTo (a : Hex) (facing : Facing) (b : Hex) : Arc :=
  if b - a = origin then .front
  else Arc.ofStep ((b - a).turnedBackBy facing.index)

end MechBattle
