/-
The battle board: terrain, elevation and lines of sight.

* `Terrain` and `Ground`: what a hex holds;
* `Board`: a sparse board, on which a hex never laid is clear ground at
  level 0; `Board.ground` reads it and `Board.lay` changes one hex;
* `Board.along`: the hexes on a line with their ground;
* `Board.sees`: whether a unit on one hex sees a unit on another.
-/
import Std.Data.HashMap
import MechBattle.Counter
import MechBattle.Hex.Line

namespace MechBattle

/-- What covers a hex. -/
inductive Terrain where
  | clear
  /-- Broken ground. -/
  | rough
  | lightWoods
  | heavyWoods
  | water (depth : Nat)
  /-- Fallen buildings. -/
  | rubble
  deriving DecidableEq, Repr, Inhabited

/-- How much a hex of woods hides what lies behind it. -/
def Terrain.density : Terrain → Int
  | .lightWoods => 1
  | .heavyWoods => 2
  | _ => 0

/-- The ground of one hex. -/
structure Ground where
  terrain : Terrain := .clear
  elevation : Int := 0
  deriving DecidableEq, Repr, Inhabited

/-- A board, given by the hexes that are not clear ground at level 0. -/
structure Board where
  laid : Std.HashMap Hex Ground := {}

namespace Board

/-- The board on which all ground is clear. -/
def empty : Board := {}

/-- The ground of a hex. -/
def ground (b : Board) (h : Hex) : Ground := b.laid.getD h {}

/-- The board with the ground of one hex laid anew. -/
def lay (b : Board) (h : Hex) (g : Ground) : Board := ⟨b.laid.insert h g⟩

theorem ground_empty (h : Hex) : empty.ground h = {} := by
  simp [ground, empty]

theorem ground_lay (b : Board) (h k : Hex) (g : Ground) :
    (b.lay h g).ground k = if h = k then g else b.ground k := by
  simp [ground, lay, Std.HashMap.getD_insert]

/-- The hexes on the line from one hex to another, without the first and
with the last, and their ground. -/
def along (b : Board) (start stop : Hex) : List (Hex × Ground) :=
  (start.lineTo stop).map fun h => (h, b.ground h)

/-- How high a standing unit rises above its hex. -/
def unitHeight : Int := 1

/-- The density of woods from which on nothing is seen behind them. -/
def densityLimit : Int := 3

/-- The height up to which ground does not hide two units from each
other: the top of the higher one. This is a counter for elevations below
`2³¹ - 1`. -/
def sightCeiling (b : Board) (start stop : Hex) : Int :=
  max ((b.ground start).elevation + unitHeight) ((b.ground stop).elevation + unitHeight)

/-- Whether a unit on one hex sees a unit on another. Only the hexes
strictly between them can hide them: by rising above both units, or by
their woods together. -/
def sees (b : Board) (start stop : Hex) : Bool :=
  let between := ((start.lineTo stop).dropLast).map b.ground
  between.all (fun g => decide (g.elevation ≤ b.sightCeiling start stop)) &&
    decide (sumOf (between.map fun g => g.terrain.density) < densityLimit)

end Board

end MechBattle
