/-
Units: everything the rules read from one side's machine.

* `BattleUnit`: a unit with its parts, its pilot and its place on the
  board;
* `BattleUnit.part?`: the view of its body that laws are stated with,
  with `BattleUnit.HomeParts` for units whose parts sit under their own
  location;
* `BattleUnit.components`, `hasComponent`, `destroyedCount`: its
  equipment;
* `BattleUnit.struckSide`: the side on which an attack from a hex lands.
-/
import MechBattle.BodyPart
import MechBattle.Hex
import MechBattle.Location.Map
import MechBattle.Pilot
import MechBattle.Rules

namespace MechBattle

/-- The number that a unit has in a battle. -/
abbrev UnitId := Nat

/-- The broad class of a unit. -/
inductive UnitClass where
  | mech
  /-- On tracks or wheels. -/
  | vehicle
  | infantry
  deriving DecidableEq, Repr, Inhabited

/-- How a unit moved this turn. -/
structure Movement where
  mode : MovementMode := .stationary
  /-- Hexes entered. -/
  hexes : Nat := 0
  deriving DecidableEq, Repr

/-- A unit of a battle. -/
structure BattleUnit where
  id : UnitId
  name : String
  kind : UnitClass
  /-- Mass in tons. -/
  tonnage : Nat
  parts : Location.Map BodyPart := .empty
  heat : Int := 0
  pilot : Option Pilot := none
  /-- Where the unit stands, once it is on the board. -/
  position : Option Hex := none
  facing : Facing := .north
  movement : Movement := {}
  /-- Lying on the ground. -/
  prone : Bool := false
  /-- With its reactor shut down. -/
  shutdown : Bool := false
  /-- Targets of its weapons, in the order of the weapons' names. -/
  weaponTargets : List (String × UnitId) := []
  /-- Damage taken in this phase. -/
  phaseDamage : Int := 0
  deriving DecidableEq, Repr

namespace BattleUnit

/-- The part at a location. -/
def part? (u : BattleUnit) (l : Location) : Option BodyPart := u.parts.get? l

/-- Whether every part sits under its own location. -/
def HomeParts (u : BattleUnit) : Prop := ∀ l p, u.part? l = some p → p.location = l

/-- Whether the unit is on the board. -/
def isDeployed (u : BattleUnit) : Bool := u.position.isSome

/-- Every component with the location of its part, in body order and then
in mounting order. -/
def components (u : BattleUnit) : List (Location × Component) :=
  u.parts.values.flatMap fun p => p.components.map fun c => (p.location, c)

/-- Number of components that satisfy a condition. -/
def countComponents (u : BattleUnit) (p : Component → Bool) : Nat :=
  u.components.countP fun (_, c) => p c

/-- Whether a component of a kind is installed, destroyed or not. -/
def hasComponent (u : BattleUnit) (k : ComponentKind) : Bool :=
  u.components.any fun (_, c) => c.kind == k

/-- Number of destroyed components of a kind. A component counts once,
however many slots it has. -/
def destroyedCount (u : BattleUnit) (k : ComponentKind) : Nat :=
  u.countComponents fun c => c.kind == k && c.destroyed

/-- Whether someone at the controls is awake and alive. -/
def hasActivePilot (u : BattleUnit) : Bool :=
  match u.pilot with
  | some p => p.isActive
  | none => false

/-- The target of the first weapon. -/
def primaryTarget? (u : BattleUnit) : Option UnitId := u.weaponTargets.head?.map (·.2)

/-- The side that lies in an arc. -/
def sideOfArc : Arc → Side
  | .front => .front
  | .left => .left
  | .right => .right
  | .rear => .rear

/-- The side on which an attack from a hex lands. A unit that is not on
the board is struck from the front. -/
def struckSide (u : BattleUnit) (attacker : Hex) : Side :=
  match u.position with
  | some here => sideOfArc (here.arcTo u.facing attacker)
  | none => .front

/-- The unit with one part changed. -/
def modifyPart (u : BattleUnit) (l : Location) (f : BodyPart → BodyPart) : BattleUnit :=
  { u with parts := u.parts.modify l f }

theorem part?_modifyPart (u : BattleUnit) (l k : Location) (f : BodyPart → BodyPart) :
    (u.modifyPart l f).part? k = if k = l then (u.part? k).map f else u.part? k :=
  Location.Map.get?_modify u.parts l k f

/-- The unit at the start of a phase. -/
def startPhase (u : BattleUnit) : BattleUnit := { u with phaseDamage := 0 }

end BattleUnit

end MechBattle
