/-
Body parts: the armor, structure and equipment of one location.

* `BodyPart`: one location of a unit;
* `BodyPart.intact`: a part without damage;
* `BodyPart.componentAt?`: the component in a slot.
-/
import MechBattle.Component
import MechBattle.Location

namespace MechBattle

/-- One location of a unit. -/
structure BodyPart where
  location : Location
  /-- Armor at the front, or all around where there is no rear armor. -/
  armor : Int
  maxArmor : Int
  /-- Armor at the back of a torso. -/
  rearArmor : Int
  maxRearArmor : Int
  /-- Internal structure. -/
  internal : Int
  maxInternal : Int
  /-- Slots for components. -/
  slotCount : Nat
  components : List Component := []
  deriving DecidableEq, Repr

namespace BodyPart

/-- A part without damage. Nothing is negative, and only torsos have rear
armor. -/
def intact (location : Location) (armor rearArmor internal : Int) : BodyPart :=
  let rear := if location.hasRearArmor then max rearArmor 0 else 0
  { location
    armor := max armor 0
    maxArmor := max armor 0
    rearArmor := rear
    maxRearArmor := rear
    internal := max internal 0
    maxInternal := max internal 0
    slotCount := location.slotCount }

/-- Whether the structure is gone. -/
def isDestroyed (p : BodyPart) : Bool := decide (p.internal ≤ 0)

/-- The armor on the side that is struck. -/
def armorFacing (p : BodyPart) (rear : Bool) : Int :=
  if rear && p.location.hasRearArmor then p.rearArmor else p.armor

/-- Which component is in a slot, by its place in the mounting order. The
first one mounted there counts. -/
def componentIndexAt? (p : BodyPart) (slot : Nat) : Option Nat :=
  p.components.findIdx? (·.occupies slot)

/-- The component in a slot. -/
def componentAt? (p : BodyPart) (slot : Nat) : Option Component :=
  p.components.find? (·.occupies slot)

/-- The part with the component in a slot changed, if there is one. -/
def modifyAt (p : BodyPart) (slot : Nat) (f : Component → Component) : BodyPart :=
  match p.componentIndexAt? slot with
  | some i => { p with components := p.components.modify i f }
  | none => p

end BodyPart

end MechBattle
