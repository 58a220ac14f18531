/-
The body locations of a mech and the way damage takes through them.

* `Location`: the eight locations, in body order in `Location.all`;
* `Location.transfer?`: where damage goes once a location is destroyed;
* `Location.chain`: all locations that damage can reach from one, which
  ends in the center torso.
-/

namespace MechBattle

/-- A body location. -/
inductive Location where
  | head
  | centerTorso
  | leftTorso
  | rightTorso
  | leftArm
  | rightArm
  | leftLeg
  | rightLeg
  deriving DecidableEq, Repr, Inhabited

namespace Location

/-- Every location, in body order. -/
def all : List Location :=
  [head, centerTorso, leftTorso, rightTorso, leftArm, rightArm, leftLeg, rightLeg]

theorem mem_all (l : Location) : l ∈ all := by
  cases l <;> decide

theorem nodup_all : all.Nodup := by decide

/-- The written name of a location. -/
def name : Location → String
  | head => "Head"
  | centerTorso => "CenterTorso"
  | leftTorso => "LeftTorso"
  | rightTorso => "RightTorso"
  | leftArm => "LeftArm"
  | rightArm => "RightArm"
  | leftLeg => "LeftLeg"
  | rightLeg => "RightLeg"

/-- The location with a written name. -/
def ofName? (s : String) : Option Location := all.find? (·.name == s)

/-- Where damage goes once the location is destroyed: from a limb to the
torso beside it, from there and from the head to the center torso, and
no further. -/
def transfer? : Location → Option Location
  | leftArm | leftLeg => some leftTorso
  | rightArm | rightLeg => some rightTorso
  | head | leftTorso | rightTorso => some centerTorso
  | centerTorso => none

/-- The locations that damage can reach from one, in order. -/
def chain : Location → List Location
  | centerTorso => [centerTorso]
  | head => [head, centerTorso]
  | leftTorso => [leftTorso, centerTorso]
  | rightTorso => [rightTorso, centerTorso]
  | leftArm => [leftArm, leftTorso, centerTorso]
  | rightArm => [rightArm, rightTorso, centerTorso]
  | leftLeg => [leftLeg, leftTorso, centerTorso]
  | rightLeg => [rightLeg, rightTorso, centerTorso]

/-- A chain starts with its location and goes on where damage goes. -/
theorem chain_eq (l : Location) :
    l.chain = l :: (match l.transfer? with | some m => m.chain | none => []) := by
  cases l <;> rfl

theorem nodup_chain (l : Location) : l.chain.Nodup := by
  cases l <;> decide

/-- Whether the location has armor of its own at the back. -/
def hasRearArmor : Location → Bool
  | centerTorso | leftTorso | rightTorso => true
  | _ => false

/-- Whether the location is a leg. -/
def isLeg : Location → Bool
  | leftLeg | rightLeg => true
  | _ => false

/-- Number of slots for components. -/
def slotCount : Location → Nat
  | head | leftLeg | rightLeg => 6
  | _ => 12

end Location

end MechBattle
