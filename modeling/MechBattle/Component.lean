/-
Components: the equipment mounted in a location.

* `ComponentKind`: what a component is, as far as the rules care;
* `AmmoBin` and `Component`: a component and the ammunition in it;
* `Component.occupies`: the slots a component takes up;
* `Component.pendingExplosion`: the damage its explosion would do now.
-/
import MechBattle.Counter

namespace MechBattle

/-- What a component is. -/
inductive ComponentKind where
  | engine
  | gyro
  | cockpit
  | lifeSupport
  | sensors
  | shoulder
  | upperArmActuator
  | lowerArmActuator
  | handActuator
  | hip
  | upperLegActuator
  | lowerLegActuator
  | footActuator
  | heatSink
  | jumpJet
  | weapon
  | ammo
  deriving DecidableEq, Repr, Inhabited

namespace ComponentKind

/-- Every kind of component. -/
def all : List ComponentKind :=
  [engine, gyro, cockpit, lifeSupport, sensors, shoulder, upperArmActuator, lowerArmActuator,
    handActuator, hip, upperLegActuator, lowerLegActuator, footActuator, heatSink, jumpJet,
    weapon, ammo]

/-- The written name of a kind. -/
def name : ComponentKind → String
  | engine => "Engine"
  | gyro => "Gyro"
  | cockpit => "Cockpit"
  | lifeSupport => "LifeSupport"
  | sensors => "Sensors"
  | shoulder => "Shoulder"
  | upperArmActuator => "UpperArmActuator"
  | lowerArmActuator => "LowerArmActuator"
  | handActuator => "HandActuator"
  | hip => "Hip"
  | upperLegActuator => "UpperLegActuator"
  | lowerLegActuator => "LowerLegActuator"
  | footActuator => "FootActuator"
  | heatSink => "HeatSink"
  | jumpJet => "JumpJet"
  | weapon => "Weapon"
  | ammo => "Ammo"

/-- Whether the kind moves a leg, the hip included. -/
def isLegActuator : ComponentKind → Bool
  | hip | upperLegActuator | lowerLegActuator | footActuator => true
  | _ => false

/-- Whether the kind moves a leg below the hip. -/
def isLowerLeg (k : ComponentKind) : Bool := k.isLegActuator && k != .hip

end ComponentKind

/-- The ammunition in a bin. -/
structure AmmoBin where
  /-- Shots left. -/
  shots : Nat
  /-- Damage of one shot. -/
  perShot : Int
  deriving DecidableEq, Repr

/-- The damage of all shots of a bin together. -/
def AmmoBin.damage (b : AmmoBin) : Int := Counter.mul (Counter.ofNat b.shots) b.perShot

/-- Equipment mounted in a location. -/
structure Component where
  name : String
  kind : ComponentKind
  /-- First slot taken up. -/
  firstSlot : Nat
  /-- Number of slots taken up, one after the other. -/
  slotCount : Nat
  /-- Destroyed by a critical hit. -/
  destroyed : Bool := false
  /-- Switched on. -/
  active : Bool := true
  /-- Usable this turn. -/
  available : Bool := true
  ammo : Option AmmoBin := none
  /-- Damage of an explosion that needs no ammunition. -/
  burst : Option Int := none
  /-- Has exploded already. -/
  exploded : Bool := false
  deriving DecidableEq, Repr

namespace Component

/-- The largest slot number; slots are counted in one byte. -/
def lastSlot : Nat := 255

/-- An intact component, which takes up one slot at least. -/
def intact (name : String) (kind : ComponentKind) (firstSlot slotCount : Nat) : Component :=
  { name, kind, firstSlot, slotCount := max slotCount 1 }

/-- A bin of ammunition, in one slot. -/
def ammoBin (name : String) (firstSlot shots : Nat) (perShot : Int) : Component :=
  { intact name .ammo firstSlot 1 with ammo := some ⟨shots, perShot⟩ }

/-- Whether the component takes up a slot. The slots of a component end
at the largest slot number at the latest, and that one is never taken
up. -/
def occupies (c : Component) (slot : Nat) : Bool :=
  decide (c.firstSlot ≤ slot ∧ slot < min lastSlot (c.firstSlot + c.slotCount))

/-- Whether the component can explode at all. -/
def isExplodable (c : Component) : Bool := c.ammo.isSome || c.burst.isSome

/-- A damage, unless it is none. -/
def positive? (damage : Int) : Option Int := if 0 < damage then some damage else none

/-- The damage the component would do if it exploded now: nothing once it
has exploded, its shots if it is a bin, and its burst otherwise. -/
def pendingExplosion (c : Component) : Option Int :=
  if c.exploded then none
  else
    match c.ammo with
    | some bin => positive? bin.damage
    | none => c.burst.bind positive?

/-- The component after a critical hit. -/
def wrecked (c : Component) : Component :=
  { c with destroyed := true, active := false, available := false }

/-- The component after its explosion: no shots are left. -/
def spent (c : Component) : Component :=
  { c with exploded := true, ammo := c.ammo.map fun bin => { bin with shots := 0 } }

theorem pendingExplosion_spent (c : Component) : c.spent.pendingExplosion = none := rfl

end Component

end MechBattle
