/-
Something kept for each location, or for some of them.

* `Location.Map`: at most one value for each location;
* `Location.Map.get?`: the view of a map that its laws are stated with;
* `Location.Map.ofFn`: the map that `get?` reads back as a given function;
* `put`, `insert`, `modify`, and how each shows in the view;
* `toList`, `values`: what is kept, in body order.
-/
import MechBattle.Location

namespace MechBattle

universe u v

/-- At most one value for each location. -/
structure Location.Map (α : Type u) where
  head : Option α := none
  centerTorso : Option α := none
  leftTorso : Option α := none
  rightTorso : Option α := none
  leftArm : Option α := none
  rightArm : Option α := none
  leftLeg : Option α := none
  rightLeg : Option α := none
  deriving DecidableEq, Repr

namespace Location.Map

variable {α : Type u} {β : Type v}

/-- The map without any value. -/
def empty : Map α := {}

instance : Inhabited (Map α) := ⟨empty⟩

/-- The value kept for a location. -/
def get? (m : Map α) : Location → Option α
  | .head => m.head
  | .centerTorso => m.centerTorso
  | .leftTorso => m.leftTorso
  | .rightTorso => m.rightTorso
  | .leftArm => m.leftArm
  | .rightArm => m.rightArm
  | .leftLeg => m.leftLeg
  | .rightLeg => m.rightLeg

/-- The map with the values of a function. -/
def ofFn (f : Location → Option α) : Map α where
  head := f .head
  centerTorso := f .centerTorso
  leftTorso := f .leftTorso
  rightTorso := f .rightTorso
  leftArm := f .leftArm
  rightArm := f .rightArm
  leftLeg := f .leftLeg
  rightLeg := f .rightLeg

/-- The map with the value of one location set or taken away. -/
def put (m : Map α) (l : Location) (a : Option α) : Map α :=
  ofFn fun k => if k = l then a else m.get? k

/-- The map with one location set. -/
def insert (m : Map α) (l : Location) (a : α) : Map α := m.put l (some a)

/-- The map with the value of one location changed, if it has one. -/
def modify (m : Map α) (l : Location) (f : α → α) : Map α := m.put l ((m.get? l).map f)

/-- Every location that has a value, in body order. -/
def toList (m : Map α) : List (Location × α) :=
  all.filterMap fun l => (m.get? l).map fun a => (l, a)

/-- The values, in body order. -/
def values (m : Map α) : List α := all.filterMap m.get?

@[simp]
theorem get?_ofFn (f : Location → Option α) (l : Location) : (ofFn f).get? l = f l := by
  cases l <;> rfl

@[simp]
theorem get?_empty (l : Location) : (empty : Map α).get? l = none := by
  cases l <;> rfl

theorem ofFn_get? (m : Map α) : ofFn m.get? = m := rfl

@[ext]
theorem ext {m n : Map α} (h : ∀ l, m.get? l = n.get? l) : m = n := by
  rw [← ofFn_get? m, ← ofFn_get? n, funext h]

theorem get?_put (m : Map α) (l k : Location) (a : Option α) :
    (m.put l a).get? k = if k = l then a else m.get? k := by
  simp [put]

theorem get?_insert (m : Map α) (l k : Location) (a : α) :
    (m.insert l a).get? k = if k = l then some a else m.get? k :=
  get?_put m l k (some a)

theorem get?_modify (m : Map α) (l k : Location) (f : α → α) :
    (m.modify l f).get? k = if k = l then (m.get? k).map f else m.get? k := by
  rw [modify, get?_put]
  split
  · next h => rw [h]
  · rfl

end Location.Map

end MechBattle
