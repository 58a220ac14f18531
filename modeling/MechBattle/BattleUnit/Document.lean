/-
Units as documents.

* the words for components, classes of units and terrain;
* values by location, under the names of the locations;
* the documents of components, parts, pilots and units.
-/
import MechBattle.BattleUnit
import MechBattle.Board
import MechBattle.Rules.Document

namespace MechBattle

open Document

/-! ### Words and places -/

instance : Documented ComponentKind where
  toDocument k := word k.name
  ofDocument? := ofWord? (ComponentKind.all.map fun k => (k.name, k))

/-- The names of classes of units. -/
def UnitClass.names : List (String × UnitClass) :=
  [("Mech", .mech), ("Vehicle", .vehicle), ("Infantry", .infantry)]

instance : Documented UnitClass := ⟨ofNamed UnitClass.names, ofWord? UnitClass.names⟩

/-- The names of terrain, water apart. -/
def Terrain.names : List (String × Terrain) :=
  [("Clear", .clear), ("Rough", .rough), ("LightWoods", .lightWoods),
    ("HeavyWoods", .heavyWoods), ("Rubble", .rubble)]

instance : Documented Terrain where
  toDocument
    | .water depth => record "" [entry "Water" depth]
    | t => ofNamed Terrain.names t
  ofDocument?
    | word s => Terrain.names.lookup s
    | d => do return .water (← field? (← d.fields? "") "Water")

instance : Documented Facing where
  toDocument f := wrapped "Facing" (number f.index)
  ofDocument? d := d.byte?.map Facing.mk

instance : Documented Hex where
  toDocument h := record "HexCoord" [entry "q" h.q, entry "r" h.r]
  ofDocument? d := do
    let fs ← d.fields? "HexCoord"
    return ⟨← field? fs "q", ← field? fs "r"⟩

/-- The document of a unit's number. -/
def unitDocument (id : UnitId) : Document := wrapped "UnitId" (number id)

/-- Values by location. -/
def byLocation {α : Type} (f : α → Document) (m : Location.Map α) : Document :=
  record "" (m.toList.map fun (l, a) => (l.name, f a))

/-- Values read by location. -/
def ofByLocation? {α : Type} [Documented α] (d : Document) : Option (Location.Map α) := do
  (← d.fields? "").foldlM (fun m (name, d) => do
    return m.insert (← Location.ofName? name) (← ofDocument? d)) Location.Map.empty

/-! ### Components, parts and pilots -/

instance : Documented AmmoBin where
  toDocument b := record "AmmoBin"
    [entry "remaining_shots" b.shots, entry "damage_per_shot" b.perShot]
  ofDocument? d := do
    let fs ← d.fields? "AmmoBin"
    return ⟨← field? fs "remaining_shots", ← field? fs "damage_per_shot"⟩

instance : Documented Component where
  toDocument c := record "Component"
    [entry "name" c.name, entry "kind" c.kind, entry "first_slot" c.firstSlot,
      entry "slot_count" c.slotCount, entry "is_destroyed" c.destroyed,
      entry "is_active" c.active, entry "is_available" c.available, entry "ammo" c.ammo,
      entry "explosion_damage" c.burst, entry "has_exploded" c.exploded]
  ofDocument? d := do
    let fs ← d.fields? "Component"
    return {
      name := ← field? fs "name"
      kind := ← field? fs "kind"
      firstSlot := ← field? fs "first_slot"
      slotCount := ← field? fs "slot_count"
      destroyed := ← field? fs "is_destroyed"
      active := ← field? fs "is_active"
      available := ← field? fs "is_available"
      ammo := ← optional? fs "ammo"
      burst := ← optional? fs "explosion_damage"
      exploded := ← field? fs "has_exploded" }

instance : Documented BodyPart where
  toDocument p := record "Part"
    [entry "location" p.location, entry "armor" p.armor, entry "max_armor" p.maxArmor,
      entry "rear_armor" p.rearArmor, entry "max_rear_armor" p.maxRearArmor,
      entry "structure" p.internal, entry "max_structure" p.maxInternal,
      entry "slot_count" p.slotCount, entry "components" p.components]
  ofDocument? d := do
    let fs ← d.fields? "Part"
    return {
      location := ← field? fs "location"
      armor := ← field? fs "armor"
      maxArmor := ← field? fs "max_armor"
      rearArmor := ← field? fs "rear_armor"
      maxRearArmor := ← field? fs "max_rear_armor"
      internal := ← field? fs "structure"
      maxInternal := ← field? fs "max_structure"
      slotCount := ← field? fs "slot_count"
      components := ← field? fs "components" }

instance : Documented Pilot where
  toDocument p := record "Pilot"
    [entry "name" p.name, entry "gunnery" p.gunnery, entry "piloting" p.piloting,
      entry "wounds" p.wounds, entry "is_conscious" p.conscious, entry "is_dead" p.dead,
      entry "pending_consciousness_rolls" p.pending]
  ofDocument? d := do
    let fs ← d.fields? "Pilot"
    return {
      name := ← field? fs "name"
      gunnery := ← field? fs "gunnery"
      piloting := ← field? fs "piloting"
      wounds := ← field? fs "wounds"
      conscious := ← field? fs "is_conscious"
      dead := ← field? fs "is_dead"
      pending := ← field? fs "pending_consciousness_rolls" }

/-! ### Units -/

instance : Documented Movement where
  toDocument m := record "MovementState" [entry "mode" m.mode, entry "hexes_moved" m.hexes]
  ofDocument? d := do
    let fs ← d.fields? "MovementState"
    return ⟨← field? fs "mode", ← field? fs "hexes_moved"⟩

/-- The targets of weapons, under the names of the weapons. -/
def targetsOf? (d : Document) : Option (List (String × UnitId)) := do
  (← d.fields? "").mapM fun (name, d) => do return (name, ← ofDocument? d)

instance : Documented BattleUnit where
  toDocument u := record "Unit"
    [("id", unitDocument u.id), entry "name" u.name, entry "kind" u.kind,
      entry "tonnage" u.tonnage, ("parts", byLocation toDocument u.parts), entry "heat" u.heat,
      entry "pilot" u.pilot, entry "position" u.position, entry "facing" u.facing,
      entry "movement" u.movement, entry "is_prone" u.prone, entry "is_shutdown" u.shutdown,
      ("weapon_targets", record "" (u.weaponTargets.map fun (name, id) => (name, unitDocument id))),
      entry "damage_this_phase" u.phaseDamage]
  ofDocument? d := do
    let fs ← d.fields? "Unit"
    return {
      id := ← field? fs "id"
      name := ← field? fs "name"
      kind := ← field? fs "kind"
      tonnage := ← field? fs "tonnage"
      parts := ← ofByLocation? (← fs.lookup "parts")
      heat := ← field? fs "heat"
      pilot := ← optional? fs "pilot"
      position := ← optional? fs "position"
      facing := ← field? fs "facing"
      movement := ← field? fs "movement"
      prone := ← field? fs "is_prone"
      shutdown := ← field? fs "is_shutdown"
      weaponTargets := ← targetsOf? (← fs.lookup "weapon_targets")
      phaseDamage := ← field? fs "damage_this_phase" }

end MechBattle
