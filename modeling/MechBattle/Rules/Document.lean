/-
Rules as documents.

A document of rules names the tables it changes; the others are the
standard ones. Only hit tables, steps and structure rows have to be
complete.

* the words for locations, sides, modes of movement, range bands and
  piloting factors;
* the documents of the parts of the rules, and of the rules.
-/
import MechBattle.Document
import MechBattle.Rules

namespace MechBattle

open Document

/-! ### Words -/

instance : Documented Location where
  toDocument l := word l.name
  ofDocument? := ofWord? (Location.all.map fun l => (l.name, l))

/-- The names of sides. -/
def Side.names : List (String × Side) :=
  [("Front", .front), ("Left", .left), ("Right", .right), ("Rear", .rear)]

instance : Documented Side := ⟨ofNamed Side.names, ofWord? Side.names⟩

/-- The names of modes of movement. -/
def MovementMode.names : List (String × MovementMode) :=
  [("Stationary", .stationary), ("Walked", .walked), ("Ran", .ran), ("Jumped", .jumped)]

instance : Documented MovementMode := ⟨ofNamed MovementMode.names, ofWord? MovementMode.names⟩

/-- The names of range bands. -/
def RangeBand.names : List (String × RangeBand) :=
  [("Short", .short), ("Medium", .medium), ("Long", .long), ("OutOfRange", .outOfRange)]

instance : Documented RangeBand := ⟨ofNamed RangeBand.names, ofWord? RangeBand.names⟩

/-- The names of piloting factors. -/
def PilotingFactor.names : List (String × PilotingFactor) :=
  [("GyroHit", .gyroHit), ("DamagedGyro", .damagedGyro), ("HipHit", .hipHit),
    ("LegActuatorHit", .legActuatorHit), ("DestroyedHip", .destroyedHip),
    ("DestroyedLegActuator", .destroyedLegActuator), ("DestroyedLeg", .destroyedLeg),
    ("HeavyDamage", .heavyDamage), ("PilotWound", .pilotWound), ("FallLevel", .fallLevel),
    ("RoughTerrain", .roughTerrain), ("Rubble", .rubble)]

instance : Documented PilotingFactor :=
  ⟨ofNamed PilotingFactor.names, ofWord? PilotingFactor.names⟩

/-! ### Parts of the rules -/

instance : Documented Bracket where
  toDocument b := record "Bracket" [entry "from" b.start, entry "value" b.value]
  ofDocument? d := do
    let fs ← d.fields? "Bracket"
    return ⟨← field? fs "from", ← field? fs "value"⟩

instance : Documented StructureRow where
  toDocument r := record "StructureRow"
    [entry "tonnage" r.tonnage, entry "center_torso" r.centerTorso,
      entry "side_torso" r.sideTorso, entry "arm" r.arm, entry "leg" r.leg]
  ofDocument? d := do
    let fs ← d.fields? "StructureRow"
    return ⟨← field? fs "tonnage", ← field? fs "center_torso", ← field? fs "side_torso",
      ← field? fs "arm", ← field? fs "leg"⟩

instance : Documented HitTables where
  toDocument t := record "HitTables"
    [entry "front" t.front, entry "rear" t.rear, entry "left" t.left, entry "right" t.right]
  ofDocument? d := do
    let fs ← d.fields? "HitTables"
    return ⟨← field? fs "front", ← field? fs "rear", ← field? fs "left", ← field? fs "right"⟩

instance : Documented ToHitTables where
  toDocument t := record "ToHitModifiers"
    [entry "attacker_stationary" t.attackerStationary, entry "attacker_walked" t.attackerWalked,
      entry "attacker_ran" t.attackerRan, entry "attacker_jumped" t.attackerJumped,
      entry "attacker_prone" t.attackerProne, entry "target_movement" t.targetMovement,
      entry "target_jumped" t.targetJumped, entry "target_prone_adjacent" t.targetProneAdjacent,
      entry "target_prone_ranged" t.targetProneRanged, entry "target_immobile" t.targetImmobile,
      entry "short_range" t.shortRange, entry "medium_range" t.mediumRange,
      entry "long_range" t.longRange, entry "light_woods" t.lightWoods,
      entry "heavy_woods" t.heavyWoods, entry "heat" t.heat, entry "sensor_hit" t.sensorHit,
      entry "sensor_cap" t.sensorCap, entry "secondary_front_arc" t.secondaryFrontArc,
      entry "secondary_other_arc" t.secondaryOtherArc, entry "aimed_head" t.aimedHead,
      entry "aimed_other" t.aimedOther]
  ofDocument? d := do
    let fs ← d.fields? "ToHitModifiers"
    let t : ToHitTables := {}
    return {
      attackerStationary := ← fieldD fs "attacker_stationary" t.attackerStationary
      attackerWalked := ← fieldD fs "attacker_walked" t.attackerWalked
      attackerRan := ← fieldD fs "attacker_ran" t.attackerRan
      attackerJumped := ← fieldD fs "attacker_jumped" t.attackerJumped
      attackerProne := ← fieldD fs "attacker_prone" t.attackerProne
      targetMovement := ← fieldD fs "target_movement" t.targetMovement
      targetJumped := ← fieldD fs "target_jumped" t.targetJumped
      targetProneAdjacent := ← fieldD fs "target_prone_adjacent" t.targetProneAdjacent
      targetProneRanged := ← fieldD fs "target_prone_ranged" t.targetProneRanged
      targetImmobile := ← fieldD fs "target_immobile" t.targetImmobile
      shortRange := ← fieldD fs "short_range" t.shortRange
      mediumRange := ← fieldD fs "medium_range" t.mediumRange
      longRange := ← fieldD fs "long_range" t.longRange
      lightWoods := ← fieldD fs "light_woods" t.lightWoods
      heavyWoods := ← fieldD fs "heavy_woods" t.heavyWoods
      heat := ← fieldD fs "heat" t.heat
      sensorHit := ← fieldD fs "sensor_hit" t.sensorHit
      sensorCap := ← fieldD fs "sensor_cap" t.sensorCap
      secondaryFrontArc := ← fieldD fs "secondary_front_arc" t.secondaryFrontArc
      secondaryOtherArc := ← fieldD fs "secondary_other_arc" t.secondaryOtherArc
      aimedHead := ← fieldD fs "aimed_head" t.aimedHead
      aimedOther := ← fieldD fs "aimed_other" t.aimedOther }

instance : Documented PilotingTables where
  toDocument t := record "PsrModifiers"
    [entry "gyro_hit" t.gyroHit, entry "damaged_gyro" t.damagedGyro, entry "hip_hit" t.hipHit,
      entry "leg_actuator_hit" t.legActuatorHit, entry "destroyed_hip" t.destroyedHip,
      entry "destroyed_leg_actuator" t.destroyedLegActuator,
      entry "destroyed_leg" t.destroyedLeg, entry "heavy_damage" t.heavyDamage,
      entry "pilot_wound" t.pilotWound, entry "fall_level" t.fallLevel,
      entry "rough_terrain" t.roughTerrain, entry "rubble" t.rubble]
  ofDocument? d := do
    let fs ← d.fields? "PsrModifiers"
    let t : PilotingTables := {}
    return {
      gyroHit := ← fieldD fs "gyro_hit" t.gyroHit
      damagedGyro := ← fieldD fs "damaged_gyro" t.damagedGyro
      hipHit := ← fieldD fs "hip_hit" t.hipHit
      legActuatorHit := ← fieldD fs "leg_actuator_hit" t.legActuatorHit
      destroyedHip := ← fieldD fs "destroyed_hip" t.destroyedHip
      destroyedLegActuator := ← fieldD fs "destroyed_leg_actuator" t.destroyedLegActuator
      destroyedLeg := ← fieldD fs "destroyed_leg" t.destroyedLeg
      heavyDamage := ← fieldD fs "heavy_damage" t.heavyDamage
      pilotWound := ← fieldD fs "pilot_wound" t.pilotWound
      fallLevel := ← fieldD fs "fall_level" t.fallLevel
      roughTerrain := ← fieldD fs "rough_terrain" t.roughTerrain
      rubble := ← fieldD fs "rubble" t.rubble }

/-! ### The rules -/

/-- A number of wounds, which is counted in one byte. -/
def woundsField? (fields : List (String × Document)) (name : String) (wounds : Nat) : Option Nat :=
  match named fields name with
  | [] => some wounds
  | [d] => d.byte?
  | _ => none

instance : Documented Rules where
  toDocument r := record "RulesConfig"
    [entry "head_structure" r.headStructure, entry "structure" r.structures,
      entry "hit_tables" r.hitTables, entry "critical_hits" r.criticalHits,
      entry "to_hit" r.toHit, entry "psr" r.piloting,
      entry "heavy_damage_threshold" r.heavyDamageThreshold, entry "shutdown" r.shutdown,
      entry "automatic_shutdown_heat" r.automaticShutdownHeat,
      entry "auto_restart_below" r.autoRestartBelow, entry "ammo_explosion" r.ammoExplosion,
      entry "fall_damage_per_ten_tons" r.fallDamagePerTenTons,
      entry "fall_cluster_size" r.fallClusterSize,
      entry "consciousness_numbers" r.consciousnessNumbers,
      entry "lethal_wounds" r.lethalWounds]
  ofDocument? d := do
    let fs ← d.fields? "RulesConfig"
    let r := Rules.standard
    return {
      headStructure := ← fieldD fs "head_structure" r.headStructure
      structures := ← fieldD fs "structure" r.structures
      hitTables := ← fieldD fs "hit_tables" r.hitTables
      criticalHits := ← fieldD fs "critical_hits" r.criticalHits
      toHit := ← fieldD fs "to_hit" r.toHit
      piloting := ← fieldD fs "psr" r.piloting
      heavyDamageThreshold := ← fieldD fs "heavy_damage_threshold" r.heavyDamageThreshold
      shutdown := ← fieldD fs "shutdown" r.shutdown
      automaticShutdownHeat := ← fieldD fs "automatic_shutdown_heat" r.automaticShutdownHeat
      autoRestartBelow := ← fieldD fs "auto_restart_below" r.autoRestartBelow
      ammoExplosion := ← fieldD fs "ammo_explosion" r.ammoExplosion
      fallDamagePerTenTons := ← fieldD fs "fall_damage_per_ten_tons" r.fallDamagePerTenTons
      fallClusterSize := ← fieldD fs "fall_cluster_size" r.fallClusterSize
      consciousnessNumbers := ← fieldD fs "consciousness_numbers" r.consciousnessNumbers
      lethalWounds := ← woundsField? fs "lethal_wounds" r.lethalWounds }

end MechBattle
