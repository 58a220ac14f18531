/-
Results of the rules as documents.

* the documents of damage, critical hits, piloting rolls, falls, heat
  checks, consciousness rolls and firing solutions;
* the documents of events and of log entries, which hold them all.
-/
import MechBattle.BattleUnit.Document
import MechBattle.Log

namespace MechBattle

open Document

instance : Documented TwoDice where
  toDocument d := record "DiceRoll" [entry "first" d.first, entry "second" d.second]
  ofDocument? d := do
    let fs ← d.fields? "DiceRoll"
    return ⟨← field? fs "first", ← field? fs "second"⟩

/-! ### Damage and critical hits -/

instance : Documented Absorption where
  toDocument a := record "DamageResult"
    [entry "location" a.location, entry "armor_damage" a.armor,
      entry "structure_damage" a.internal, entry "is_rear_armor" a.rear,
      entry "is_location_destroyed" a.destroyed]
  ofDocument? d := do
    let fs ← d.fields? "DamageResult"
    return ⟨← field? fs "location", ← field? fs "armor_damage", ← field? fs "structure_damage",
      ← field? fs "is_rear_armor", ← field? fs "is_location_destroyed"⟩

instance : Documented SlotHit where
  toDocument h := record "CriticalHit"
    [entry "slot" h.slot, entry "component" h.component, entry "component_name" h.componentName]
  ofDocument? d := do
    let fs ← d.fields? "CriticalHit"
    return ⟨← field? fs "slot", ← optional? fs "component", ← optional? fs "component_name"⟩

instance : Documented Explosion where
  toDocument e := record "ExplosionResult"
    [entry "component" e.component, entry "component_name" e.componentName, entry "slot" e.slot,
      entry "damage" e.damage, entry "distribution" e.spread]
  ofDocument? d := do
    let fs ← d.fields? "ExplosionResult"
    return ⟨← field? fs "component", ← field? fs "component_name", ← field? fs "slot",
      ← field? fs "damage", ← field? fs "distribution"⟩

instance : Documented CriticalReport where
  toDocument r := record "CriticalHitResult"
    [entry "location" r.location, entry "roll" r.roll, entry "hit_count" r.hitCount,
      entry "hits" r.hits, entry "explosions" r.explosions]
  ofDocument? d := do
    let fs ← d.fields? "CriticalHitResult"
    return ⟨← field? fs "location", ← field? fs "roll", ← field? fs "hit_count",
      ← field? fs "hits", ← field? fs "explosions"⟩

/-! ### Piloting rolls and falls -/

/-- The names of reasons, that of an injury roll apart. -/
def CheckReason.names : List (String × CheckReason) :=
  [("GyroHit", .gyroHit), ("HipActuatorHit", .hipHit), ("LegActuatorHit", .legActuatorHit),
    ("HeavyDamage", .heavyDamage)]

instance : Documented CheckReason where
  toDocument
    | .fallInjury levels => record "" [("FallPilotDamage", record "" [entry "levels" levels])]
    | reason => ofNamed CheckReason.names reason
  ofDocument?
    | word s => CheckReason.names.lookup s
    | d => do
      let content ← (← d.fields? "").lookup "FallPilotDamage"
      return .fallInjury (← field? (← content.fields? "") "levels")

instance : Documented CheckModifier where
  toDocument m := record "PsrModifier"
    [entry "kind" m.factor, entry "name" m.name, entry "value" m.value]
  ofDocument? d := do
    let fs ← d.fields? "PsrModifier"
    return ⟨← field? fs "kind", ← field? fs "name", ← field? fs "value"⟩

instance : Documented PilotingCheck where
  toDocument c := record "PsrBreakdown"
    [entry "roll_types" c.reasons, entry "base_skill" c.base, entry "modifiers" c.modifiers,
      entry "modified_skill" c.target, entry "is_impossible" c.impossible]
  ofDocument? d := do
    let fs ← d.fields? "PsrBreakdown"
    return ⟨← field? fs "roll_types", ← field? fs "base_skill", ← field? fs "modifiers",
      ← field? fs "modified_skill", ← field? fs "is_impossible"⟩

instance : Documented CheckOutcome where
  toDocument o := record "PsrOutcome"
    [entry "target" o.target, entry "roll" o.roll, entry "success" o.success]
  ofDocument? d := do
    let fs ← d.fields? "PsrOutcome"
    return ⟨← field? fs "target", ← optional? fs "roll", ← field? fs "success"⟩

instance : Documented DamageCluster where
  toDocument c := record "FallCluster"
    [entry "damage" c.damage, entry "roll" c.roll, entry "location" c.location]
  ofDocument? d := do
    let fs ← d.fields? "FallCluster"
    return ⟨← field? fs "damage", ← field? fs "roll", ← field? fs "location"⟩

instance : Documented Landing where
  toDocument l := record "FallingDamageData"
    [entry "total_damage" l.damage, entry "facing_roll" l.facingRoll, entry "new_facing" l.facing,
      entry "hit_direction" l.side, entry "clusters" l.clusters,
      entry "pilot_damage_roll" l.injuryRoll, entry "pilot_takes_damage" l.injured]
  ofDocument? d := do
    let fs ← d.fields? "FallingDamageData"
    return ⟨← field? fs "total_damage", ← field? fs "facing_roll", ← field? fs "new_facing",
      ← field? fs "hit_direction", ← field? fs "clusters", ← optional? fs "pilot_damage_roll",
      ← field? fs "pilot_takes_damage"⟩

/-- The names of stages. -/
def FallStage.names : List (String × FallStage) :=
  [("Idle", .idle), ("TriggerCheck", .causeCheck), ("PsrRoll", .pilotingRoll),
    ("ApplyFallDamage", .falling), ("PilotDamagePsr", .injuryRoll), ("Done", .done)]

instance : Documented FallStage := ⟨ofNamed FallStage.names, ofWord? FallStage.names⟩

/-- The names of causes. -/
def FallCause.names : List (String × FallCause) :=
  [("GyroHit", .gyroHit), ("HipActuatorHit", .hipHit), ("LegActuatorHit", .legActuatorHit),
    ("HeavyDamage", .heavyDamage)]

instance : Documented FallCause := ⟨ofNamed FallCause.names, ofWord? FallCause.names⟩

instance : Documented FallReport where
  toDocument r := record "FallResult"
    [entry "game_id" r.game, ("unit_id", unitDocument r.unit), entry "states" r.stages,
      entry "trigger" r.cause, entry "psr" r.check, entry "psr_outcome" r.outcome,
      entry "falling_damage" r.landing, entry "damage" r.taken,
      entry "pilot_damage_psr" r.injuryCheck, entry "pilot_damage_outcome" r.injuryOutcome]
  ofDocument? d := do
    let fs ← d.fields? "FallResult"
    return {
      game := ← field? fs "game_id"
      unit := ← field? fs "unit_id"
      stages := ← field? fs "states"
      cause := ← field? fs "trigger"
      check := ← field? fs "psr"
      outcome := ← field? fs "psr_outcome"
      landing := ← optional? fs "falling_damage"
      taken := ← field? fs "damage"
      injuryCheck := ← optional? fs "pilot_damage_psr"
      injuryOutcome := ← optional? fs "pilot_damage_outcome" }

/-! ### Heat and consciousness -/

instance : Documented ShutdownCheck where
  toDocument c := record "ShutdownCheck"
    [("unit_id", unitDocument c.unit), entry "turn" c.turn, entry "heat" c.heat,
      entry "avoid_number" c.avoid, entry "roll" c.roll, entry "automatic" c.automatic,
      entry "shutdown" c.shutdown]
  ofDocument? d := do
    let fs ← d.fields? "ShutdownCheck"
    return ⟨← field? fs "unit_id", ← field? fs "turn", ← field? fs "heat",
      ← optional? fs "avoid_number", ← optional? fs "roll", ← field? fs "automatic",
      ← field? fs "shutdown"⟩

instance : Documented CookOffCheck where
  toDocument c := record "AmmoExplosionCheck"
    [("unit_id", unitDocument c.unit), entry "turn" c.turn, entry "heat" c.heat,
      entry "avoid_number" c.avoid, entry "roll" c.roll, entry "location" c.location,
      entry "slot" c.slot, entry "component_name" c.componentName, entry "damage" c.damage,
      entry "exploded" c.exploded]
  ofDocument? d := do
    let fs ← d.fields? "AmmoExplosionCheck"
    return ⟨← field? fs "unit_id", ← field? fs "turn", ← field? fs "heat",
      ← field? fs "avoid_number", ← field? fs "roll", ← field? fs "location", ← field? fs "slot",
      ← field? fs "component_name", ← field? fs "damage", ← field? fs "exploded"⟩

instance : Documented ConsciousnessRoll where
  toDocument r := record "ConsciousnessRollResult"
    [entry "target" r.target, entry "roll" r.roll, entry "success" r.success,
      entry "is_recovery" r.recovery]
  ofDocument? d := do
    let fs ← d.fields? "ConsciousnessRollResult"
    return ⟨← field? fs "target", ← field? fs "roll", ← field? fs "success",
      ← field? fs "is_recovery"⟩

/-! ### Attacks -/

instance : Documented Weapon where
  toDocument w := record "Weapon"
    [entry "name" w.name, entry "min_range" w.minRange, entry "short_range" w.shortRange,
      entry "medium_range" w.mediumRange, entry "long_range" w.longRange,
      entry "damage" w.damage, entry "heat" w.heat]
  ofDocument? d := do
    let fs ← d.fields? "Weapon"
    return ⟨← field? fs "name", ← field? fs "min_range", ← field? fs "short_range",
      ← field? fs "medium_range", ← field? fs "long_range", ← field? fs "damage",
      ← field? fs "heat"⟩

instance : Documented Attack where
  toDocument a := record "AttackDeclaration"
    [entry "weapon" a.weapon, entry "aimed_location" a.aimed, entry "is_secondary" a.secondary]
  ofDocument? d := do
    let fs ← d.fields? "AttackDeclaration"
    return ⟨← field? fs "weapon", ← optional? fs "aimed_location", ← field? fs "is_secondary"⟩

instance : Documented TerrainItem where
  toDocument i := record "TerrainModifier"
    [entry "coord" i.hex, entry "terrain" i.terrain, entry "value" i.value]
  ofDocument? d := do
    let fs ← d.fields? "TerrainModifier"
    return ⟨← field? fs "coord", ← field? fs "terrain", ← field? fs "value"⟩

instance : Documented NamedItem where
  toDocument i := record "ToHitModifier" [entry "name" i.name, entry "value" i.value]
  ofDocument? d := do
    let fs ← d.fields? "ToHitModifier"
    return ⟨← field? fs "name", ← field? fs "value"⟩

instance : Documented FiringSolution where
  toDocument f := record "ToHitBreakdown"
    [entry "gunnery" f.gunnery, entry "attacker_movement" f.attackerMovement,
      entry "target_movement" f.targetMovement, entry "distance" f.distance,
      entry "range_bracket" f.band, entry "range" f.range, entry "minimum_range" f.minimumRange,
      entry "terrain" f.terrain, entry "heat" f.heat, entry "sensor_damage" f.sensorDamage,
      entry "secondary_target" f.secondaryTarget, entry "aimed_shot" f.aimedShot,
      entry "other" f.other, entry "total" f.total, entry "is_impossible" f.impossible,
      entry "has_line_of_sight" f.lineOfSight]
  ofDocument? d := do
    let fs ← d.fields? "ToHitBreakdown"
    return {
      gunnery := ← field? fs "gunnery"
      attackerMovement := ← field? fs "attacker_movement"
      targetMovement := ← field? fs "target_movement"
      distance := ← field? fs "distance"
      band := ← field? fs "range_bracket"
      range := ← field? fs "range"
      minimumRange := ← field? fs "minimum_range"
      terrain := ← field? fs "terrain"
      heat := ← field? fs "heat"
      sensorDamage := ← field? fs "sensor_damage"
      secondaryTarget := ← field? fs "secondary_target"
      aimedShot := ← field? fs "aimed_shot"
      other := ← field? fs "other"
      total := ← field? fs "total"
      impossible := ← field? fs "is_impossible"
      lineOfSight := ← field? fs "has_line_of_sight" }

/-! ### Events -/

instance : Documented BattleEvent where
  toDocument
    | .attack attacker target solution roll =>
      record "" [("Attack", record "" [("attacker", unitDocument attacker),
        ("target", unitDocument target), entry "breakdown" solution, entry "roll" roll])]
    | .damage unit taken =>
      record "" [("Damage", record "" [("unit", unitDocument unit), entry "results" taken])]
    | .criticals unit reports =>
      record "" [("CriticalHits", record ""
        [("unit", unitDocument unit), entry "results" reports])]
    | .fall report => record "" [entry "Fall" report]
    | .shutdown check => record "" [entry "HeatShutdown" check]
    | .cookOff check => record "" [entry "AmmoExplosion" check]
    | .consciousness unit rolls =>
      record "" [("Consciousness", record ""
        [("unit", unitDocument unit), entry "results" rolls])]
  ofDocument? d := do
    match ← d.fields? "" with
    | [("Attack", d)] =>
      let fs ← d.fields? ""
      return .attack (← field? fs "attacker") (← field? fs "target") (← field? fs "breakdown")
        (← optional? fs "roll")
    | [("Damage", d)] =>
      let fs ← d.fields? ""
      return .damage (← field? fs "unit") (← field? fs "results")
    | [("CriticalHits", d)] =>
      let fs ← d.fields? ""
      return .criticals (← field? fs "unit") (← field? fs "results")
    | [("Fall", d)] => return .fall (← ofDocument? d)
    | [("HeatShutdown", d)] => return .shutdown (← ofDocument? d)
    | [("AmmoExplosion", d)] => return .cookOff (← ofDocument? d)
    | [("Consciousness", d)] =>
      let fs ← d.fields? ""
      return .consciousness (← field? fs "unit") (← field? fs "results")
    | _ => none

instance : Documented LogEntry where
  toDocument e := record "CombatRecord" [entry "turn" e.turn, entry "event" e.event]
  ofDocument? d := do
    let fs ← d.fields? "CombatRecord"
    return ⟨← field? fs "turn", ← field? fs "event"⟩

end MechBattle
