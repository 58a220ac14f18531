/-
The bytes of a log.

Each record is written field by field, in the form that
`MechBattle.Log.Codec` assumes. A log begins with the number of its form;
a log of another form is read to its end and then refused.

* `BattleLog.Form.log`: the codec of a log, from those of its parts;
* `BattleLog.encode`: the bytes of a log;
* `LogFault` and `BattleLog.decode`: the log that bytes stand for.
  Bytes after its end are ignored.
-/
import MechBattle.Log
import MechBattle.Log.Codec

namespace MechBattle

namespace BattleLog.Form

open Codec

/-! ### Parts of events -/

/-- A number of one byte. -/
def byte : Codec Nat := word 1

/-- A number of four bytes, for units, turns and levels. -/
def count : Codec Nat := word 4

/-- An alternative without content. -/
def plain {β : Type} (b : β) (isIt : β → Bool) : Alternative β :=
  ⟨PUnit, nothing, fun _ => b, fun x => if isIt x then some ⟨⟩ else none⟩

/-- A location, numbered from the head on. -/
def location : Codec Location := choice Location.all

/-- A kind of component, by its number. -/
def component : Codec ComponentKind := choice ComponentKind.all

/-- The two faces of a throw. -/
def dice : Codec TwoDice := (byte.pair byte).map (fun (x, y) => ⟨x, y⟩) fun d => (d.first, d.second)

/-- The side that is struck. -/
def side : Codec Side := choice [.front, .left, .right, .rear]

/-- What one location took of a hit. -/
def absorption : Codec Absorption :=
  (location.pair (counter.pair (counter.pair (flag.pair flag)))).map
    (fun (location, armor, internal, rear, destroyed) =>
      ⟨location, armor, internal, rear, destroyed⟩)
    fun a => (a.location, a.armor, a.internal, a.rear, a.destroyed)

/-! ### Attacks -/

/-- A band of ranges, the nearest first. -/
def rangeBand : Codec RangeBand := choice [.short, .medium, .long, .outOfRange]

/-- A kind of terrain; only water carries its depth. -/
def terrain : Codec Terrain :=
  oneOf
    [plain .clear (· == .clear), plain .rough (· == .rough), plain .lightWoods (· == .lightWoods),
      plain .heavyWoods (· == .heavyWoods),
      ⟨Nat, byte, .water, fun
        | .water depth => some depth
        | _ => none⟩,
      plain .rubble (· == .rubble)]

/-- A hex, by its two axial numbers. -/
def hex : Codec Hex := (counter.pair counter).map (fun (q, r) => ⟨q, r⟩) fun h => (h.q, h.r)

/-- What the terrain of one hex adds to a target number. -/
def terrainItem : Codec TerrainItem :=
  (hex.pair (terrain.pair counter)).map (fun (hex, terrain, value) => ⟨hex, terrain, value⟩)
    fun i => (i.hex, i.terrain, i.value)

/-- A named addition to a target number. -/
def namedItem : Codec NamedItem :=
  (text.pair counter).map (fun (name, value) => ⟨name, value⟩) fun i => (i.name, i.value)

/-- A firing solution: every part of the target number before the total. -/
def solution : Codec FiringSolution :=
  (counter.pair (counter.pair (counter.pair (counter.pair (rangeBand.pair (counter.pair
    (counter.pair (terrainItem.list.pair (counter.pair (counter.pair (counter.pair
      (counter.pair (namedItem.list.pair (counter.pair (flag.pair flag))))))))))))))).map
    (fun (gunnery, attackerMovement, targetMovement, distance, band, range, minimumRange,
        terrain, heat, sensorDamage, secondaryTarget, aimedShot, other, total, impossible,
        lineOfSight) =>
      ⟨gunnery, attackerMovement, targetMovement, distance, band, range, minimumRange, terrain,
        heat, sensorDamage, secondaryTarget, aimedShot, other, total, impossible, lineOfSight⟩)
    fun f => (f.gunnery, f.attackerMovement, f.targetMovement, f.distance, f.band, f.range,
      f.minimumRange, f.terrain, f.heat, f.sensorDamage, f.secondaryTarget, f.aimedShot, f.other,
      f.total, f.impossible, f.lineOfSight)

/-! ### Critical hits -/

/-- A slot that is struck, and what was in it. -/
def slotHit : Codec SlotHit :=
  (byte.pair (component.option.pair text.option)).map
    (fun (slot, component, name) => ⟨slot, component, name⟩)
    fun h => (h.slot, h.component, h.componentName)

/-- An explosion, and how its damage spread. -/
def explosion : Codec Explosion :=
  (component.pair (text.pair (byte.pair (counter.pair absorption.list)))).map
    (fun (component, name, slot, damage, spread) => ⟨component, name, slot, damage, spread⟩)
    fun e => (e.component, e.componentName, e.slot, e.damage, e.spread)

/-- The critical hits of one location. -/
def criticalReport : Codec CriticalReport :=
  (location.pair (counter.pair (byte.pair (slotHit.list.pair explosion.list)))).map
    (fun (location, roll, hitCount, hits, explosions) =>
      ⟨location, roll, hitCount, hits, explosions⟩)
    fun r => (r.location, r.roll, r.hitCount, r.hits, r.explosions)

/-! ### Falls -/

/-- A stage of a fall. -/
def fallStage : Codec FallStage :=
  choice [.idle, .causeCheck, .pilotingRoll, .falling, .injuryRoll, .done]

/-- The cause of a fall, by its number. -/
def fallCause : Codec FallCause := choice FallCause.all

/-- A reason for a piloting check; only an injury carries the levels fallen. -/
def checkReason : Codec CheckReason :=
  oneOf
    [plain .gyroHit (· == .gyroHit), plain .hipHit (· == .hipHit),
      plain .legActuatorHit (· == .legActuatorHit), plain .heavyDamage (· == .heavyDamage),
      ⟨Nat, count, .fallInjury, fun
        | .fallInjury levels => some levels
        | _ => none⟩]

/-- What makes a piloting check harder. -/
def pilotingFactor : Codec PilotingFactor :=
  choice [.gyroHit, .damagedGyro, .hipHit, .legActuatorHit, .destroyedHip, .destroyedLegActuator,
    .destroyedLeg, .heavyDamage, .pilotWound, .fallLevel, .roughTerrain, .rubble]

/-- An addition to the target number of a piloting check. -/
def checkModifier : Codec CheckModifier :=
  (pilotingFactor.pair (text.pair counter)).map
    (fun (factor, name, value) => ⟨factor, name, value⟩)
    fun m => (m.factor, m.name, m.value)

/-- A piloting check before the throw. -/
def pilotingCheck : Codec PilotingCheck :=
  (checkReason.list.pair (counter.pair (checkModifier.list.pair (counter.pair flag)))).map
    (fun (reasons, base, modifiers, target, impossible) =>
      ⟨reasons, base, modifiers, target, impossible⟩)
    fun c => (c.reasons, c.base, c.modifiers, c.target, c.impossible)

/-- A piloting check after the throw, which is missing where the target number was out of reach. -/
def checkOutcome : Codec CheckOutcome :=
  (counter.pair (dice.option.pair flag)).map
    (fun (target, roll, success) => ⟨target, roll, success⟩)
    fun o => (o.target, o.roll, o.success)

/-- One part of the damage of a fall, with its throw for a location. -/
def damageCluster : Codec DamageCluster :=
  (counter.pair (dice.pair location)).map
    (fun (damage, roll, location) => ⟨damage, roll, location⟩)
    fun c => (c.damage, c.roll, c.location)

/-- A facing: the byte is taken as it stands, also above five. -/
def facing : Codec Facing := byte.map Facing.mk Facing.index

/-- How a unit came down. -/
def landing : Codec Landing :=
  (counter.pair (byte.pair (facing.pair (side.pair (damageCluster.list.pair
    (dice.option.pair flag)))))).map
    (fun (damage, facingRoll, facing, side, clusters, injuryRoll, injured) =>
      ⟨damage, facingRoll, facing, side, clusters, injuryRoll, injured⟩)
    fun l => (l.damage, l.facingRoll, l.facing, l.side, l.clusters, l.injuryRoll, l.injured)

/-- A fall from its cause to its injuries. -/
def fallReport : Codec FallReport :=
  (text.pair (count.pair (fallStage.list.pair (fallCause.pair (pilotingCheck.pair
    (checkOutcome.pair (landing.option.pair (absorption.list.pair
      (pilotingCheck.option.pair checkOutcome.option))))))))).map
    (fun (game, unit, stages, cause, check, outcome, landing, taken, injuryCheck,
        injuryOutcome) =>
      ⟨game, unit, stages, cause, check, outcome, landing, taken, injuryCheck, injuryOutcome⟩)
    fun r => (r.game, r.unit, r.stages, r.cause, r.check, r.outcome, r.landing, r.taken,
      r.injuryCheck, r.injuryOutcome)

/-! ### Heat and consciousness -/

/-- A check against shutting down. -/
def shutdownCheck : Codec ShutdownCheck :=
  (count.pair (count.pair (counter.pair (counter.option.pair (dice.option.pair
    (flag.pair flag)))))).map
    (fun (unit, turn, heat, avoid, roll, automatic, shutdown) =>
      ⟨unit, turn, heat, avoid, roll, automatic, shutdown⟩)
    fun c => (c.unit, c.turn, c.heat, c.avoid, c.roll, c.automatic, c.shutdown)

/-- A check of hot ammunition. -/
def cookOffCheck : Codec CookOffCheck :=
  (count.pair (count.pair (counter.pair (counter.pair (dice.pair (location.pair
    (byte.pair (text.pair (counter.pair flag))))))))).map
    (fun (unit, turn, heat, avoid, roll, location, slot, name, damage, exploded) =>
      ⟨unit, turn, heat, avoid, roll, location, slot, name, damage, exploded⟩)
    fun c => (c.unit, c.turn, c.heat, c.avoid, c.roll, c.location, c.slot, c.componentName,
      c.damage, c.exploded)

/-- One roll of a pilot to stay awake or to wake up. -/
def consciousnessRoll : Codec ConsciousnessRoll :=
  (counter.pair (dice.pair (flag.pair flag))).map
    (fun (target, roll, success, recovery) => ⟨target, roll, success, recovery⟩)
    fun r => (r.target, r.roll, r.success, r.recovery)

/-! ### Events and logs -/

/-- An event: its number, then its content. -/
def event : Codec BattleEvent :=
  oneOf
    [⟨UnitId × UnitId × FiringSolution × Option TwoDice,
        count.pair (count.pair (solution.pair dice.option)),
        fun (attacker, target, solution, roll) => .attack attacker target solution roll, fun
        | .attack attacker target solution roll => some (attacker, target, solution, roll)
        | _ => none⟩,
      ⟨UnitId × List Absorption, count.pair absorption.list,
        fun (unit, taken) => .damage unit taken, fun
        | .damage unit taken => some (unit, taken)
        | _ => none⟩,
      ⟨UnitId × List CriticalReport, count.pair criticalReport.list,
        fun (unit, reports) => .criticals unit reports, fun
        | .criticals unit reports => some (unit, reports)
        | _ => none⟩,
      ⟨FallReport, fallReport, .fall, fun
        | .fall report => some report
        | _ => none⟩,
      ⟨ShutdownCheck, shutdownCheck, .shutdown, fun
        | .shutdown check => some check
        | _ => none⟩,
      ⟨CookOffCheck, cookOffCheck, .cookOff, fun
        | .cookOff check => some check
        | _ => none⟩,
      ⟨UnitId × List ConsciousnessRoll, count.pair consciousnessRoll.list,
        fun (unit, rolls) => .consciousness unit rolls, fun
        | .consciousness unit rolls => some (unit, rolls)
        | _ => none⟩]

/-- An event with its turn in front. -/
def entry : Codec LogEntry :=
  (count.pair event).map (fun (turn, event) => ⟨turn, event⟩) fun e => (e.turn, e.event)

/-- The codec of a log: the number of its form, the game, the seed and the
entries. -/
def log : Codec BattleLog :=
  (count.pair (text.pair ((word 8).option.pair entry.list))).map
    (fun (version, game, seed, entries) => ⟨version, game, seed, entries⟩)
    fun l => (l.version, l.game, l.seed, l.entries)

end BattleLog.Form

/-- The bytes of a log. -/
def BattleLog.encode (log : BattleLog) : List UInt8 := BattleLog.Form.log.write log

/-- Why bytes are no log. -/
inductive LogFault where
  | unreadable (fault : ReadFault)
  /-- A log of another form. -/
  | version (found : Nat)
  deriving DecidableEq, Repr

/-- The wording of a fault. -/
def LogFault.message : LogFault → String
  | .unreadable fault => "Failed to decode combat log: " ++ fault.message
  | .version found => s!"Combat log version mismatch: expected {logVersion}, got {found}"

/-- The log that bytes stand for. -/
def BattleLog.decode (bytes : List UInt8) : Except LogFault BattleLog :=
  match BattleLog.Form.log.read bytes with
  | .error fault => .error (.unreadable fault)
  | .ok (log, _) => if log.version = logVersion then .ok log else .error (.version log.version)

end MechBattle
