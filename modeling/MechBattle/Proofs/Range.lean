/-
Logs whose numbers lie in their ranges.

The records of a log hold plain numbers. A log as it is kept has faces, slots
and counts of hits in one byte, units, turns and levels in four, a seed in
eight, and counters elsewhere; texts and lists are shorter than `2⁶⁴`.

* `InRange`, record by record: all its numbers lie in their ranges;
* `BattleLog.InRange`: the same for a whole log.
-/
import Mathlib.Algebra.Ring.Nat
import MechBattle.Log
import MechBattle.Text.Utf8

namespace MechBattle

/-! ### Texts and lists -/

/-- A text whose length can be written. -/
def Utf8.InRange (s : String) : Prop := (Utf8.encode s).length < 2 ^ 64

instance (s : String) : Decidable (Utf8.InRange s) := inferInstanceAs (Decidable (_ < _))

/-- A list whose length can be written, of elements in range. -/
def ListInRange {α : Type} (P : α → Prop) (xs : List α) : Prop :=
  xs.length < 2 ^ 64 ∧ ∀ x ∈ xs, P x

instance {α : Type} (P : α → Prop) [DecidablePred P] (xs : List α) :
    Decidable (ListInRange P xs) :=
  inferInstanceAs (Decidable (_ ∧ _))

/-! ### Attacks -/

def TwoDice.InRange (d : TwoDice) : Prop := d.first < 2 ^ 8 ∧ d.second < 2 ^ 8

instance (d : TwoDice) : Decidable d.InRange := inferInstanceAs (Decidable (_ ∧ _))

def Hex.InRange (h : Hex) : Prop := Counter.Mem h.q ∧ Counter.Mem h.r

instance (h : Hex) : Decidable h.InRange := inferInstanceAs (Decidable (_ ∧ _))

/-- Only water has a number, its depth. -/
def Terrain.InRange : Terrain → Prop
  | .water depth => depth < 2 ^ 8
  | _ => True

instance : DecidablePred Terrain.InRange
  | .water depth => inferInstanceAs (Decidable (depth < 2 ^ 8))
  | .clear | .rough | .lightWoods | .heavyWoods | .rubble => inferInstanceAs (Decidable True)

def TerrainItem.InRange (i : TerrainItem) : Prop :=
  i.hex.InRange ∧ i.terrain.InRange ∧ Counter.Mem i.value

instance (i : TerrainItem) : Decidable i.InRange := inferInstanceAs (Decidable (_ ∧ _))

def NamedItem.InRange (i : NamedItem) : Prop := Utf8.InRange i.name ∧ Counter.Mem i.value

instance (i : NamedItem) : Decidable i.InRange := inferInstanceAs (Decidable (_ ∧ _))

def FiringSolution.InRange (f : FiringSolution) : Prop :=
  Counter.Mem f.gunnery ∧ Counter.Mem f.attackerMovement ∧ Counter.Mem f.targetMovement ∧
    Counter.Mem f.distance ∧ Counter.Mem f.range ∧ Counter.Mem f.minimumRange ∧
      ListInRange TerrainItem.InRange f.terrain ∧ Counter.Mem f.heat ∧
        Counter.Mem f.sensorDamage ∧ Counter.Mem f.secondaryTarget ∧ Counter.Mem f.aimedShot ∧
          ListInRange NamedItem.InRange f.other ∧ Counter.Mem f.total

instance (f : FiringSolution) : Decidable f.InRange := inferInstanceAs (Decidable (_ ∧ _))

/-! ### Damage and critical hits -/

def Absorption.InRange (a : Absorption) : Prop := Counter.Mem a.armor ∧ Counter.Mem a.internal

instance (a : Absorption) : Decidable a.InRange := inferInstanceAs (Decidable (_ ∧ _))

def SlotHit.InRange (h : SlotHit) : Prop :=
  h.slot < 2 ^ 8 ∧ ∀ name ∈ h.componentName, Utf8.InRange name

instance (h : SlotHit) : Decidable h.InRange := inferInstanceAs (Decidable (_ ∧ _))

def Explosion.InRange (e : Explosion) : Prop :=
  Utf8.InRange e.componentName ∧ e.slot < 2 ^ 8 ∧ Counter.Mem e.damage ∧
    ListInRange Absorption.InRange e.spread

instance (e : Explosion) : Decidable e.InRange := inferInstanceAs (Decidable (_ ∧ _))

def CriticalReport.InRange (r : CriticalReport) : Prop :=
  Counter.Mem r.roll ∧ r.hitCount < 2 ^ 8 ∧ ListInRange SlotHit.InRange r.hits ∧
    ListInRange Explosion.InRange r.explosions

instance (r : CriticalReport) : Decidable r.InRange := inferInstanceAs (Decidable (_ ∧ _))

/-! ### Falls -/

/-- Only an injury roll has a number, the levels fallen. -/
def CheckReason.InRange : CheckReason → Prop
  | .fallInjury levels => levels < 2 ^ 32
  | _ => True

instance : DecidablePred CheckReason.InRange
  | .fallInjury levels => inferInstanceAs (Decidable (levels < 2 ^ 32))
  | .gyroHit | .hipHit | .legActuatorHit | .heavyDamage => inferInstanceAs (Decidable True)

def CheckModifier.InRange (m : CheckModifier) : Prop :=
  Utf8.InRange m.name ∧ Counter.Mem m.value

instance (m : CheckModifier) : Decidable m.InRange := inferInstanceAs (Decidable (_ ∧ _))

def PilotingCheck.InRange (c : PilotingCheck) : Prop :=
  ListInRange CheckReason.InRange c.reasons ∧ Counter.Mem c.base ∧
    ListInRange CheckModifier.InRange c.modifiers ∧ Counter.Mem c.target

instance (c : PilotingCheck) : Decidable c.InRange := inferInstanceAs (Decidable (_ ∧ _))

def CheckOutcome.InRange (o : CheckOutcome) : Prop :=
  Counter.Mem o.target ∧ ∀ roll ∈ o.roll, roll.InRange

instance (o : CheckOutcome) : Decidable o.InRange := inferInstanceAs (Decidable (_ ∧ _))

def DamageCluster.InRange (c : DamageCluster) : Prop := Counter.Mem c.damage ∧ c.roll.InRange

instance (c : DamageCluster) : Decidable c.InRange := inferInstanceAs (Decidable (_ ∧ _))

def Landing.InRange (l : Landing) : Prop :=
  Counter.Mem l.damage ∧ l.facingRoll < 2 ^ 8 ∧ l.facing.index < 2 ^ 8 ∧
    ListInRange DamageCluster.InRange l.clusters ∧ ∀ roll ∈ l.injuryRoll, roll.InRange

instance (l : Landing) : Decidable l.InRange := inferInstanceAs (Decidable (_ ∧ _))

def FallReport.InRange (r : FallReport) : Prop :=
  Utf8.InRange r.game ∧ r.unit < 2 ^ 32 ∧ r.stages.length < 2 ^ 64 ∧ r.check.InRange ∧
    r.outcome.InRange ∧ (∀ landing ∈ r.landing, landing.InRange) ∧
      ListInRange Absorption.InRange r.taken ∧ (∀ check ∈ r.injuryCheck, check.InRange) ∧
        ∀ outcome ∈ r.injuryOutcome, outcome.InRange

instance (r : FallReport) : Decidable r.InRange := inferInstanceAs (Decidable (_ ∧ _))

/-! ### Heat and consciousness -/

def ShutdownCheck.InRange (c : ShutdownCheck) : Prop :=
  c.unit < 2 ^ 32 ∧ c.turn < 2 ^ 32 ∧ Counter.Mem c.heat ∧
    (∀ number ∈ c.avoid, Counter.Mem number) ∧
    ∀ roll ∈ c.roll, roll.InRange

instance (c : ShutdownCheck) : Decidable c.InRange := inferInstanceAs (Decidable (_ ∧ _))

def CookOffCheck.InRange (c : CookOffCheck) : Prop :=
  c.unit < 2 ^ 32 ∧ c.turn < 2 ^ 32 ∧ Counter.Mem c.heat ∧ Counter.Mem c.avoid ∧
    c.roll.InRange ∧ c.slot < 2 ^ 8 ∧ Utf8.InRange c.componentName ∧ Counter.Mem c.damage

instance (c : CookOffCheck) : Decidable c.InRange := inferInstanceAs (Decidable (_ ∧ _))

def ConsciousnessRoll.InRange (r : ConsciousnessRoll) : Prop :=
  Counter.Mem r.target ∧ r.roll.InRange

instance (r : ConsciousnessRoll) : Decidable r.InRange := inferInstanceAs (Decidable (_ ∧ _))

/-! ### Events and logs -/

def BattleEvent.InRange : BattleEvent → Prop
  | .attack attacker target solution roll =>
    attacker < 2 ^ 32 ∧ target < 2 ^ 32 ∧ solution.InRange ∧ ∀ dice ∈ roll, dice.InRange
  | .damage unit taken => unit < 2 ^ 32 ∧ ListInRange Absorption.InRange taken
  | .criticals unit reports => unit < 2 ^ 32 ∧ ListInRange CriticalReport.InRange reports
  | .fall report => report.InRange
  | .shutdown check => check.InRange
  | .cookOff check => check.InRange
  | .consciousness unit rolls => unit < 2 ^ 32 ∧ ListInRange ConsciousnessRoll.InRange rolls

instance : DecidablePred BattleEvent.InRange
  | .attack .. => inferInstanceAs (Decidable (_ ∧ _))
  | .damage .. | .criticals .. | .consciousness .. => inferInstanceAs (Decidable (_ ∧ _))
  | .fall report => inferInstanceAs (Decidable report.InRange)
  | .shutdown check => inferInstanceAs (Decidable check.InRange)
  | .cookOff check => inferInstanceAs (Decidable check.InRange)

def LogEntry.InRange (e : LogEntry) : Prop := e.turn < 2 ^ 32 ∧ e.event.InRange

instance (e : LogEntry) : Decidable e.InRange := inferInstanceAs (Decidable (_ ∧ _))

/-- A log whose numbers lie in their ranges. -/
def BattleLog.InRange (log : BattleLog) : Prop :=
  log.version < 2 ^ 32 ∧ Utf8.InRange log.game ∧ (∀ seed ∈ log.seed, seed < 2 ^ 64) ∧
    ListInRange LogEntry.InRange log.entries

instance (log : BattleLog) : Decidable log.InRange := inferInstanceAs (Decidable (_ ∧ _))

end MechBattle
