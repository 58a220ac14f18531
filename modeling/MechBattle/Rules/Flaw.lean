/-
What can be wrong with a set of rules.

* `Flaw`: the ways in which tables do not fit their use, with their
  wording in `Flaw.message`;
* `Rules.flaws`: every flaw of a set of rules, in a fixed order;
* `Rules.Sound`: rules without any flaw.
-/
import MechBattle.Rules.Lookup

namespace MechBattle

/-- A way in which tables do not fit their use. -/
inductive Flaw where
  /-- A hit table that has not one entry for each throw. -/
  | hitTableSize (table : String) (entries : Nat)
  /-- A step that does not begin after the one before. -/
  | notAscending (table : String)
  /-- A number of critical hits for a throw that does not exist. -/
  | criticalThreshold
  /-- A row that is not for more tons than the one before. -/
  | structureOrder
  | clusterSize
  /-- Heat for which a shutdown can be avoided and cannot. -/
  | shutdownOverlap
  /-- A wound that does not kill and has no number to stay awake. -/
  | consciousnessCover
  deriving DecidableEq, Repr

/-- The wording of a flaw. -/
def Flaw.message : Flaw → String
  | .hitTableSize table entries => s!"{table} hit table has {entries} entries, need 11"
  | .notAscending table => s!"{table} brackets are not strictly ascending"
  | .criticalThreshold => "critical_hits thresholds must lie in 2..=12"
  | .structureOrder => "structure rows are not strictly ascending by tonnage"
  | .clusterSize => "fall_cluster_size must be positive"
  | .shutdownOverlap => "shutdown brackets overlap automatic_shutdown_heat"
  | .consciousnessCover => "consciousness_numbers must cover every survivable wound"

/-- Whether each element stands in a relation to the next one. -/
def chained {α : Type} (r : α → α → Bool) : List α → Bool
  | a :: b :: rest => r a b && chained r (b :: rest)
  | _ => true

/-- One flaw, when something is not as it should be. -/
def Flaw.unless (ok : Bool) (flaw : Flaw) : List Flaw := if ok then [] else [flaw]

namespace Rules

/-- The hit tables with their names. -/
def namedHitTables (rules : Rules) : List (String × List Location) :=
  [("front", rules.hitTables.front), ("rear", rules.hitTables.rear),
    ("left", rules.hitTables.left), ("right", rules.hitTables.right)]

/-- The tables of steps with their names. -/
def namedBrackets (rules : Rules) : List (String × List Bracket) :=
  [("critical_hits", rules.criticalHits), ("target_movement", rules.toHit.targetMovement),
    ("heat", rules.toHit.heat), ("shutdown", rules.shutdown),
    ("ammo_explosion", rules.ammoExplosion)]

/-- Whether the last step at which a shutdown can be avoided begins below
the heat at which it cannot. -/
def shutdownApart (rules : Rules) : Bool :=
  match rules.shutdown.getLast? with
  | some b => decide (b.start < rules.automaticShutdownHeat)
  | none => true

/-- Every flaw of a set of rules. -/
def flaws (rules : Rules) : List Flaw :=
  (rules.namedHitTables.flatMap fun (name, table) =>
      Flaw.unless (table.length == 11) (.hitTableSize name table.length)) ++
    (rules.namedBrackets.flatMap fun (name, table) =>
      Flaw.unless (chained (fun a b => decide (a.start < b.start)) table) (.notAscending name)) ++
    Flaw.unless (rules.criticalHits.all fun b => decide (2 ≤ b.start ∧ b.start ≤ 12))
      .criticalThreshold ++
    Flaw.unless (chained (fun a b => decide (a.tonnage < b.tonnage)) rules.structures)
      .structureOrder ++
    Flaw.unless (decide (0 < rules.fallClusterSize)) .clusterSize ++
    Flaw.unless rules.shutdownApart .shutdownOverlap ++
    Flaw.unless (decide (rules.lethalWounds ≤ rules.consciousnessNumbers.length + 1))
      .consciousnessCover

/-- Rules without any flaw. -/
def Sound (rules : Rules) : Prop := rules.flaws = []

instance (rules : Rules) : Decidable rules.Sound :=
  inferInstanceAs (Decidable (_ = _))

theorem sound_standard : standard.Sound := by decide

end Rules

end MechBattle
