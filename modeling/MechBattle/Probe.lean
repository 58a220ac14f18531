/-
Probes: single rules tried out on a mech made for the purpose.

A probe puts a mech of the structure table on an empty board, sets up one
situation and applies one rule to it, with dice from a seed, so that equal
probes come out equal.

* `ProbeFault`: why a probe makes no sense;
* `FallProbe`, `HeatProbe`, `ToHitProbe`: what can be tried, and `run` for
  each of them;
* `HeatReport`: what comes of heat.
-/
import MechBattle.BattleUnit.Assembly
import MechBattle.Dice.Keystream
import MechBattle.Log.Document

namespace MechBattle

/-- Why a probe makes no sense. -/
inductive ProbeFault where
  /-- The rules have no structure for the tonnage. -/
  | noStructure (tonnage : Nat)
  /-- The target is not away from the attacker. -/
  | badDistance
  | refused (refusal : Refusal)

/-- The wording of a fault. -/
def ProbeFault.message : ProbeFault → String
  | .noStructure tonnage => s!"Invalid probe: no structure row for {tonnage} tons"
  | .badDistance => "Invalid probe: distance must be positive"
  | .refused refusal => refusal.message

/-- The mech of a probe: standing on a hex and looking north. -/
def probeMech (rules : Rules) (id : UnitId) (tonnage : Nat) (pilot : Pilot) (position : Hex) :
    Except ProbeFault BattleUnit :=
  if (rules.internal? tonnage .centerTorso).isNone then .error (.noStructure tonnage)
  else
    .ok ((((BattleUnit.mech rules id s!"Probe {id}" tonnage).withInternals).withPilot
      pilot).deployedAt position .north)

/-! ### Falls -/

/-- A fall. -/
structure FallProbe where
  tonnage : Nat := 50
  levels : Nat := 0
  jumping : Bool := false
  piloting : Int := 5
  seed : Nat := 0

/-- What the fall does. -/
def FallProbe.run (rules : Rules) (p : FallProbe) : Except ProbeFault Landing := do
  let pilot : Pilot := { name := "Probe", gunnery := 4, piloting := p.piloting }
  let u ← probeMech rules 1 p.tonnage pilot .origin
  let check ← (u.pilotingCheck rules [.fallInjury p.levels] none none).mapError .refused
  let (landing, _) :=
    Keystream.play (u.land rules p.levels p.jumping check) (.ofSeed (.ofNat p.seed))
  landing.mapError .refused

/-! ### Heat -/

/-- A heat. -/
structure HeatProbe where
  heat : Int
  unconscious : Bool := false
  turn : Nat := 1
  seed : Nat := 0

/-- What comes of heat. -/
structure HeatReport where
  shutdown : Option ShutdownCheck
  /-- A reactor that is shut down would start up again. -/
  restarts : Bool
  deriving DecidableEq, Repr

instance : Documented HeatReport where
  toDocument r := .record "HeatReport"
    [entry "shutdown" r.shutdown, entry "auto_restart" r.restarts]
  ofDocument? d := do
    let fs ← d.fields? "HeatReport"
    return ⟨← optional? fs "shutdown", ← field? fs "auto_restart"⟩

/-- What comes of the heat. -/
def HeatProbe.run (rules : Rules) (p : HeatProbe) : Except ProbeFault HeatReport := do
  let pilot : Pilot :=
    { name := "Probe", gunnery := 4, piloting := 5, conscious := !p.unconscious }
  let u ← probeMech rules 1 50 pilot .origin
  let u := { u with heat := p.heat }
  let (shutdown, _) := Keystream.play (u.checkShutdown rules p.turn) (.ofSeed (.ofNat p.seed))
  return ⟨shutdown, u.restarts rules⟩

/-! ### Attacks -/

/-- A shot due north. -/
structure ToHitProbe where
  distance : Int
  gunnery : Int := 4
  movement : MovementMode := .stationary
  /-- Hexes moved by the target. -/
  targetMoved : Nat := 0
  heat : Int := 0
  /-- Hexes of light woods on the line of fire, the target's hex first. -/
  lightWoods : Nat := 0
  weapon : Weapon

/-- The board with so many hexes of light woods, from a distance to the
north on toward the origin. -/
def woodsFrom (distance : Int) (count : Nat) : Board :=
  (List.range count).foldl (fun b (i : Nat) => b.lay ⟨0, -distance + i⟩ ⟨.lightWoods, 0⟩) .empty

/-- The firing solution of the shot. -/
def ToHitProbe.run (rules : Rules) (p : ToHitProbe) : Except ProbeFault FiringSolution := do
  if p.distance ≤ 0 then throw .badDistance
  let shooter : Pilot := { name := "Shooter", gunnery := p.gunnery, piloting := 5 }
  let attacker ← probeMech rules 1 50 shooter .origin
  let attacker := { attacker with movement := { mode := p.movement }, heat := p.heat }
  let target ← probeMech rules 2 50 { name := "Target", gunnery := 4, piloting := 5 }
    ⟨0, -p.distance⟩
  let target := { target with movement := { hexes := p.targetMoved } }
  let woods := (min (Counter.ofNat p.lightWoods) p.distance).toNat
  (attacker.aim rules target { weapon := p.weapon } (woodsFrom p.distance woods)).mapError .refused

end MechBattle
