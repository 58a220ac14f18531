/-
Heat: shutdowns, restarts and ammunition that cooks off.

* `ShutdownCheck` and `BattleUnit.checkShutdown`: whether the reactor
  shuts down;
* `BattleUnit.restarts`: whether it starts up again by itself;
* `BattleUnit.worstBin?`: the ammunition that is at risk;
* `CookOffCheck` and `BattleUnit.checkCookOff`: whether it explodes.
-/
import MechBattle.BattleUnit
import MechBattle.Dice.Rolls
import MechBattle.Rules.Lookup

namespace MechBattle

/-- Whether heat shut down a reactor. -/
structure ShutdownCheck where
  unit : UnitId
  turn : Nat
  heat : Int
  /-- The number that avoids it, where one does. -/
  avoid : Option Int
  roll : Option TwoDice
  /-- Without a roll. -/
  automatic : Bool
  shutdown : Bool
  deriving DecidableEq, Repr

/-- Whether heat set off ammunition. -/
structure CookOffCheck where
  unit : UnitId
  turn : Nat
  heat : Int
  /-- The number that avoids it. -/
  avoid : Int
  roll : TwoDice
  /-- Where the ammunition is. -/
  location : Location
  /-- The first slot of its bin. -/
  slot : Nat
  componentName : String
  damage : Int
  exploded : Bool
  deriving DecidableEq, Repr

namespace BattleUnit

/-- Whether the reactor shuts down, if heat is high enough to matter. It
takes a pilot who is awake to avoid it. -/
def checkShutdown (rules : Rules) (u : BattleUnit) (turn : Nat) :
    Rolls (Option ShutdownCheck) := do
  let automatic (avoid : Option Int) : ShutdownCheck :=
    ⟨u.id, turn, u.heat, avoid, none, true, true⟩
  match rules.shutdownBand u.heat with
  | .safe => return none
  | .automatic => return some (automatic none)
  | .avoid number =>
    if u.hasActivePilot then
      let roll ← twoDice
      return some ⟨u.id, turn, u.heat, some number, some roll, false, !roll.meets number⟩
    else return some (automatic (some number))

/-- Whether the reactor starts up again by itself. -/
def restarts (rules : Rules) (u : BattleUnit) : Bool := decide (u.heat < rules.autoRestartBelow)

/-- A bin of ammunition that can explode: where it is, and its damage. -/
structure LiveBin where
  location : Location
  component : Component
  damage : Int

/-- The bins of ammunition that can explode, in body order and then in
mounting order. -/
def liveBins (u : BattleUnit) : List LiveBin :=
  u.components.filterMap fun (l, c) =>
    if c.ammo.isSome then c.pendingExplosion.map fun damage => ⟨l, c, damage⟩ else none

/-- The bin that would do most damage; of equal ones, the first. -/
def worstBin? (u : BattleUnit) : Option LiveBin :=
  u.liveBins.foldl (fun worst bin =>
    match worst with
    | none => some bin
    | some w => if w.damage < bin.damage then some bin else some w) none

/-- Whether ammunition explodes, if heat is high enough and there is
any. -/
def checkCookOff (rules : Rules) (u : BattleUnit) (turn : Nat) :
    Rolls (Option CookOffCheck) := do
  match rules.ammoExplosionAvoid? u.heat, u.worstBin? with
  | some avoid, some bin =>
    let roll ← twoDice
    return some
      { unit := u.id, turn, heat := u.heat, avoid, roll, location := bin.location
        slot := bin.component.firstSlot, componentName := bin.component.name
        damage := bin.damage, exploded := !roll.meets avoid }
  | _, _ => return none

end BattleUnit

end MechBattle
