/-
Battles: units, a log, and orders carried out one after the other.

* `Battle`: the state of a battle, which remembers the last damage and
  the last critical hits for the rules that follow from them;
* `Order` and `OrderResult`: what is done with a unit, and what comes of
  it;
* `Battle.perform`: an order carried out. What it changes is logged;
* `Roster.replay`: the entries of a log applied again to units.
-/
import MechBattle.Log.Bytes

namespace MechBattle

/-! ### Units by number -/

/-- Units by their numbers. -/
abbrev Roster := List (UnitId × BattleUnit)

namespace Roster

/-- The unit with a number. -/
def get? (r : Roster) (id : UnitId) : Option BattleUnit := r.lookup id

/-- The roster with a unit put in, in place of the one with its number. -/
def put : Roster → UnitId → BattleUnit → Roster
  | [], id, u => [(id, u)]
  | (k, v) :: rest, id, u => if k = id then (id, u) :: rest else (k, v) :: put rest id u

/-- The roster with one unit changed, if it is there. -/
def modify (r : Roster) (id : UnitId) (f : BattleUnit → BattleUnit) : Roster :=
  match r.get? id with
  | some u => r.put id (f u)
  | none => r

theorem get?_put (r : Roster) (id k : UnitId) (u : BattleUnit) :
    (r.put id u).get? k = if k = id then some u else r.get? k := by
  induction r with
  | nil => by_cases h : k = id <;> simp [put, get?, h]
  | cons p rest ih =>
    obtain ⟨j, v⟩ := p
    simp only [get?] at ih
    by_cases hj : j = id
    · subst hj
      by_cases h : k = j
      · simp [put, get?, h]
      · simp [put, get?, List.lookup_cons, beq_false_of_ne h, h]
    · by_cases hk : k = j
      · subst hk
        simp [put, get?, hj]
      · simp [put, get?, List.lookup_cons, hj, beq_false_of_ne hk, ih]

/-- An event applied to the units. Attacks and ammunition checks change
nothing by themselves. -/
def apply (rules : Rules) (r : Roster) : BattleEvent → Roster
  | .attack .. | .cookOff _ => r
  | .damage unit taken => r.modify unit fun u => u.takeDamage taken
  | .criticals unit reports => r.modify unit fun u => u.takeCriticals reports
  | .fall report => r.modify report.unit fun u => u.takeFall rules report
  | .shutdown check =>
      r.modify check.unit fun u => { u with shutdown := u.shutdown || check.shutdown }
  | .consciousness unit rolls =>
    r.modify unit fun u => { u with pilot := u.pilot.map fun p => p.afterRolls rolls }

/-- The entries of a log applied to the units, in order. -/
def replay (rules : Rules) (r : Roster) (log : BattleLog) : Roster :=
  log.entries.foldl (fun r e => r.apply rules e.event) r

end Roster

/-! ### Orders -/

/-- From where a hit comes. -/
inductive HitOrigin where
  | side (side : Side)
  /-- From an attacker on a hex. -/
  | hex (attacker : Hex)

/-- A hit that is ordered. Without a location, that is thrown for. -/
structure HitOrder where
  location : Option Location
  damage : Int
  origin : HitOrigin

/-- What is done with a unit. -/
inductive Order where
  /-- The battle goes on to a turn. -/
  | turn (n : Nat)
  /-- A phase begins. -/
  | phase
  /-- The pilot suffers so many hits. -/
  | wound (hits : Nat)
  | attack (target : UnitId) (attack : Attack)
  /-- Hits that land together. -/
  | hits (hits : List HitOrder)
  /-- Critical hits for the last damage. -/
  | criticals
  /-- Whether the unit falls after the last critical hits. -/
  | fall
  | checkShutdown
  | restart
  | checkCookOff
  /-- The pilot rolls to stay awake. -/
  | stayAwake
  /-- The pilot rolls to wake up. -/
  | recover
  /-- The log is written, read and applied again. -/
  | replay

/-- What one ordered hit did. -/
structure HitResult where
  location : Location
  side : Side
  taken : List Absorption

/-- What comes of an order. -/
inductive OrderResult where
  | nothing
  /-- The throw is missing when the attack could not hit. -/
  | attack (solution : FiringSolution) (roll : Option TwoDice)
  | hits (results : List HitResult)
  | criticals (reports : List CriticalReport)
  | fall (report : Option FallReport)
  | shutdown (check : Option ShutdownCheck)
  | restart (restarts : Bool)
  | cookOff (check : Option CookOffCheck) (report : Option CriticalReport)
  /-- None where there is no pilot. -/
  | consciousness (rolls : Option (List ConsciousnessRoll))
  /-- The events of the present turn, and the unit after all that was
  logged. -/
  | replay (events : Nat) (unit : Option BattleUnit)

/-- Why an order is not carried out. -/
inductive OrderFault where
  | refused (refusal : Refusal)
  | log (fault : LogFault)
  /-- There is no unit with the number. -/
  | noUnit (id : UnitId)

/-! ### Battles -/

/-- The state of a battle. -/
structure Battle where
  rules : Rules
  board : Board
  /-- The units as they were at the start. -/
  initial : Roster
  units : Roster
  turn : Nat := 1
  lastDamage : List Absorption := []
  lastCriticals : List CriticalReport := []
  log : BattleLog

namespace Battle

/-- A battle that begins. -/
def start (rules : Rules) (board : Board) (units : Roster) (game : String) : Battle where
  rules
  board
  initial := units
  units
  log := .new game none

/-- The battle with a unit put in. -/
def putUnit (b : Battle) (id : UnitId) (u : BattleUnit) : Battle :=
  { b with units := b.units.put id u }

/-- The battle with an event logged in the present turn. -/
def logged (b : Battle) (event : BattleEvent) : Battle :=
  { b with log := b.log.record b.turn event }

/-- The location of a hit: as ordered, or thrown for. -/
def rollLocation (rules : Rules) (side : Side) : Option Location → Rolls Location
  | some l => return l
  | none => do return rules.hitLocation side (← twoDice).total

/-- The dice of hits that land together, each resolved after the ones
before. -/
def rollHits (rules : Rules) (u : BattleUnit) :
    List Absorption → List HitOrder → Rolls (List HitResult)
  | _, [] => return []
  | already, h :: rest => do
    let side :=
      match h.origin with
      | .side side => side
      | .hex attacker => u.struckSide attacker
    let location ← rollLocation rules side h.location
    let taken := u.absorb location h.damage (.hit side) already
    return ⟨location, side, taken⟩ :: (← rollHits rules u (already ++ taken) rest)

/-- What an order comes to: the battle after it, with its result or with
why it was not carried out. -/
abbrev Performed := Battle × Except OrderFault OrderResult

/-- An attack is only rolled and logged; its damage is ordered apart. -/
def performAttack (b : Battle) (id : UnitId) (u : BattleUnit) (target : UnitId) (attack : Attack) :
    Rolls Performed := do
  match b.units.get? target with
  | none => return (b, .error (.noUnit target))
  | some t =>
    match u.aim b.rules t attack b.board with
    | .error refusal => return (b, .error (.refused refusal))
    | .ok solution =>
      let roll ← if solution.impossible then pure none else some <$> twoDice
      return (b.logged (.attack id target solution roll), .ok (.attack solution roll))

/-- Hits that land together: damage is taken once all are resolved. -/
def performHits (b : Battle) (id : UnitId) (u : BattleUnit) (hits : List HitOrder) :
    Rolls Performed := do
  let results ← rollHits b.rules u [] hits
  let taken := results.flatMap (·.taken)
  let b := (b.putUnit id (u.takeDamage taken)).logged (.damage id taken)
  return ({ b with lastDamage := taken, lastCriticals := [] }, .ok (.hits results))

/-- The critical hits that the last damage calls for. -/
def performCriticals (b : Battle) (id : UnitId) (u : BattleUnit) : Rolls Performed := do
  let reports ← u.criticals b.rules (internalByLocation b.lastDamage)
  let b := (b.putUnit id (u.takeCriticals reports)).logged (.criticals id reports)
  return ({ b with lastCriticals := reports }, .ok (.criticals reports))

/-- A fall, if the last critical hits or the damage of the phase cause one. -/
def performFall (b : Battle) (id : UnitId) (u : BattleUnit) : Rolls Performed := do
  let hits := b.lastCriticals.flatMap (·.hitKinds)
  match ← u.resolveFall b.rules (some b.board) hits u.phaseDamage b.log.game with
  | .error refusal => return (b, .error (.refused refusal))
  | .ok none => return (b, .ok (.fall none))
  | .ok (some report) =>
    let b := (b.putUnit id (u.takeFall b.rules report)).logged (.fall report)
    return ({ b with lastDamage := report.taken, lastCriticals := [] }, .ok (.fall (some report)))

/-- The check against shutting down. A unit that is shut down stays so. -/
def performShutdown (b : Battle) (id : UnitId) (u : BattleUnit) : Rolls Performed := do
  match ← u.checkShutdown b.rules b.turn with
  | none => return (b, .ok (.shutdown none))
  | some check =>
    let b := b.putUnit id { u with shutdown := u.shutdown || check.shutdown }
    return (b.logged (.shutdown check), .ok (.shutdown (some check)))

/-- The check of hot ammunition, and its explosion when that fails. -/
def performCookOff (b : Battle) (id : UnitId) (u : BattleUnit) : Rolls Performed := do
  match ← u.checkCookOff b.rules b.turn with
  | none => return (b, .ok (.cookOff none none))
  | some check =>
    let b := b.logged (.cookOff check)
    if check.exploded then
      match u.cookOff check.location check.slot with
      | .error refusal => return (b, .error (.refused refusal))
      | .ok report =>
        let b := (b.putUnit id (u.takeCriticals [report])).logged (.criticals id [report])
        return (b, .ok (.cookOff (some check) (some report)))
    else return (b, .ok (.cookOff (some check) none))

/-- Consciousness rolls of the pilot, which are logged even when there
were none to make. -/
def performRolls (b : Battle) (id : UnitId) (u : BattleUnit)
    (rolls : Pilot → Rolls (List ConsciousnessRoll)) : Rolls Performed := do
  match u.pilot with
  | none => return (b, .ok (.consciousness none))
  | some p =>
    let checks ← rolls p
    let b := b.putUnit id { u with pilot := some (p.afterRolls checks) }
    return (b.logged (.consciousness id checks), .ok (.consciousness (some checks)))

/-- The log written, read and applied to the units of the start. -/
def performReplay (b : Battle) (id : UnitId) : Performed :=
  match BattleLog.decode b.log.encode with
  | .error fault => (b, .error (.log fault))
  | .ok log =>
    (b, .ok (.replay (log.eventsInTurn b.turn).length ((b.initial.replay b.rules log).get? id)))

/-- An order carried out with a unit. -/
def performWith (b : Battle) (id : UnitId) (u : BattleUnit) : Order → Rolls Performed
  | .turn n => return ({ b with turn := n }, .ok .nothing)
  | .phase => return (b.putUnit id u.startPhase, .ok .nothing)
  | .wound hits => return (b.putUnit id (u.woundPilot b.rules hits), .ok .nothing)
  | .attack target attack => performAttack b id u target attack
  | .hits hits => performHits b id u hits
  | .criticals => performCriticals b id u
  | .fall => performFall b id u
  | .checkShutdown => performShutdown b id u
  | .restart =>
    let restarts := u.restarts b.rules
    let b := if restarts then b.putUnit id { u with shutdown := false } else b
    return (b, .ok (.restart restarts))
  | .checkCookOff => performCookOff b id u
  | .stayAwake => performRolls b id u Pilot.wakeRolls
  | .recover => performRolls b id u fun p => do return (← p.recoveryRoll b.rules).toList
  | .replay => return performReplay b id

/-- An order carried out with the unit of a number. -/
def perform (b : Battle) (id : UnitId) (order : Order) : Rolls Performed :=
  match b.units.get? id with
  | some u => performWith b id u order
  | none => return (b, .error (.noUnit id))

end Battle

end MechBattle
