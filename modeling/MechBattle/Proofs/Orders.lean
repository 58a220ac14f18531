/-
Orders, and the courses of the units they are given to.

An order is carried out with one unit, and no other unit notices. To that unit it
is an ordeal, or it touches the controls only: the pilot, and whether the unit is
shut down. So whatever holds along every course holds of every unit of a battle,
however orders for different units are mixed.

* `BattleUnit.Logged`: all that an order can do that is logged, with its events, and
  `BattleUnit.Unlogged`: all that the others can do;
* `Battle.Outcome` and `outcome_of_perform`: what carrying out an order can come to,
  whatever the dice show; so `get?_of_perform_of_ne`, no other unit notices it, and
  `get?_of_refused`, a refusal changes no unit;
* `Course.Led`: one ordeal, or a change of controls;
* `Battle.Shows`: a unit of a battle, with its critical hits on the log, is where a
  course has led it, and `Shows.of_perform`: an order leads it on;
* `Battle.run`, `Shows.of_run`: orders one after the other.
-/
import Mathlib.Logic.Relation
import MechBattle.Battle
import MechBattle.Proofs.Course

namespace MechBattle

open Rolls

/-! ### What an order does to its unit -/

/-- Whether consciousness rolls are what a pilot can roll, to stay awake or to wake up. -/
inductive Pilot.Rolled (rules : Rules) (p : Pilot) : List ConsciousnessRoll → Prop
  | wake {checks : List ConsciousnessRoll} (h : p.wakeRolls.Yields checks) : Rolled rules p checks
  | recover {found : Option ConsciousnessRoll} (h : (p.recoveryRoll rules).Yields found) :
      Rolled rules p found.toList

namespace BattleUnit

/-- What an order that is logged can do to its unit, whatever the dice show: the
events that are logged, and the unit after them. -/
inductive Logged (rules : Rules) (id : UnitId) (u : BattleUnit) :
    List BattleEvent → BattleUnit → Prop
  | nothing : Logged rules id u [] u
  | attack (target : UnitId) (solution : FiringSolution) (roll : Option TwoDice) :
      Logged rules id u [.attack id target solution roll] u
  | hits (hits : List Hit) :
      Logged rules id u [.damage id (u.absorbAll [] hits)] (u.takeDamage (u.absorbAll [] hits))
  | criticals {rolls : List CriticalRoll} (drawn : u.Drawn rolls) :
      Logged rules id u [.criticals id (u.strikeAll {} rolls)]
        (u.takeCriticals (u.strikeAll {} rolls))
  | fall {report : FallReport} (own : report.unit = u.id) (falls : u.Falls report) :
      Logged rules id u [.fall report] (u.takeFall rules report)
  | shutdown {check : ShutdownCheck} (own : check.unit = u.id) :
      Logged rules id u [.shutdown check] { u with shutdown := u.shutdown || check.shutdown }
  | cookOff (check : CookOffCheck) : Logged rules id u [.cookOff check] u
  | burst (check : CookOffCheck) {rolls : List CriticalRoll} (drawn : u.Drawn rolls) :
      Logged rules id u [.cookOff check, .criticals id (u.strikeAll {} rolls)]
        (u.takeCriticals (u.strikeAll {} rolls))
  | consciousness {p : Pilot} (pilot : u.pilot = some p) {checks : List ConsciousnessRoll}
      (rolled : p.Rolled rules checks) :
      Logged rules id u [.consciousness id checks] { u with pilot := some (p.afterRolls checks) }

/-- What an order that is not logged can do to its unit. -/
inductive Unlogged (rules : Rules) (u : BattleUnit) : BattleUnit → Prop
  | phase : Unlogged rules u u.startPhase
  | wound (hits : Nat) : Unlogged rules u (u.woundPilot rules hits)
  | restart : Unlogged rules u { u with shutdown := false }

lemma own_of_checkShutdown {rules : Rules} {u : BattleUnit} {turn : Nat}
    {check : ShutdownCheck} (h : (u.checkShutdown rules turn).Yields (some check)) :
    check.unit = u.id := by
  rw [checkShutdown] at h
  split at h
  · cases yields_pure.mp h
  · obtain rfl := Option.some.inj (yields_pure.mp h)
    rfl
  · split at h
    · obtain ⟨roll, -, h⟩ := yields_bind.mp h
      obtain rfl := Option.some.inj (yields_pure.mp h)
      rfl
    · obtain rfl := Option.some.inj (yields_pure.mp h)
      rfl

end BattleUnit

/-! ### What damage leaves alone -/

namespace BattleUnit

/-- Damage is seen in parts and in the damage of the phase only. -/
lemma exists_takeDamage_eq (u : BattleUnit) (taken : List Absorption) :
    ∃ parts phaseDamage, u.takeDamage taken = { u with parts, phaseDamage } := by
  induction taken generalizing u with
  | nil => exact ⟨u.parts, u.phaseDamage, rfl⟩
  | cons a rest ih =>
      obtain ⟨parts, phaseDamage, hone⟩ :
          ∃ parts phaseDamage, u.takeOne a = { u with parts, phaseDamage } := by
        rw [takeOne]
        split
        · exact ⟨_, _, rfl⟩
        · exact ⟨u.parts, u.phaseDamage, rfl⟩
      rw [takeDamage_cons, hone]
      exact ih _

lemma exists_takeCriticals_eq (u : BattleUnit) (reports : List CriticalReport) :
    ∃ parts phaseDamage, u.takeCriticals reports = { u with parts, phaseDamage } := by
  have hmarks : ∀ v : BattleUnit, ∃ parts, reports.foldl mark v = { v with parts } := by
    induction reports with
    | nil => exact fun v => ⟨v.parts, rfl⟩
    | cons r rest ih => exact fun v => ih (v.mark r)
  obtain ⟨parts, phaseDamage, hdamage⟩ :=
    u.exists_takeDamage_eq (reports.flatMap (·.spread))
  obtain ⟨parts', hparts⟩ := hmarks (u.takeDamage (reports.flatMap (·.spread)))
  rw [takeCriticals_eq, hparts, hdamage]
  exact ⟨parts', phaseDamage, rfl⟩

lemma id_takeFall (u : BattleUnit) (rules : Rules) (r : FallReport) :
    (u.takeFall rules r).id = u.id := by
  rw [takeFall]
  split
  · rfl
  · next landing _ =>
      obtain ⟨parts, phaseDamage, hdamage⟩ := exists_takeDamage_eq
        { u with prone := true, facing := landing.facing } r.taken
      dsimp only
      rw [hdamage]
      split <;> rfl

/-- A fall wounds the pilot, if it injures. -/
lemma pilot_takeFall (u : BattleUnit) (rules : Rules) (r : FallReport) :
    (u.takeFall rules r).pilot =
      if r.injured then u.pilot.map (Pilot.takeHits rules 1) else u.pilot := by
  cases hlanding : r.landing with
  | none => simp only [takeFall, FallReport.injured, hlanding, Bool.false_eq_true, if_false]
  | some landing =>
      obtain ⟨parts, phaseDamage, hdamage⟩ := exists_takeDamage_eq
        { u with prone := true, facing := landing.facing } r.taken
      simp only [takeFall, FallReport.injured, hlanding, hdamage]
      split <;> rfl

end BattleUnit

/-- Whether what an order does is logged. -/
def Order.isLogged : Order → Bool
  | .phase | .wound _ | .restart => false
  | _ => true

/-! ### What an order does to a battle -/

/-- The log with more events of one turn. -/
def BattleLog.recordAll (log : BattleLog) (turn : Nat) (events : List BattleEvent) : BattleLog :=
  { log with entries := log.entries ++ events.map (LogEntry.mk turn) }

namespace Battle

/-- One battle after another: the unit of a number has become another unit, all
others are as they were, and events have been logged in the present turn. -/
structure Follows (b : Battle) (id : UnitId) (events : List BattleEvent) (v : BattleUnit)
    (b' : Battle) : Prop where
  rules : b'.rules = b.rules
  board : b'.board = b.board
  initial : b'.initial = b.initial
  units : ∀ k, b'.units.get? k = if k = id then some v else b.units.get? k
  log : b'.log = b.log.recordAll b.turn events

/-- What an order with a unit can come to. A refusal leaves the unit as it is. -/
def Outcome (b : Battle) (id : UnitId) (u : BattleUnit) (order : Order)
    (performed : Performed) : Prop :=
  ∃ events v, b.Follows id events v performed.1 ∧
    (u.Logged b.rules id events v ∨
      order.isLogged = false ∧ events = [] ∧ u.Unlogged b.rules v) ∧
    ∀ fault, performed.2 = .error fault → v = u

variable {b b' : Battle} {id k : UnitId} {u v : BattleUnit} {order : Order}
  {events : List BattleEvent} {performed : Performed}

lemma follows_self (hu : b.units.get? id = some u) : b.Follows id [] u b where
  rules := rfl
  board := rfl
  initial := rfl
  units k := by
    split
    · next hk => rw [hk, hu]
    · rfl
  log := by rw [BattleLog.recordAll, List.map_nil, List.append_nil]

lemma Follows.put (h : b.Follows id events u b') (v : BattleUnit) :
    b.Follows id events v (b'.putUnit id v) where
  rules := h.rules
  board := h.board
  initial := h.initial
  units k := by
    rw [putUnit, Roster.get?_put]
    split
    · rfl
    · next hk => rw [h.units, if_neg hk]
  log := h.log

lemma Follows.logged (h : b.Follows id events v b') (turn : b'.turn = b.turn)
    (event : BattleEvent) : b.Follows id (events ++ [event]) v (b'.logged event) where
  rules := h.rules
  board := h.board
  initial := h.initial
  units := h.units
  log := by
    rw [Battle.logged, BattleLog.record, h.log, turn]
    simp only [BattleLog.recordAll, List.map_append, List.map_cons, List.map_nil,
      List.append_assoc]

/-- What the battle remembers for the rules that come next does not count. -/
lemma Follows.remember (h : b.Follows id events v b') (damage : List Absorption)
    (criticals : List CriticalReport) :
    b.Follows id events v { b' with lastDamage := damage, lastCriticals := criticals } :=
  ⟨h.rules, h.board, h.initial, h.units, h.log⟩

lemma Outcome.of_logged {result : OrderResult} (h : b.Follows id events v b')
    (logged : u.Logged b.rules id events v) : b.Outcome id u order (b', .ok result) :=
  ⟨events, v, h, .inl logged, fun _ hfault => by cases hfault⟩

lemma Outcome.of_unlogged {result : OrderResult} (h : b.Follows id [] v b')
    (silent : order.isLogged = false) (unlogged : u.Unlogged b.rules v) :
    b.Outcome id u order (b', .ok result) :=
  ⟨[], v, h, .inr ⟨silent, rfl, unlogged⟩, fun _ hfault => by cases hfault⟩

/-- What ordered hits absorb is what some hits absorb that land together. -/
lemma exists_of_rollHits {rules : Rules} {already : List Absorption} {hits : List HitOrder}
    {results : List HitResult} (h : (rollHits rules u already hits).Yields results) :
    ∃ landed, results.flatMap (·.taken) = u.absorbAll already landed := by
  induction hits generalizing already results with
  | nil =>
      rw [yields_pure.mp h]
      exact ⟨[], rfl⟩
  | cons hit rest ih =>
      obtain ⟨location, -, h⟩ := yields_bind.mp h
      obtain ⟨later, hlater, h⟩ := yields_bind.mp h
      obtain ⟨landed, hlanded⟩ := ih hlater
      rw [yields_pure.mp h, List.flatMap_cons, hlanded]
      exact ⟨⟨location, hit.damage, .hit _⟩ :: landed, rfl⟩

section

variable (hu : b.units.get? id = some u)
include hu

/-- Nothing comes of an order, be it refused or without effect. -/
lemma outcome_self (result : Except OrderFault OrderResult) : b.Outcome id u order (b, result) :=
  ⟨[], u, follows_self hu, .inl .nothing, fun _ _ => rfl⟩

lemma outcome_of_attack {target : UnitId} {attack : Attack}
    (h : (b.performAttack id u target attack).Yields performed) :
    b.Outcome id u order performed := by
  rw [performAttack] at h
  split at h
  · rw [yields_pure.mp h]
    exact outcome_self hu _
  · split at h
    · rw [yields_pure.mp h]
      exact outcome_self hu _
    · next solution _ =>
        have hlogged := fun roll => (follows_self hu).logged rfl (.attack id target solution roll)
        dsimp only at h
        split at h
        · obtain ⟨roll, -, h⟩ := yields_bind.mp h
          rw [yields_pure.mp h]
          exact .of_logged (hlogged roll) (.attack target solution roll)
        · obtain ⟨roll, -, h⟩ := yields_bind.mp h
          rw [yields_pure.mp h]
          exact .of_logged (hlogged roll) (.attack target solution roll)

lemma outcome_of_hits {hits : List HitOrder} (h : (b.performHits id u hits).Yields performed) :
    b.Outcome id u order performed := by
  obtain ⟨results, hresults, h⟩ := yields_bind.mp h
  obtain ⟨landed, hlanded⟩ := exists_of_rollHits hresults
  rw [yields_pure.mp h, hlanded]
  exact .of_logged ((((follows_self hu).put _).logged rfl _).remember _ _) (.hits landed)

lemma outcome_of_criticals (h : (b.performCriticals id u).Yields performed) :
    b.Outcome id u order performed := by
  obtain ⟨reports, hreports, h⟩ := yields_bind.mp h
  obtain ⟨rolls, hrolls, hr⟩ := yields_bind.mp hreports
  obtain rfl := yields_pure.mp hr
  rw [yields_pure.mp h]
  exact .of_logged ((((follows_self hu).put _).logged rfl _).remember _ _)
    (.criticals (BattleUnit.drawn_of_rollCriticals hrolls))

lemma outcome_of_fall (h : (b.performFall id u).Yields performed) :
    b.Outcome id u order performed := by
  obtain ⟨answer, hanswer, h⟩ := yields_bind.mp h
  split at h
  · rw [yields_pure.mp h]
    exact outcome_self hu _
  · rw [yields_pure.mp h]
    exact outcome_self hu _
  · obtain ⟨own, falls⟩ := BattleUnit.falls_of_resolveFall hanswer
    rw [yields_pure.mp h]
    exact .of_logged ((((follows_self hu).put _).logged rfl _).remember _ _) (.fall own falls)

lemma outcome_of_shutdown (h : (b.performShutdown id u).Yields performed) :
    b.Outcome id u order performed := by
  obtain ⟨answer, hanswer, h⟩ := yields_bind.mp h
  split at h
  · rw [yields_pure.mp h]
    exact outcome_self hu _
  · rw [yields_pure.mp h]
    exact .of_logged (((follows_self hu).put _).logged rfl _)
      (.shutdown (BattleUnit.own_of_checkShutdown hanswer))

lemma outcome_of_cookOff (h : (b.performCookOff id u).Yields performed) :
    b.Outcome id u order performed := by
  obtain ⟨answer, hanswer, h⟩ := yields_bind.mp h
  split at h
  · rw [yields_pure.mp h]
    exact outcome_self hu _
  · next check =>
      have hchecked := (follows_self hu).logged rfl (.cookOff check)
      dsimp only at h
      split at h
      · split at h
        · rw [yields_pure.mp h]
          exact ⟨_, u, hchecked, .inl (.cookOff check), fun _ _ => rfl⟩
        · next report hreport =>
            obtain ⟨rolls, hdrawn, hstrike⟩ := BattleUnit.cookOff_eq_strikeAll hreport
            rw [yields_pure.mp h, hstrike]
            exact .of_logged ((hchecked.put _).logged rfl _) (.burst check hdrawn)
      · rw [yields_pure.mp h]
        exact .of_logged hchecked (.cookOff check)

lemma outcome_of_rolls {rolls : Pilot → Rolls (List ConsciousnessRoll)}
    (rolled : ∀ p checks, (rolls p).Yields checks → p.Rolled b.rules checks)
    (h : (b.performRolls id u rolls).Yields performed) : b.Outcome id u order performed := by
  rw [performRolls] at h
  split at h
  · rw [yields_pure.mp h]
    exact outcome_self hu _
  · next p hp =>
      obtain ⟨checks, hchecks, h⟩ := yields_bind.mp h
      rw [yields_pure.mp h]
      exact .of_logged (((follows_self hu).put _).logged rfl _)
        (.consciousness hp (rolled p checks hchecks))

/-- **What an order can come to**, whatever the dice show. -/
lemma outcome_of_performWith (h : (b.performWith id u order).Yields performed) :
    b.Outcome id u order performed := by
  cases order with
  | turn n =>
      have hself := follows_self hu
      have hturned : b.Follows id [] u { b with turn := n } :=
        ⟨rfl, rfl, rfl, hself.units, hself.log⟩
      rw [yields_pure.mp h]
      exact .of_logged hturned .nothing
  | phase =>
      rw [yields_pure.mp h]
      exact .of_unlogged ((follows_self hu).put _) rfl .phase
  | wound hits =>
      rw [yields_pure.mp h]
      exact .of_unlogged ((follows_self hu).put _) rfl (.wound hits)
  | attack target attack => exact outcome_of_attack hu h
  | hits hits => exact outcome_of_hits hu h
  | criticals => exact outcome_of_criticals hu h
  | fall => exact outcome_of_fall hu h
  | checkShutdown => exact outcome_of_shutdown hu h
  | restart =>
      rw [yields_pure.mp h]
      split
      · exact .of_unlogged ((follows_self hu).put _) rfl .restart
      · exact outcome_self hu _
  | checkCookOff => exact outcome_of_cookOff hu h
  | stayAwake => exact outcome_of_rolls hu (fun _ _ hchecks => .wake hchecks) h
  | recover =>
      refine outcome_of_rolls hu (fun p checks hchecks => ?_) h
      obtain ⟨found, hfound, hchecks⟩ := yields_bind.mp hchecks
      rw [yields_pure.mp hchecks]
      exact .recover hfound
  | replay =>
      rw [yields_pure.mp h, performReplay]
      split
      · exact outcome_self hu _
      · exact outcome_self hu _

end

/-- What carrying out an order can come to: nothing, where there is no unit with the
number, and else one of the outcomes. -/
lemma outcome_of_perform (h : (b.perform id order).Yields performed) :
    performed = (b, .error (.noUnit id)) ∨
      ∃ u, b.units.get? id = some u ∧ b.Outcome id u order performed := by
  rw [perform] at h
  split at h
  · next u hu => exact .inr ⟨u, hu, outcome_of_performWith hu h⟩
  · exact .inl (yields_pure.mp h)

/-- No other unit notices an order. -/
theorem get?_of_perform_of_ne (h : (b.perform id order).Yields performed) (hk : k ≠ id) :
    performed.1.units.get? k = b.units.get? k := by
  obtain rfl | ⟨u, -, events, v, hfollows, -⟩ := outcome_of_perform h
  · rfl
  · rw [hfollows.units, if_neg hk]

/-- An order that is refused leaves every unit as it is. -/
theorem get?_of_refused {fault : OrderFault}
    (h : (b.perform id order).Yields (b', .error fault)) (k : UnitId) :
    b'.units.get? k = b.units.get? k := by
  obtain hnone | ⟨u, hu, events, v, hfollows, -, hrefused⟩ := outcome_of_perform h
  · rw [(Prod.mk.inj hnone).1]
  · rw [hfollows.units, hrefused fault rfl]
    split
    · next hk => rw [hk, hu]
    · rfl

end Battle

/-! ### The courses of units -/

/-- The critical hits on a unit that an event tells of. -/
def BattleEvent.reportsOn (k : UnitId) : BattleEvent → List CriticalReport
  | .criticals unit reports => if unit = k then reports else []
  | _ => []

/-- The critical hits on a unit that a log tells of. -/
def BattleLog.reportsOn (log : BattleLog) (k : UnitId) : List CriticalReport :=
  log.entries.flatMap fun e => e.event.reportsOn k

lemma BattleLog.reportsOn_recordAll (log : BattleLog) (turn : Nat) (events : List BattleEvent)
    (k : UnitId) :
    (log.recordAll turn events).reportsOn k =
      log.reportsOn k ++ events.flatMap (·.reportsOn k) := by
  rw [reportsOn, recordAll, List.flatMap_append, List.flatMap_map, reportsOn]

namespace BattleUnit

variable {rules : Rules} {id k : UnitId} {u v : BattleUnit} {events : List BattleEvent}

/-- The log tells of critical hits on the unit of the order only. -/
lemma Logged.reportsOn_of_ne (h : u.Logged rules id events v) (hk : k ≠ id) :
    events.flatMap (·.reportsOn k) = [] := by
  cases h <;> simp [BattleEvent.reportsOn, hk.symm]

end BattleUnit

namespace Course

variable {rules : Rules} {id : UnitId} {c d : Course} {v : BattleUnit}
  {events : List BattleEvent}

/-- One ordeal, or a change of controls: of the pilot, or of whether the unit is shut
down. -/
inductive Led (c : Course) : Course → Prop
  | ordeal {d : Course} (h : c.Step d) : Led c d
  | controls (pilot : Option Pilot) (shutdown : Bool) :
      Led c { c with unit := { c.unit with pilot, shutdown } }

/-- What is logged leads the unit on, and tells of all its critical hits. -/
lemma led_of_logged (h : c.unit.Logged rules id events v) :
    ∃ d, c.Led d ∧ d.unit = v ∧ d.reports = c.reports ++ events.flatMap (·.reportsOn id) := by
  cases h with
  | nothing => exact ⟨c, .ordeal .idle, rfl, (List.append_nil _).symm⟩
  | attack target solution roll => exact ⟨c, .ordeal .idle, rfl, (List.append_nil _).symm⟩
  | hits hits => exact ⟨_, .ordeal (.hits hits), rfl, (List.append_nil _).symm⟩
  | criticals drawn =>
      refine ⟨_, .ordeal (.strikes drawn), rfl, ?_⟩
      simp only [suffer, BattleEvent.reportsOn, List.flatMap_singleton, if_pos]
  | fall own falls => exact ⟨_, .ordeal (.fall rules falls), rfl, (List.append_nil _).symm⟩
  | shutdown own => exact ⟨_, .controls c.unit.pilot _, rfl, (List.append_nil _).symm⟩
  | cookOff check => exact ⟨c, .ordeal .idle, rfl, (List.append_nil _).symm⟩
  | burst check drawn =>
      refine ⟨_, .ordeal (.strikes drawn), rfl, ?_⟩
      simp only [suffer, BattleEvent.reportsOn, List.flatMap_cons, List.flatMap_nil,
        List.nil_append, List.append_nil, if_pos]
  | consciousness pilot rolled =>
      exact ⟨_, .controls _ c.unit.shutdown, rfl, (List.append_nil _).symm⟩

/-- What is not logged leads the unit on without critical hits. -/
lemma led_of_unlogged (h : c.unit.Unlogged rules v) :
    ∃ d, c.Led d ∧ d.unit = v ∧ d.reports = c.reports := by
  cases h with
  | phase => exact ⟨_, .ordeal .newPhase, rfl, rfl⟩
  | wound hits => exact ⟨_, .controls _ c.unit.shutdown, rfl, rfl⟩
  | restart => exact ⟨_, .controls c.unit.pilot false, rfl, rfl⟩

/-- What ordeals and changes of controls preserve holds wherever they lead. -/
lemma led_induction {P : Course → Prop} (hordeal : ∀ c d, P c → c.Step d → P d)
    (hcontrols : ∀ c pilot shutdown, P c →
      P { c with unit := { c.unit with pilot, shutdown } })
    (h : Relation.ReflTransGen Led c d) (hc : P c) : P d := by
  induction h with
  | refl => exact hc
  | tail _ hlast ih =>
      cases hlast with
      | ordeal hstep => exact hordeal _ _ ih hstep
      | controls pilot shutdown => exact hcontrols _ pilot shutdown ih

end Course

namespace Battle

variable {b b' : Battle} {id k : UnitId} {c : Course} {order : Order} {performed : Performed}

/-- The unit of a number is where a course has led it, and its critical hits are those
on the log. -/
structure Shows (b : Battle) (k : UnitId) (c : Course) : Prop where
  unit : b.units.get? k = some c.unit
  reports : b.log.reportsOn k = c.reports

/-- **An order leads every unit on along its course**, whatever the dice show. -/
lemma Shows.of_perform (h : b.Shows k c) (hp : (b.perform id order).Yields performed) :
    ∃ d, c.Led d ∧ performed.1.Shows k d := by
  obtain rfl | ⟨u, hu, events, v, hfollows, hway, -⟩ := outcome_of_perform hp
  · exact ⟨c, .ordeal .idle, h⟩
  · have hunit := hfollows.units k
    have hreports := b.log.reportsOn_recordAll b.turn events k
    rw [← hfollows.log, h.reports] at hreports
    by_cases hk : k = id
    · subst hk
      obtain rfl := Option.some.inj (h.unit.symm.trans hu)
      rw [if_pos rfl] at hunit
      obtain hlogged | ⟨-, rfl, hunlogged⟩ := hway
      · obtain ⟨d, hled, rfl, hd⟩ := Course.led_of_logged hlogged
        exact ⟨d, hled, hunit, hreports.trans hd.symm⟩
      · obtain ⟨d, hled, rfl, hd⟩ := Course.led_of_unlogged hunlogged
        rw [List.flatMap_nil, List.append_nil] at hreports
        exact ⟨d, hled, hunit, hreports.trans hd.symm⟩
    · have hnone : events.flatMap (·.reportsOn k) = [] := by
        obtain hlogged | ⟨-, rfl, -⟩ := hway
        · exact hlogged.reportsOn_of_ne hk
        · rfl
      rw [if_neg hk, h.unit] at hunit
      rw [hnone, List.append_nil] at hreports
      exact ⟨c, .ordeal .idle, hunit, hreports⟩

/-- Orders carried out one after the other, each with the unit of a number. -/
def run : Battle → List (UnitId × Order) → Rolls Battle
  | b, [] => return b
  | b, (id, order) :: rest => do (← b.perform id order).1.run rest

/-- What every order preserves holds after any orders. -/
lemma run_induction {P : Battle → Prop} {orders : List (UnitId × Order)}
    (hperform : ∀ b id order performed, (id, order) ∈ orders → P b →
      (b.perform id order).Yields performed → P performed.1)
    (h : (b.run orders).Yields b') (hb : P b) : P b' := by
  induction orders generalizing b with
  | nil =>
      rw [yields_pure.mp h]
      exact hb
  | cons p rest ih =>
      obtain ⟨performed, hp, h⟩ := yields_bind.mp h
      refine ih (fun b id order performed hmem => ?_) h
        (hperform b p.1 p.2 performed List.mem_cons_self hb hp)
      exact hperform b id order performed (List.mem_cons_of_mem p hmem)

/-- **Orders lead every unit along a course**, whatever the dice show. -/
lemma Shows.of_run {orders : List (UnitId × Order)} (h : b.Shows k c)
    (hrun : (b.run orders).Yields b') :
    ∃ d, Relation.ReflTransGen Course.Led c d ∧ b'.Shows k d := by
  refine run_induction (P := fun b => ∃ d, Relation.ReflTransGen Course.Led c d ∧ b.Shows k d)
    ?_ hrun ⟨c, .refl, h⟩
  rintro b id order performed - ⟨d, hled, hd⟩ hp
  obtain ⟨e, hlast, he⟩ := hd.of_perform hp
  exact ⟨e, hled.tail hlast, he⟩

end Battle

end MechBattle
