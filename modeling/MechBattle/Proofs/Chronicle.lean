/-
The log of a battle tells it again.

What an order does is logged, except for new phases, wounds from outside and restarts. So
the log, applied to the units of the start, leads to the units as they are, but for what
those three change: pilots, shutdowns and the damage of the phase.

* `BattleEvent.change`, `BattleUnit.retold`: what one event and what a whole log makes
  of a unit, by `get?_replay` the unit in the roster that is replayed;
* `Logged.undergo_self`, `Logged.undergo_of_ne`: the events of an order make of its unit
  what the order does, and nothing of the others;
* `BattleUnit.body`: a unit without its controls and the damage of the phase;
* `retold_of_perform`: an order keeps what is told again right;
* `replay_of_battle`: the units of a battle are those that its log tells of;
* `answer_of_replay`: what the order to replay answers.
-/
import MechBattle.BattleUnit.Assembly
import MechBattle.Dice.Script
import MechBattle.Proofs.Orders
import MechBattle.Proofs.RoundTrip

namespace MechBattle

open Rolls

/-! ### Events applied again -/

namespace BattleEvent

/-- The unit that an event changes, if it changes any. -/
def subject? : BattleEvent → Option UnitId
  | .attack .. | .cookOff _ => none
  | .damage unit _ | .criticals unit _ | .consciousness unit _ => some unit
  | .fall report => some report.unit
  | .shutdown check => some check.unit

/-- What an event makes of the unit that it changes. -/
def change (rules : Rules) (u : BattleUnit) : BattleEvent → BattleUnit
  | .attack .. | .cookOff _ => u
  | .damage _ taken => u.takeDamage taken
  | .criticals _ reports => u.takeCriticals reports
  | .fall report => u.takeFall rules report
  | .shutdown check => { u with shutdown := u.shutdown || check.shutdown }
  | .consciousness _ rolls => { u with pilot := u.pilot.map fun p => p.afterRolls rolls }

end BattleEvent

namespace BattleUnit

/-- The unit of a number after an event. -/
def undergo (rules : Rules) (k : UnitId) (u : BattleUnit) (e : BattleEvent) : BattleUnit :=
  if e.subject? = some k then e.change rules u else u

/-- The unit of a number after all that a log tells of it. -/
def retold (rules : Rules) (k : UnitId) (log : BattleLog) (u : BattleUnit) : BattleUnit :=
  log.entries.foldl (fun u e => u.undergo rules k e.event) u

lemma retold_recordAll (rules : Rules) (k : UnitId) (log : BattleLog) (turn : Nat)
    (events : List BattleEvent) (u : BattleUnit) :
    u.retold rules k (log.recordAll turn events) =
      events.foldl (undergo rules k) (u.retold rules k log) := by
  rw [retold, BattleLog.recordAll, List.foldl_append, List.foldl_map, retold]

end BattleUnit

namespace Roster

lemma get?_modify (r : Roster) (id k : UnitId) (f : BattleUnit → BattleUnit) :
    (r.modify id f).get? k = if id = k then (r.get? k).map f else r.get? k := by
  rw [modify]
  split
  · next u hu =>
      rw [get?_put]
      by_cases hk : k = id
      · rw [if_pos hk, if_pos hk.symm, hk, hu, Option.map_some]
      · rw [if_neg hk, if_neg (Ne.symm hk)]
  · next hnone =>
      split
      · next hk => rw [← hk, hnone, Option.map_none]
      · rfl

lemma get?_apply (rules : Rules) (r : Roster) (e : BattleEvent) (k : UnitId) :
    (r.apply rules e).get? k = (r.get? k).map (·.undergo rules k e) := by
  have hmodify : ∀ id f, (r.modify id f).get? k =
      (r.get? k).map fun u => if some id = some k then f u else u := by
    intro id f
    rw [get?_modify]
    by_cases hk : id = k
    · simp only [hk, if_true]
    · simp only [hk, if_false, Option.some.injEq, Option.map_id']
  cases e with
  | attack | cookOff => exact Option.map_id'.symm
  | damage | criticals | fall | shutdown | consciousness => exact hmodify _ _

/-- A log applied to units is applied to each of them. -/
lemma get?_replay (rules : Rules) (r : Roster) (log : BattleLog) (k : UnitId) :
    (r.replay rules log).get? k = (r.get? k).map (·.retold rules k log) := by
  simp only [replay, BattleUnit.retold]
  induction log.entries generalizing r with
  | nil => exact Option.map_id'.symm
  | cons e rest ih =>
      rw [List.foldl_cons, ih, get?_apply, Option.map_map]
      rfl

/-- Whether units stand in a roster under their own numbers. -/
def Keyed (r : Roster) : Prop := ∀ k u, r.get? k = some u → u.id = k

end Roster

/-! ### Units under their own numbers -/

lemma Course.id_of_led {c d : Course} (h : c.Led d) : d.unit.id = c.unit.id := by
  cases h with
  | ordeal hstep =>
      cases hstep with
      | idle => rfl
      | newPhase => rfl
      | hits hits =>
          obtain ⟨parts, phaseDamage, hdamage⟩ :=
            c.unit.exists_takeDamage_eq (c.unit.absorbAll [] hits)
          rw [hdamage]
      | @strikes rolls drawn =>
          obtain ⟨parts, phaseDamage, hdamage⟩ :=
            c.unit.exists_takeCriticals_eq (c.unit.strikeAll {} rolls)
          rw [suffer, hdamage]
      | fall rules falls => exact BattleUnit.id_takeFall _ _ _
  | controls pilot shutdown => rfl

namespace BattleUnit

variable {rules : Rules} {id k : UnitId} {u v : BattleUnit} {events : List BattleEvent}

/-- The events of an order make of its unit what the order does. -/
lemma Logged.undergo_self (h : u.Logged rules id events v) (own : u.id = id) :
    events.foldl (undergo rules id) u = v := by
  cases h with
  | nothing | attack | hits | criticals | cookOff | burst =>
      simp [undergo, BattleEvent.subject?, BattleEvent.change]
  | fall hown | shutdown hown =>
      simp [undergo, BattleEvent.subject?, BattleEvent.change, hown, own]
  | consciousness hpilot => simp [undergo, BattleEvent.subject?, BattleEvent.change, hpilot]

/-- The events of an order change no other unit. -/
lemma Logged.undergo_of_ne (h : u.Logged rules id events v) (own : u.id = id) (hk : k ≠ id)
    (w : BattleUnit) : events.foldl (undergo rules k) w = w := by
  cases h with
  | nothing | attack | hits | criticals | cookOff | burst | consciousness =>
      simp [undergo, BattleEvent.subject?, hk.symm]
  | fall hown | shutdown hown => simp [undergo, BattleEvent.subject?, hown, own, hk.symm]

lemma Logged.id_eq (h : u.Logged rules id events v) : v.id = u.id := by
  obtain ⟨d, hled, rfl, -⟩ := Course.led_of_logged (c := .start u) h
  exact Course.id_of_led hled

lemma Unlogged.id_eq (h : u.Unlogged rules v) : v.id = u.id := by
  obtain ⟨d, hled, rfl, -⟩ := Course.led_of_unlogged (c := .start u) h
  exact Course.id_of_led hled

/-! ### Units without controls -/

/-- The unit without its controls and without the damage of the phase, which orders
change that are not logged. -/
def body (u : BattleUnit) : BattleUnit :=
  { u with pilot := none, shutdown := false, phaseDamage := 0 }

lemma body_takeOne (u : BattleUnit) (a : Absorption) :
    (u.takeOne a).body = (u.body.takeOne a).body := by
  rw [takeOne, takeOne]
  change _ = (if (u.part? a.location).isSome then _ else _ : BattleUnit).body
  split <;> rfl

lemma body_takeDamage (u : BattleUnit) (taken : List Absorption) :
    (u.takeDamage taken).body = (u.body.takeDamage taken).body := by
  induction taken generalizing u with
  | nil => rfl
  | cons a rest ih =>
      calc (u.takeDamage (a :: rest)).body
          = ((u.takeOne a).body.takeDamage rest).body := ih (u.takeOne a)
        _ = ((u.body.takeOne a).body.takeDamage rest).body := by rw [body_takeOne]
        _ = (u.body.takeDamage (a :: rest)).body := (ih (u.body.takeOne a)).symm

lemma body_marks (u : BattleUnit) (reports : List CriticalReport) :
    (reports.foldl mark u).body = reports.foldl mark u.body := by
  induction reports generalizing u with
  | nil => rfl
  | cons r rest ih => exact ih (u.mark r)

lemma body_takeCriticals (u : BattleUnit) (reports : List CriticalReport) :
    (u.takeCriticals reports).body = (u.body.takeCriticals reports).body := by
  rw [takeCriticals_eq, takeCriticals_eq, body_marks, body_marks, body_takeDamage]

lemma body_takeFall (rules : Rules) (u : BattleUnit) (r : FallReport) :
    (u.takeFall rules r).body = (u.body.takeFall rules r).body := by
  rw [takeFall, takeFall]
  split
  · rfl
  · next landing _ =>
      have hdamage := body_takeDamage
        ({ u with prone := true, facing := landing.facing } : BattleUnit) r.taken
      have hdamage' := body_takeDamage
        ({ u.body with prone := true, facing := landing.facing } : BattleUnit) r.taken
      dsimp only
      split
      · exact hdamage.trans hdamage'.symm
      · exact hdamage.trans hdamage'.symm

/-- What an event makes of the body does not depend on the controls. -/
lemma body_undergo (rules : Rules) (k : UnitId) (u : BattleUnit) (e : BattleEvent) :
    (u.undergo rules k e).body = (u.body.undergo rules k e).body := by
  rw [undergo, undergo]
  split
  · cases e with
    | attack | cookOff | shutdown | consciousness => rfl
    | damage unit taken => exact body_takeDamage u taken
    | criticals unit reports => exact body_takeCriticals u reports
    | fall report => exact body_takeFall rules u report
  · rfl

lemma Unlogged.body_eq (h : u.Unlogged rules v) : v.body = u.body := by
  cases h <;> rfl

end BattleUnit

/-! ### A battle told again -/

namespace Battle

universe w

/-- Whether the log makes of the units of the start what the units are, as far as a view
of units shows. -/
def Retold {α : Type w} (view : BattleUnit → α) (b : Battle) : Prop :=
  ∀ k, ((b.initial.replay b.rules b.log).get? k).map view = (b.units.get? k).map view

/-- Whether events make of units that look alike units that look alike. -/
def Faithful {α : Type w} (view : BattleUnit → α) : Prop :=
  ∀ (rules : Rules) (k : UnitId) (e : BattleEvent) (u v : BattleUnit), view u = view v →
    view (u.undergo rules k e) = view (v.undergo rules k e)

section retold

variable {α : Type w} {view : BattleUnit → α}

lemma Faithful.foldl (h : Faithful view) (rules : Rules) (k : UnitId)
    (events : List BattleEvent) {u v : BattleUnit} (hview : view u = view v) :
    view (events.foldl (BattleUnit.undergo rules k) u) =
      view (events.foldl (BattleUnit.undergo rules k) v) := by
  induction events generalizing u v with
  | nil => exact hview
  | cons e rest ih => exact ih (h rules k e u v hview)

variable {b : Battle} {id : UnitId} {order : Order} {performed : Performed}

lemma keyed_of_perform (keyed : b.units.Keyed) (hp : (b.perform id order).Yields performed) :
    performed.1.units.Keyed := by
  obtain rfl | ⟨u, hu, events, v, hfollows, hway, -⟩ := outcome_of_perform hp
  · exact keyed
  · intro k w hw
    rw [hfollows.units] at hw
    split at hw
    · next hk =>
        obtain rfl := Option.some.inj hw
        rw [hk, ← keyed id u hu]
        obtain hlogged | ⟨-, -, hunlogged⟩ := hway
        · exact hlogged.id_eq
        · exact hunlogged.id_eq
    · exact keyed k w hw

/-- **An order keeps what is told again right**: it is logged, or a view does not show
what it does. -/
lemma retold_of_perform (faithful : Faithful view)
    (silent : order.isLogged = false → ∀ u v, u.Unlogged b.rules v → view v = view u)
    (keyed : b.units.Keyed) (retold : b.Retold view)
    (hp : (b.perform id order).Yields performed) : performed.1.Retold view := by
  obtain rfl | ⟨u, hu, events, v, hfollows, hway, -⟩ := outcome_of_perform hp
  · exact retold
  · intro k
    have hk := retold k
    rw [Roster.get?_replay, Option.map_map] at hk ⊢
    rw [hfollows.initial, hfollows.rules, hfollows.log, hfollows.units]
    split
    · next heq =>
        subst heq
        rw [hu, Option.map_some] at hk
        obtain ⟨w, hw, hview⟩ := Option.map_eq_some_iff.mp hk
        have hlast := faithful.foldl b.rules k events hview
        rw [hw, Option.map_some, Option.map_some, Function.comp_apply,
          BattleUnit.retold_recordAll, hlast]
        obtain hlogged | ⟨hsilent, rfl, hunlogged⟩ := hway
        · rw [hlogged.undergo_self (keyed k u hu)]
        · exact congrArg some (silent hsilent u v hunlogged).symm
    · next hne =>
        have hsame : ∀ w, events.foldl (BattleUnit.undergo b.rules k) w = w := by
          obtain hlogged | ⟨-, rfl, -⟩ := hway
          · exact hlogged.undergo_of_ne (keyed id u hu) hne
          · exact fun _ => rfl
        rw [← hk]
        refine congrArg (Option.map · _) (funext fun w => ?_)
        rw [Function.comp_apply, Function.comp_apply, BattleUnit.retold_recordAll, hsame]

end retold

/-- Whether a battle began with some rules and units. -/
structure From (rules : Rules) (units : Roster) (b : Battle) : Prop where
  rules : b.rules = rules
  initial : b.initial = units
  keyed : b.units.Keyed
  version : b.log.version = logVersion

variable {rules : Rules} {board : Board} {units : Roster} {game : String} {b b' : Battle}
  {orders : List (UnitId × Order)}

lemma from_start (keyed : units.Keyed) : From rules units (start rules board units game) :=
  ⟨rfl, rfl, keyed, rfl⟩

lemma From.of_perform {id : UnitId} {order : Order} {performed : Performed}
    (h : From rules units b) (hp : (b.perform id order).Yields performed) :
    From rules units performed.1 := by
  have keyed := keyed_of_perform h.keyed hp
  obtain rfl | ⟨u, hu, events, v, hfollows, -⟩ := outcome_of_perform hp
  · exact h
  · refine ⟨hfollows.rules.trans h.rules, hfollows.initial.trans h.initial, keyed, ?_⟩
    rw [hfollows.log]
    exact h.version

lemma From.of_run (h : From rules units b) (hrun : (b.run orders).Yields b') :
    From rules units b' :=
  run_induction (fun _ _ _ _ _ hb hp => hb.of_perform hp) hrun h

lemma retold_of_run {α : Type w} {view : BattleUnit → α} (faithful : Faithful view)
    (silent : ∀ p ∈ orders, p.2.isLogged = false →
      ∀ rules u v, BattleUnit.Unlogged rules u v → view v = view u)
    (keyed : b.units.Keyed) (retold : b.Retold view) (hrun : (b.run orders).Yields b') :
    b'.Retold view := by
  refine (run_induction (P := fun b => b.units.Keyed ∧ b.Retold view) ?_ hrun ⟨keyed, retold⟩).2
  rintro b id order performed hmem ⟨hkeyed, hretold⟩ hp
  exact ⟨keyed_of_perform hkeyed hp, retold_of_perform faithful
    (fun hsilent => silent _ hmem hsilent b.rules) hkeyed hretold hp⟩

end Battle

section

variable {σ : Type} [DiceSource σ] {rules : Rules} {board : Board} {units : Roster}
  {game : String} {orders : List (UnitId × Order)} {b : Battle} {dice rest : σ}
  (keyed : units.Keyed)
  (h : ((Battle.start rules board units game).run orders).run dice = (some b, rest))

include keyed h in
/-- **The log tells the battle again.** Applied to the units of the start, it makes of
them the units that there are in the end, but for their pilots, shutdowns and damage of
the phase; and where every order was one that is logged, exactly these units. -/
theorem replay_of_battle :
    (∀ k, ((units.replay rules b.log).get? k).map BattleUnit.body =
      (b.units.get? k).map BattleUnit.body) ∧
    ((∀ p ∈ orders, p.2.isLogged = true) →
      ∀ k, (units.replay rules b.log).get? k = b.units.get? k) := by
  have hrun := yields_of_run h
  have hfrom := (Battle.from_start keyed).of_run hrun
  constructor
  · have faithful : Battle.Faithful BattleUnit.body := by
      intro rules k e u v hbody
      rw [BattleUnit.body_undergo, hbody, ← BattleUnit.body_undergo]
    have hbody := Battle.retold_of_run faithful (fun _ _ _ _ _ _ hunlogged => hunlogged.body_eq)
      keyed (fun _ => rfl) hrun
    rw [Battle.Retold, hfrom.rules, hfrom.initial] at hbody
    exact hbody
  · intro logged k
    have faithful : Battle.Faithful (id : BattleUnit → BattleUnit) :=
      fun rules k e _ _ heq => congrArg (BattleUnit.undergo rules k · e) heq
    have hall := Battle.retold_of_run faithful
      (fun p hp hsilent => by rw [logged p hp] at hsilent; cases hsilent) keyed
      (fun _ => rfl) hrun k
    rw [hfrom.rules, hfrom.initial, Option.map_id] at hall
    exact hall

/-- A new phase is not logged, so the damage that it forgets is told again. -/
example :
    let u := (BattleUnit.blank 7 "Target" .mech 50).withPart (.intact .leftArm 3 0 4)
    let orders := [(7, Order.hits [⟨some .leftArm, 5, .side .front⟩]), (7, .phase)]
    let played := ((Battle.start {} .empty [(7, u)] "Skirmish").run orders).run (⟨[], 0⟩ : Script)
    (played.1.map fun b => ((b.units.get? 7).map (·.phaseDamage),
      ((Roster.replay {} [(7, u)] b.log).get? 7).map (·.phaseDamage))) = some (some 0, some 5) := by
  decide +kernel

include keyed h in
/-- **What the order to replay answers**, as long as the log fits into bytes and every
order was one that is logged: how many events there were this turn, and the unit as it
is. Nothing changes. -/
theorem answer_of_replay (logged : ∀ p ∈ orders, p.2.isLogged = true)
    (inRange : b.log.InRange) {k : UnitId} {u : BattleUnit} (hu : b.units.get? k = some u)
    {performed : Battle.Performed} (hp : (b.perform k .replay).Yields performed) :
    performed = (b, .ok (.replay (b.log.eventsInTurn b.turn).length (some u))) := by
  have hfrom := (Battle.from_start keyed).of_run (yields_of_run h)
  have hread : BattleLog.decode b.log.encode = .ok b.log :=
    BattleLog.decode_eq_ok_iff.mpr ⟨inRange, hfrom.version, List.prefix_refl _⟩
  have hunit := (replay_of_battle keyed h).2 logged k
  rw [Battle.perform, hu] at hp
  rw [yields_pure.mp hp, Battle.performReplay, hread]
  dsimp only
  rw [hfrom.initial, hfrom.rules, hunit, hu]

end

end MechBattle
