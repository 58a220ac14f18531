/-
The course of a battle, as one unit goes through it.

Whatever happens to a unit happens in steps: results are computed on the unit as
it is and applied at once. Dice decide along the way, and what holds after every
step holds whatever they show.

* `Rolls.Yields`: what a rule can come to, for some dice, with `yields_of_run`
  and one equation for each way to put rules together;
* `Ordeal`: what can happen to a unit, `Course` the unit with all critical hits
  on record and the unit it was when the phase began;
* `Course.go` and `Course.run`: one ordeal, and one after the other;
* `Course.Step` and `step_of_go`: all that one ordeal can do, without dice;
* `run_induction`: what every step preserves holds after any run.
-/
import MechBattle.Fall.Report
import MechBattle.Proofs.Faces
import MechBattle.Proofs.Strikes

namespace MechBattle

universe u v

/-! ### What dice can lead to -/

namespace Rolls

variable {α β : Type u}

/-- Whether a rule comes to a result for some dice. -/
inductive Yields : Rolls α → α → Prop
  | done (a : α) : Yields (done a) a
  | roll {next : Face → Rolls α} {a : α} (x : Face) (rest : Yields (next x) a) :
      Yields (roll next) a

lemma yields_iff_reads {m : Rolls α} {a : α} : m.Yields a ↔ ∃ faces, m.Reads faces a := by
  constructor
  · intro h
    induction h with
    | done a => exact ⟨[], .done a⟩
    | roll x _ ih =>
        obtain ⟨faces, hreads⟩ := ih
        exact ⟨x :: faces, .roll hreads⟩
  · rintro ⟨faces, hreads⟩
    induction hreads with
    | done a => exact .done a
    | roll _ ih => exact .roll _ ih

lemma yields_of_run {σ : Type v} [DiceSource σ] {m : Rolls α} {a : α} {s t : σ}
    (h : m.run s = (some a, t)) : m.Yields a :=
  yields_iff_reads.mpr ⟨_, reads_of_run h⟩

lemma yields_pure {a b : α} : (pure a : Rolls α).Yields b ↔ b = a := by
  simp only [yields_iff_reads, reads_pure, exists_eq_left]

lemma yields_bind {m : Rolls α} {f : α → Rolls β} {b : β} :
    (m >>= f).Yields b ↔ ∃ a, m.Yields a ∧ (f a).Yields b := by
  simp only [yields_iff_reads, reads_bind]
  constructor
  · rintro ⟨_, front, back, a, ha, hb, -⟩
    exact ⟨a, ⟨front, ha⟩, back, hb⟩
  · rintro ⟨a, ⟨front, ha⟩, back, hb⟩
    exact ⟨_, front, back, a, ha, hb, rfl⟩

/-- A rule played for each of some values comes to a result for each. -/
lemma forall₂_of_yields_mapM {γ : Type u} {f : γ → Rolls β} {xs : List γ} {ys : List β}
    (h : (xs.mapM f).Yields ys) : List.Forall₂ (fun x y => (f x).Yields y) xs ys := by
  obtain ⟨faces, hreads⟩ := yields_iff_reads.mp h
  obtain ⟨plays, -, rfl, hplays⟩ := reads_mapM.mp hreads
  rw [List.forall₂_map_right_iff]
  exact hplays.imp fun _ _ hplay => yields_iff_reads.mpr ⟨_, hplay⟩

end Rolls

/-! ### Ordeals -/

/-- What can happen to a unit. -/
inductive Ordeal where
  /-- Hits that land together, from outside or from within. -/
  | hits (hits : List Hit)
  /-- Critical hits where structure was lost. -/
  | criticals (losses : Location.Map Int)
  /-- Heat sets off a component. -/
  | cookOff (l : Location) (slot : Nat)
  /-- Hits on components and damage that may throw the unit down. -/
  | fall (board : Option Board) (struck : List ComponentKind) (damage : Int) (game : String)
  /-- A new phase begins. -/
  | newPhase

/-- A unit on its way through a battle. -/
structure Course where
  /-- The unit as it was when the phase began. -/
  opening : BattleUnit
  unit : BattleUnit
  /-- All its critical hits so far. -/
  reports : List CriticalReport := []
  deriving DecidableEq

namespace Course

/-- A unit at the start of its course. -/
def start (u : BattleUnit) : Course := ⟨u, u, []⟩

/-- The course after critical hits. -/
def suffer (c : Course) (reports : List CriticalReport) : Course :=
  { c with unit := c.unit.takeCriticals reports, reports := c.reports ++ reports }

/-- One ordeal: its results are computed on the unit as it is, and applied at
once. What is refused changes nothing. -/
def go (rules : Rules) (c : Course) : Ordeal → Rolls Course
  | .hits hits => return { c with unit := c.unit.takeDamage (c.unit.absorbAll [] hits) }
  | .criticals losses => return c.suffer (← c.unit.criticals rules losses)
  | .cookOff l slot =>
    match c.unit.cookOff l slot with
    | .error _ => return c
    | .ok report => return c.suffer [report]
  | .fall board struck damage game => do
    match ← c.unit.resolveFall rules board struck damage game with
    | .ok (some report) => return { c with unit := c.unit.takeFall rules report }
    | _ => return c
  | .newPhase => return { c with opening := c.unit.startPhase, unit := c.unit.startPhase }

/-- Ordeals, one after the other. -/
def run (rules : Rules) (c : Course) : List Ordeal → Rolls Course
  | [] => return c
  | o :: rest => do (← c.go rules o).run rules rest

end Course

/-! ### What an ordeal can do -/

namespace BattleUnit

/-- Throws for locations of the unit, at most one for each. -/
structure Drawn (u : BattleUnit) (rolls : List CriticalRoll) : Prop where
  part : ∀ c ∈ rolls, u.part? c.location = some c.part
  nodup : (rolls.map (·.location)).Nodup

/-- A report whose landing, if there is one, is this unit's. -/
def Falls (u : BattleUnit) (r : FallReport) : Prop :=
  ∀ landing, r.landing = some landing →
    r.taken = u.absorbLanding landing ∧ landing.facing.index < 6

end BattleUnit

/-- All that one ordeal can do to a course, whatever the dice show. -/
inductive Course.Step (c : Course) : Course → Prop
  | idle : Step c c
  | newPhase : Step c { c with opening := c.unit.startPhase, unit := c.unit.startPhase }
  | hits (hits : List Hit) :
      Step c { c with unit := c.unit.takeDamage (c.unit.absorbAll [] hits) }
  | strikes {rolls : List CriticalRoll} (drawn : c.unit.Drawn rolls) :
      Step c (c.suffer (c.unit.strikeAll {} rolls))
  | fall {report : FallReport} (rules : Rules) (falls : c.unit.Falls report) :
      Step c { c with unit := c.unit.takeFall rules report }

namespace BattleUnit

open Rolls

variable {u : BattleUnit} {rules : Rules}

lemma mem_lossyParts {losses : Location.Map Int} {l : Location} {p : BodyPart}
    (h : (l, p) ∈ u.lossyParts losses) : u.part? l = some p := by
  obtain ⟨⟨k, damage⟩, -, h⟩ := List.mem_filterMap.mp h
  dsimp only at h
  split at h
  · obtain ⟨q, hq, heq⟩ := Option.map_eq_some_iff.mp h
    obtain ⟨rfl, rfl⟩ := Prod.mk.inj heq
    exact hq
  · cases h

/-- The locations that are rolled for, in body order. -/
lemma locations_lossyParts (u : BattleUnit) (losses : Location.Map Int) :
    (u.lossyParts losses).map Prod.fst = Location.all.filter fun l =>
      (losses.get? l).any (fun damage => decide (0 < damage)) && (u.part? l).isSome := by
  rw [lossyParts, Location.Map.toList, List.filterMap_filterMap, List.map_filterMap,
    ← List.filterMap_eq_filter]
  refine List.filterMap_congr fun l _ => ?_
  cases hloss : losses.get? l with
  | none => simp [Option.guard, hloss]
  | some damage =>
      by_cases hpos : 0 < damage
      · cases hp : u.part? l <;> simp [Option.guard, hloss, hpos, hp]
      · simp [Option.guard, hloss, hpos]

/-- Every location is rolled for once at most. -/
lemma nodup_lossyParts (u : BattleUnit) (losses : Location.Map Int) :
    ((u.lossyParts losses).map Prod.fst).Nodup := by
  rw [locations_lossyParts]
  exact Location.nodup_all.filter _

lemma eq_of_rollCritical {x : Location × BodyPart} {c : CriticalRoll}
    (h : (rollCritical rules x.1 x.2).Yields c) : x = (c.location, c.part) := by
  rw [rollCritical, yields_bind] at h
  obtain ⟨roll, -, h⟩ := h
  rw [yields_bind] at h
  obtain ⟨slots, -, h⟩ := h
  rw [yields_pure] at h
  rw [h]

/-- The throws for the locations of a unit are its own. -/
lemma drawn_of_rollCriticals {losses : Location.Map Int} {rolls : List CriticalRoll}
    (h : (rollCriticals rules u losses).Yields rolls) : u.Drawn rolls := by
  have hlossy : u.lossyParts losses = rolls.map fun c => (c.location, c.part) := by
    rw [← List.forall₂_eq_eq_eq, List.forall₂_map_right_iff]
    exact (forall₂_of_yields_mapM h).imp fun _ _ => eq_of_rollCritical
  constructor
  · intro c hc
    have hmem : (c.location, c.part) ∈ u.lossyParts losses := by
      rw [hlossy]
      exact List.mem_map_of_mem hc
    exact mem_lossyParts hmem
  · have nodup := nodup_lossyParts u losses
    rw [hlossy, List.map_map] at nodup
    exact nodup

/-- What heat sets off is struck as by one throw. -/
lemma cookOff_eq_strikeAll {l : Location} {slot : Nat} {report : CriticalReport}
    (h : u.cookOff l slot = .ok report) :
    ∃ rolls, u.Drawn rolls ∧ [report] = u.strikeAll {} rolls := by
  rw [cookOff] at h
  split at h
  · cases h
  · next p hp =>
      split at h
      · cases h
      · refine ⟨[⟨l, p, 0, 1, [slot]⟩], ⟨?_, List.nodup_singleton _⟩, ?_⟩
        · intro c hc
          rw [List.mem_singleton.mp hc]
          exact hp
        · have heq : ⟨l, 0, 1, [(u.strike p {} slot).1], (u.strike p {} slot).2.1.toList⟩ =
              report := Except.ok.inj h
          rw [← heq, strikeAll_cons, strikeSlots_cons]
          simp only [strikeSlots, strikeAll, List.append_nil]

/-- The landing of a unit turns it to a hexside. -/
lemma facing_of_rollLanding {levels : Nat} {jumping : Bool} {check : PilotingCheck}
    {landing : Landing} (h : (rollLanding rules u levels jumping check).Yields landing) :
    landing.facing.index < 6 := by
  simp only [rollLanding, yields_bind, yields_pure] at h
  obtain ⟨die, -, clusters, -, injury, -, rfl⟩ := h
  exact u.facing.turned_index_lt _

/-- The report of a unit that failed to keep standing goes on with the one so far. -/
lemma falls_of_fallDown {board : Option Board} {standing report : FallReport}
    (h : (fallDown rules u board standing).Yields (.ok report)) :
    report.unit = standing.unit ∧ u.Falls report := by
  rw [fallDown] at h
  split at h
  · cases yields_pure.mp h
  · next check _ =>
      obtain ⟨result, hland, h⟩ := yields_bind.mp h
      split at h
      · cases yields_pure.mp h
      · next landing =>
          obtain rfl := Except.ok.inj (yields_pure.mp h)
          refine ⟨rfl, fun other hother => ?_⟩
          obtain rfl := Option.some.inj hother
          refine ⟨rfl, ?_⟩
          rw [land] at hland
          split at hland
          · cases yields_pure.mp hland
          · obtain ⟨found, hfound, heq⟩ := yields_bind.mp hland
            obtain rfl := Except.ok.inj (yields_pure.mp heq)
            exact facing_of_rollLanding hfound

lemma falls_of_resolveCause {board : Option Board} {cause : FallCause} {damage : Int}
    {game : String} {report : FallReport}
    (h : (resolveCause rules u board cause damage game).Yields (.ok report)) :
    report.unit = u.id ∧ u.Falls report := by
  rw [resolveCause] at h
  dsimp only at h
  split at h
  · cases yields_pure.mp h
  · obtain ⟨outcome, -, h⟩ := yields_bind.mp h
    split at h
    · obtain rfl := Except.ok.inj (yields_pure.mp h)
      refine ⟨rfl, fun landing hlanding => ?_⟩
      cases hlanding
    · exact falls_of_fallDown h

/-- A report on a fall tells of this unit. -/
lemma falls_of_resolveFall {board : Option Board} {struck : List ComponentKind} {damage : Int}
    {game : String} {report : FallReport}
    (h : (u.resolveFall rules board struck damage game).Yields (.ok (some report))) :
    report.unit = u.id ∧ u.Falls report := by
  rw [resolveFall] at h
  split at h
  · cases yields_pure.mp h
  · split at h
    · cases yields_pure.mp h
    · obtain ⟨result, hresult, h⟩ := yields_bind.mp h
      have heq := yields_pure.mp h
      cases result with
      | error refusal => cases heq
      | ok found =>
          obtain rfl := Option.some.inj (Except.ok.inj heq)
          exact falls_of_resolveCause hresult

end BattleUnit

namespace Course

open Rolls

variable {rules : Rules} {c d : Course}

/-- **What an ordeal can do**, whatever the dice show. -/
lemma step_of_go {o : Ordeal} (h : (c.go rules o).Yields d) : c.Step d := by
  cases o with
  | hits hits =>
      rw [yields_pure.mp h]
      exact .hits hits
  | criticals losses =>
      obtain ⟨reports, hreports, h⟩ := yields_bind.mp h
      obtain ⟨rolls, hrolls, hr⟩ := yields_bind.mp hreports
      rw [yields_pure.mp h, yields_pure.mp hr]
      exact .strikes (BattleUnit.drawn_of_rollCriticals hrolls)
  | cookOff l slot =>
      rw [go] at h
      split at h
      · rw [yields_pure.mp h]
        exact .idle
      · next report hreport =>
          obtain ⟨rolls, hdrawn, hstrike⟩ := BattleUnit.cookOff_eq_strikeAll hreport
          rw [yields_pure.mp h, hstrike]
          exact .strikes hdrawn
  | fall board struck damage game =>
      obtain ⟨result, hresult, h⟩ := yields_bind.mp h
      split at h
      · rw [yields_pure.mp h]
        exact .fall rules (BattleUnit.falls_of_resolveFall hresult).2
      · rw [yields_pure.mp h]
        exact .idle
  | newPhase =>
      rw [yields_pure.mp h]
      exact .newPhase

/-- What every step preserves holds after any run. -/
lemma run_induction {P : Course → Prop} (hstep : ∀ c d, P c → c.Step d → P d)
    {ordeals : List Ordeal} (h : (c.run rules ordeals).Yields d) (hc : P c) : P d := by
  induction ordeals generalizing c with
  | nil =>
      rw [yields_pure.mp h]
      exact hc
  | cons o rest ih =>
      obtain ⟨next, hnext, h⟩ := yields_bind.mp h
      exact ih h (hstep c next hc (step_of_go hnext))

end Course

end MechBattle
