/-
Seeded dice played again from a script.

A rule knows of its dice only the faces that it has seen. So the faces that it drew from
the dice of a seed, written down as a script, lead it the same way again, and what it comes
to tells how many faces there were.

* `Rolls.run_script`, `Rolls.run_script_of_cut`: a rule on the faces that it drew, and on
  fewer of them;
* `Rolls.drawn` and `Rolls.Replays`: the faces drawn from the dice of a seed, and what it
  means that they are enough to play a rule again;
* `Landing.faces`, `FallReport.faces`, `BattleUnit.criticalFaces`: faces counted from what
  is recorded, with one lemma `faces_of_…` for each rule;
* `replays_of_seed`: every rule that rolls dice is replayed by the faces that it draws.
-/
import MechBattle.Dice.Box
import MechBattle.Heat
import MechBattle.Proofs.Refusals

namespace MechBattle

universe v w

/-! ### Scripts of the faces drawn -/

namespace Rolls

variable {α : Type} {σ : Type v} [DiceSource σ]

/-- Dice go the same way inside of something that only passes their faces on. -/
lemma run_wrap {τ : Type w} [DiceSource τ] {wrap : σ → τ}
    (hnext : ∀ s, DiceSource.next (wrap s) =
      (DiceSource.next s).map fun found => (found.1, wrap found.2))
    (m : Rolls α) (s : σ) : m.run (wrap s) = ((m.run s).1, wrap (m.run s).2) := by
  induction m generalizing s with
  | done a => rfl
  | roll next ih =>
      rw [run, run, hnext]
      cases DiceSource.next s with
      | none => rfl
      | some found => exact ih found.1 found.2

/-- A script offers its faces one after the other. -/
lemma offers_script (faces more : List Face) (n : Nat) :
    DiceSource.Offers (⟨faces ++ more, n⟩ : Script) faces ⟨more, n + faces.length⟩ := by
  induction faces generalizing n with
  | nil => exact .nil _
  | cons x faces ih =>
      have later := ih (n + 1)
      rw [Nat.add_right_comm, Nat.add_assoc] at later
      exact .cons rfl later

/-- A run goes the same way on a script of the faces that it drew, and leaves what
follows them. -/
lemma run_script {m : Rolls α} {s t : σ} {a : α} (h : m.run s = (some a, t)) (n : Nat)
    (more : List Face) :
    m.run (⟨m.trace s ++ more, n⟩ : Script) = (some a, ⟨more, n + (m.trace s).length⟩) :=
  run_eq_some_iff.mpr ⟨_, reads_of_run h, offers_script _ more n⟩

/-- On a script that ends before the last face that a run drew, dice run out after all
faces of the script. -/
lemma run_script_of_cut {m : Rolls α} {s : σ} {front : List Face} (cut : front <+: m.trace s)
    (short : front ≠ m.trace s) (n : Nat) :
    m.run (⟨front, n⟩ : Script) = (none, ⟨[], n + front.length⟩) := by
  induction m generalizing s front n with
  | done a => exact absurd (List.prefix_nil.mp cut) short
  | roll next ih =>
      cases front with
      | nil => rfl
      | cons y front =>
          rw [trace] at cut short
          split at cut
          · cases List.prefix_nil.mp cut
          · next x rest hnext =>
              rw [hnext] at short
              obtain ⟨rfl, hrest⟩ := List.cons_prefix_cons.mp cut
              have hshort : front ≠ (next y).trace rest := fun heq => short (by rw [heq])
              rw [run, Script.next_cons]
              dsimp only
              rw [ih y hrest hshort, List.length_cons, Nat.add_right_comm, Nat.add_assoc]

/-- A run draws the faces that come next. -/
lemma trace_eq_peek (m : Rolls α) (box : DiceBox) :
    m.trace box = box.peek (m.trace box).length := by
  induction m generalizing box with
  | done a => rfl
  | roll next ih =>
      rw [trace]
      split
      · rfl
      · next x rest hnext =>
          rw [List.length_cons, DiceBox.peek, hnext]
          dsimp only
          rw [← ih]

/-! ### Playing again -/

/-- The faces that a rule draws from the dice of a seed. -/
def drawn (m : Rolls α) (seed : UInt64) : List Face := m.trace (DiceBox.seeded (.ofSeed seed))

/-- A rule played on faces that are written down as pips. -/
def playFaces (m : Rolls α) (faces : List Face) : Except Fault (Except Fault α × DiceBox) :=
  (Script.ofFaces? (faces.map Face.pips)).map fun script => m.play (.scripted script)

/-- Whether a rule played on the dice of a seed is played again by the faces that it draws,
of which there are so many by what it comes to. They are the first faces of the seed.
Written down, with any others behind them, they lead to the same answer and leave the
others; with some of them missing at the end, dice run out. -/
structure Replays (m : Rolls α) (seed : UInt64) (faces : α → Nat) : Prop where
  first : m.drawn seed = (DiceBox.seeded (.ofSeed seed)).peek (m.drawn seed).length
  again : ∃ answer rest, m.play (.seeded (.ofSeed seed)) = (.ok answer, .seeded rest) ∧
    (m.drawn seed).length = faces answer ∧
    ∀ more, m.playFaces (m.drawn seed ++ more) =
      .ok (.ok answer, .scripted ⟨more, faces answer⟩)
  cut : ∀ front, front <+: m.drawn seed → front ≠ m.drawn seed →
    m.playFaces front =
      .ok (.error (.scriptExhausted front.length), .scripted ⟨[], front.length⟩)

lemma ofFaces?_map_pips (faces : List Face) :
    Script.ofFaces? (faces.map Face.pips) = .ok ⟨faces, 0⟩ := by
  have hback : (faces.map Face.pips).mapM Face.ofPips? = some faces := by
    induction faces with
    | nil => rfl
    | cons x faces ih => simp [Face.ofPips?_pips, ih]
  rw [Script.ofFaces?, hback]

/-- A script inside of a box is played like one outside. -/
lemma playFaces_eq (m : Rolls α) (faces : List Face) :
    m.playFaces faces = .ok (match m.run (⟨faces, 0⟩ : Script) with
      | (some a, rest) => (.ok a, .scripted rest)
      | (none, rest) => (.error rest.exhausted, .scripted rest)) := by
  have hrun : m.run (DiceBox.scripted ⟨faces, 0⟩) =
      ((m.run (⟨faces, 0⟩ : Script)).1, .scripted (m.run (⟨faces, 0⟩ : Script)).2) :=
    run_wrap (fun _ => rfl) m _
  rw [playFaces, ofFaces?_map_pips, Except.map, play, hrun]
  rcases m.run (⟨faces, 0⟩ : Script) with ⟨_ | a, rest⟩ <;> rfl

/-- Seeded dice never run out. -/
lemma run_seeded (m : Rolls α) (k : Keystream) :
    m.run (DiceBox.seeded k) =
      (some (Keystream.play m k).1, .seeded (Keystream.play m k).2) := by
  have hrun : m.run (DiceBox.seeded k) = ((m.run k).1, .seeded (m.run k).2) :=
    run_wrap (fun _ => rfl) m k
  rw [hrun, Keystream.run_eq_play]

/-- **A rule is replayed by the faces that it draws** if what it comes to tells how many
there are. -/
lemma replays_of_draws {m : Rolls α} {faces : α → Nat} (h : ∀ n a, m.Draws n a → n = faces a)
    (seed : UInt64) : m.Replays seed faces where
  first := m.trace_eq_peek _
  again := by
    have hrun := m.run_seeded (.ofSeed seed)
    have hlength : (m.drawn seed).length = faces (Keystream.play m (.ofSeed seed)).1 :=
      h _ _ (draws_of_run hrun)
    refine ⟨_, _, by rw [play, hrun], hlength, fun more => ?_⟩
    rw [playFaces_eq, ← hlength, drawn, run_script hrun, Nat.zero_add]
  cut front hfront hshort := by
    rw [playFaces_eq, run_script_of_cut hfront hshort, Nat.zero_add]
    rfl

lemma yields_of_draws {m : Rolls α} {n : Nat} {a : α} (h : m.Draws n a) : m.Yields a := by
  obtain ⟨faces, hreads, -⟩ := draws_iff_reads.mp h
  exact yields_iff_reads.mpr ⟨faces, hreads⟩

end Rolls

open Rolls

variable {rules : Rules} {u : BattleUnit} {n : Nat}

/-! ### Faces of a fall -/

/-- The faces of a throw, if there was one. -/
def throwFaces (throw : Option TwoDice) : Nat := throw.elim 0 fun _ => 2

/-- The faces of a landing: one to turn, two for each cluster, and those of the roll to
avoid injury. -/
def Landing.faces (landing : Landing) : Nat :=
  1 + 2 * landing.clusters.length + throwFaces landing.injuryRoll

/-- The faces of a fall: those of the roll to keep standing and of the landing. -/
def FallReport.faces (r : FallReport) : Nat :=
  throwFaces r.outcome.roll + r.landing.elim 0 Landing.faces

/-- The faces that deciding on a fall takes. A refusal does not tell, but what is rolled for
does. -/
def BattleUnit.fallFaces (rules : Rules) (u : BattleUnit) (board : Option Board)
    (hits : List ComponentKind) (damage : Int) : Except Refusal (Option FallReport) → Nat
  | .ok report => report.elim 0 FallReport.faces
  | .error _ => (fallCause? rules hits damage).elim 0 fun cause =>
      u.standingFaces rules board cause damage

lemma faces_of_outcome {check : PilotingCheck} {outcome : CheckOutcome}
    (h : check.roll.Draws n outcome) : n = throwFaces outcome.roll := by
  obtain ⟨-, rfl, rfl⟩ | ⟨-, rfl, throw, rfl⟩ := draws_check h <;> rfl

lemma faces_of_rollInjury {check : PilotingCheck} {injury : Option TwoDice × Bool}
    (h : (rollInjury check).Draws n injury) : n = throwFaces injury.1 := by
  obtain ⟨-, rfl, rfl⟩ | ⟨-, rfl, throw, rfl⟩ := draws_rollInjury h <;> rfl

lemma Landing.Drawn.faces_eq {levels : Nat} {jumping : Bool} {check : PilotingCheck}
    {landing : Landing} (h : landing.Drawn rules u levels jumping check n) :
    n = landing.faces := by
  obtain ⟨k, hinjury, rfl⟩ := h.injury
  rw [Landing.faces, faces_of_rollInjury hinjury]

namespace BattleUnit

lemma faces_of_land {levels : Nat} {jumping : Bool} {check : PilotingCheck}
    {answer : Except Refusal Landing} (h : (u.land rules levels jumping check).Draws n answer) :
    n = answer.toOption.elim 0 Landing.faces := by
  rw [land] at h
  split at h
  · obtain ⟨rfl, rfl⟩ := draws_pure.mp h
    rfl
  · obtain ⟨k, j, landing, hlanding, hdone, rfl⟩ := draws_bind.mp h
    obtain ⟨rfl, rfl⟩ := draws_pure.mp hdone
    exact (drawn_of_rollLanding hlanding).faces_eq

lemma faces_of_reports {r : FallReport} (h : u.Reports rules n r) : n = r.faces := by
  obtain ⟨k, hroll, ⟨hstood, rfl⟩ | ⟨check, landing, j, hfell, hdrawn, rfl⟩⟩ := h
  · rw [FallReport.faces, hstood.landing, faces_of_outcome hroll]
    rfl
  · rw [FallReport.faces, hfell.landing, faces_of_outcome hroll, hdrawn.faces_eq]
    rfl

lemma faces_of_resolveFall {board : Option Board} {hits : List ComponentKind} {damage : Int}
    {game : String} {answer : Except Refusal (Option FallReport)}
    (h : (u.resolveFall rules board hits damage game).Draws n answer) :
    n = u.fallFaces rules board hits damage answer := by
  cases hcause : fallCause? rules hits damage with
  | none =>
      rw [resolveFall, hcause] at h
      obtain ⟨rfl, rfl⟩ := draws_pure.mp h
      rfl
  | some cause =>
      rcases answer with refusal | _ | r
      · rw [fallFaces, hcause]
        exact faces_of_refused (fallCause?_eq_some_iff.mp hcause) h
      · -- With a cause there is no report only where a gyro is wanting.
        rw [resolveFall, hcause] at h
        dsimp only at h
        split at h
        · exact (draws_pure.mp h).1
        · obtain ⟨k, j, found, -, hdone, -⟩ := draws_bind.mp h
          cases found <;> cases (draws_pure.mp hdone).2
      · exact faces_of_reports (reports_of_resolveFall h)

end BattleUnit

/-! ### Faces of critical hits -/

/-- The faces that choose a slot of a part. -/
def BodyPart.slotFaces (p : BodyPart) : Nat := if 6 < p.slotCount then 2 else 1

/-- The faces of critical hits: two for each location rolled for, and those that choose the
slots struck there. -/
def BattleUnit.criticalFaces (u : BattleUnit) (reports : List CriticalReport) : Nat :=
  (reports.map fun r =>
    2 + r.hits.length * (u.part? r.location).elim 0 BodyPart.slotFaces).sum

lemma faces_of_rollSlot {p : BodyPart} {slot : Nat} (h : p.rollSlot.Draws n slot) :
    n = p.slotFaces := by
  rw [BodyPart.slotFaces]
  rw [BodyPart.rollSlot] at h
  split at h
  · next hlarge =>
      obtain ⟨k, j, half, hhalf, hslot, rfl⟩ := draws_bind.mp h
      obtain ⟨i, o, face, hface, hdone, rfl⟩ := draws_bind.mp hslot
      rw [eq_one_of_draws_d6 hhalf, eq_one_of_draws_d6 hface, (draws_pure.mp hdone).1,
        if_pos hlarge]
  · next hsmall =>
      obtain ⟨k, j, face, hface, hdone, rfl⟩ := draws_bind.mp h
      rw [eq_one_of_draws_d6 hface, (draws_pure.mp hdone).1, if_neg hsmall]

namespace BattleUnit

lemma faces_of_rollCritical {l : Location} {p : BodyPart} {c : CriticalRoll}
    (h : (rollCritical rules l p).Draws n c) : n = 2 + c.slots.length * c.part.slotFaces := by
  obtain ⟨k, j, throw, hthrow, hrest, rfl⟩ := draws_bind.mp h
  obtain ⟨i, o, slots, hslots, hdone, rfl⟩ := draws_bind.mp hrest
  obtain ⟨rfl, rfl⟩ := draws_pure.mp hdone
  obtain ⟨hi, -⟩ := draws_mapM (R := fun _ _ => True)
    (fun _ _ _ hslot => ⟨faces_of_rollSlot hslot, trivial⟩) hslots
  rw [List.map_const', List.sum_replicate, smul_eq_mul] at hi
  rw [eq_two_of_draws_twoDice hthrow, hi, Nat.add_zero]

/-- The strikes of a call fall on the slots that were rolled. -/
lemma criticalFaces_strikeAll {rolls : List CriticalRoll}
    (hpart : ∀ c ∈ rolls, u.part? c.location = some c.part) (blast : Blast) :
    u.criticalFaces (u.strikeAll blast rolls) =
      (rolls.map fun c => 2 + c.slots.length * c.part.slotFaces).sum := by
  induction rolls generalizing blast with
  | nil => rfl
  | cons c rest ih =>
      obtain ⟨hfirst, hrest⟩ := List.forall_mem_cons.mp hpart
      have hlength : (u.strikeSlots c.part blast c.slots).1.length = c.slots.length := by
        rw [← List.length_map (·.slot), slots_strikeSlots]
      calc u.criticalFaces (u.strikeAll blast (c :: rest))
          = 2 + (u.strikeSlots c.part blast c.slots).1.length *
                (u.part? c.location).elim 0 BodyPart.slotFaces +
              u.criticalFaces (u.strikeAll (u.strikeSlots c.part blast c.slots).2.2 rest) := by
            rw [strikeAll_cons, criticalFaces, List.map_cons, List.sum_cons, ← criticalFaces]
        _ = 2 + c.slots.length * c.part.slotFaces +
              (rest.map fun c => 2 + c.slots.length * c.part.slotFaces).sum := by
            rw [hlength, hfirst, ih hrest, Option.elim_some]
        _ = ((c :: rest).map fun c => 2 + c.slots.length * c.part.slotFaces).sum := by
            rw [List.map_cons, List.sum_cons]

lemma faces_of_criticals {losses : Location.Map Int} {reports : List CriticalReport}
    (h : (u.criticals rules losses).Draws n reports) : n = u.criticalFaces reports := by
  obtain ⟨k, j, rolls, hrolls, hdone, rfl⟩ := draws_bind.mp h
  obtain ⟨rfl, rfl⟩ := draws_pure.mp hdone
  obtain ⟨hk, -⟩ := draws_mapM (R := fun _ _ => True)
    (fun _ _ _ hroll => ⟨faces_of_rollCritical hroll, trivial⟩) hrolls
  rw [criticalFaces_strikeAll (drawn_of_rollCriticals (yields_of_draws hrolls)).part, hk,
    Nat.add_zero]

/-! ### Faces of heat and of wounds -/

lemma faces_of_checkShutdown {turn : Nat} {answer : Option ShutdownCheck}
    (h : (u.checkShutdown rules turn).Draws n answer) :
    n = answer.elim 0 fun c => throwFaces c.roll := by
  rw [checkShutdown] at h
  dsimp only at h
  split at h
  · obtain ⟨rfl, rfl⟩ := draws_pure.mp h
    rfl
  · obtain ⟨rfl, rfl⟩ := draws_pure.mp h
    rfl
  · split at h
    · obtain ⟨k, j, throw, hthrow, hdone, rfl⟩ := draws_bind.mp h
      obtain ⟨rfl, rfl⟩ := draws_pure.mp hdone
      exact eq_two_of_draws_twoDice hthrow
    · obtain ⟨rfl, rfl⟩ := draws_pure.mp h
      rfl

lemma faces_of_checkCookOff {turn : Nat} {answer : Option CookOffCheck}
    (h : (u.checkCookOff rules turn).Draws n answer) : n = answer.elim 0 fun _ => 2 := by
  rw [checkCookOff] at h
  split at h
  · obtain ⟨k, j, throw, hthrow, hdone, rfl⟩ := draws_bind.mp h
    obtain ⟨rfl, rfl⟩ := draws_pure.mp hdone
    exact eq_two_of_draws_twoDice hthrow
  · obtain ⟨rfl, rfl⟩ := draws_pure.mp h
    rfl

end BattleUnit

namespace Pilot

variable {p : Pilot}

lemma faces_of_rollAgainst {target : Int} {recovery : Bool} {check : ConsciousnessRoll}
    (h : (rollAgainst target recovery).Draws n check) : n = 2 := by
  obtain ⟨k, j, throw, hthrow, hdone, rfl⟩ := draws_bind.mp h
  rw [eq_two_of_draws_twoDice hthrow, (draws_pure.mp hdone).1]

lemma faces_of_rollQueue {targets : List Int} {checks : List ConsciousnessRoll}
    (h : (rollQueue targets).Draws n checks) : n = 2 * checks.length := by
  induction targets generalizing n checks with
  | nil =>
      obtain ⟨rfl, rfl⟩ := draws_pure.mp h
      rfl
  | cons target rest ih =>
      obtain ⟨k, j, check, hcheck, hrest, rfl⟩ := draws_bind.mp h
      rw [faces_of_rollAgainst hcheck]
      split at hrest
      · obtain ⟨i, o, later, hlater, hdone, rfl⟩ := draws_bind.mp hrest
        obtain ⟨rfl, rfl⟩ := draws_pure.mp hdone
        rw [ih hlater, List.length_cons]
        omega
      · obtain ⟨rfl, rfl⟩ := draws_pure.mp hrest
        rfl

lemma faces_of_wakeRolls {checks : List ConsciousnessRoll} (h : p.wakeRolls.Draws n checks) :
    n = 2 * checks.length := by
  rw [wakeRolls] at h
  split at h
  · exact faces_of_rollQueue h
  · obtain ⟨rfl, rfl⟩ := draws_pure.mp h
    rfl

lemma faces_of_recoveryRoll {answer : Option ConsciousnessRoll}
    (h : (p.recoveryRoll rules).Draws n answer) : n = answer.elim 0 fun _ => 2 := by
  rw [recoveryRoll] at h
  split at h
  · obtain ⟨rfl, rfl⟩ := draws_pure.mp h
    rfl
  · split at h
    · obtain ⟨k, j, check, hcheck, hdone, rfl⟩ := draws_bind.mp h
      obtain ⟨rfl, rfl⟩ := draws_pure.mp hdone
      exact faces_of_rollAgainst hcheck
    · obtain ⟨rfl, rfl⟩ := draws_pure.mp h
      rfl

end Pilot

/-- **Seeded dice are replayed by a script.** Critical hits, a landing, deciding on a fall,
what heat does to the reactor and to ammunition, and what wounds do to the pilot: whatever
the unit and the seed, the faces that are drawn are counted by what is recorded, a script of
them leads to the same record and leaves what follows, and a script of fewer runs out. -/
theorem replays_of_seed (rules : Rules) (u : BattleUnit) (p : Pilot) (losses : Location.Map Int)
    (board : Option Board) (hits : List ComponentKind) (damage : Int) (game : String)
    (levels : Nat) (jumping : Bool) (check : PilotingCheck) (turn : Nat) (seed : UInt64) :
    (u.criticals rules losses).Replays seed u.criticalFaces ∧
    (u.land rules levels jumping check).Replays seed
      (fun answer => answer.toOption.elim 0 Landing.faces) ∧
    (u.resolveFall rules board hits damage game).Replays seed
      (u.fallFaces rules board hits damage) ∧
    (u.checkShutdown rules turn).Replays seed (·.elim 0 fun c => throwFaces c.roll) ∧
    (u.checkCookOff rules turn).Replays seed (·.elim 0 fun _ => 2) ∧
    p.wakeRolls.Replays seed (2 * ·.length) ∧
    (p.recoveryRoll rules).Replays seed (·.elim 0 fun _ => 2) := by
  refine ⟨?criticals, ?landing, ?fall, ?shutdown, ?cookOff, ?wake, ?recovery⟩
  case criticals => exact replays_of_draws (fun _ _ => BattleUnit.faces_of_criticals) seed
  case landing => exact replays_of_draws (fun _ _ => BattleUnit.faces_of_land) seed
  case fall => exact replays_of_draws (fun _ _ => BattleUnit.faces_of_resolveFall) seed
  case shutdown => exact replays_of_draws (fun _ _ => BattleUnit.faces_of_checkShutdown) seed
  case cookOff => exact replays_of_draws (fun _ _ => BattleUnit.faces_of_checkCookOff) seed
  case wake => exact replays_of_draws (fun _ _ => Pilot.faces_of_wakeRolls) seed
  case recovery => exact replays_of_draws (fun _ _ => Pilot.faces_of_recoveryRoll) seed

end MechBattle
