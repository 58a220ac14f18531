/-
What a report on a fall records.

A piloting roll decides whether a unit falls. If it stands, nothing more is
rolled or recorded. If it falls, one die turns it, two dice place each cluster of
damage, and two more decide on the pilot.

* `sum_clusterSizes`: damage is cut into clusters without loss;
* `FallReport.Stood`, `BattleUnit.Fell`: the two reports there are, and
  `reports_of_resolveFall`: how a report comes about;
* `stood_or_fell`: each report is one of the two, with the faces it took, and the
  damage of a fall is taken in full as long as the center torso stands;
* `CheckOutcome.Obeys`: the roll and its outcome fit each other, and
  `outcomes_of_resolveFall`: the roll to keep standing obeys this, the roll to
  avoid injury only where it hits its target exactly.
-/
import MechBattle.BattleUnit.Assembly
import MechBattle.Dice.Script
import MechBattle.Fall.Report
import MechBattle.Proofs.Balance
import MechBattle.Proofs.Course
import MechBattle.Proofs.Faces

namespace MechBattle

open Rolls

/-! ### Clusters of damage -/

/-- Damage is cut into clusters without loss. -/
lemma sum_clusterSizes (damage : Int) {size : Int} (hsize : 0 < size) :
    ((clusterSizes damage size).map (max 0 ·)).sum = max 0 damage := by
  induction damage using remaining_rec hsize with
  | spent damage h =>
      rw [clusterSizes_of_nonpos h hsize, max_eq_left h]
      rfl
  | more damage h ih =>
      rw [clusterSizes_of_pos h hsize, List.map_cons, List.sum_cons, ih]
      omega

/-- One throw for one cluster. -/
lemma draws_rollCluster {rules : Rules} {side : Side} {damage : Int} {n : Nat}
    {cluster : DamageCluster} (h : (rollCluster rules side damage).Draws n cluster) :
    n = 2 ∧ damage = cluster.damage := by
  obtain ⟨k, j, throw, hthrow, hdone, rfl⟩ := draws_bind.mp h
  obtain ⟨rfl, rfl⟩ := draws_pure.mp hdone
  exact ⟨eq_two_of_draws_twoDice hthrow, rfl⟩

lemma draws_rollClusters {rules : Rules} {side : Side} {damage size : Int} {n : Nat}
    {clusters : List DamageCluster} (h : (rollClusters rules side damage size).Draws n clusters) :
    n = 2 * clusters.length ∧ clusters.map (·.damage) = clusterSizes damage size := by
  rw [rollClusters_eq_mapM] at h
  obtain ⟨hn, hsizes⟩ := draws_mapM (fun _ _ _ => draws_rollCluster) h
  rw [List.map_const', List.sum_replicate, smul_eq_mul, Nat.mul_comm] at hn
  rw [← List.forall₂_map_right_iff, List.forall₂_eq_eq_eq] at hsizes
  exact ⟨hn, hsizes.symm⟩

/-! ### Rolls against a target number -/

/-- A rule that rolls two dice unless its target number is out of reach. -/
lemma draws_unless {α : Type} {impossible : Bool} {missed a : α} {show' : TwoDice → α} {n : Nat}
    (h : (if impossible then return missed else do return show' (← twoDice) : Rolls α).Draws n a) :
    (impossible = true ∧ n = 0 ∧ a = missed) ∨
      (impossible = false ∧ n = 2 ∧ ∃ throw, a = show' throw) := by
  cases impossible with
  | true =>
      obtain ⟨rfl, rfl⟩ := draws_pure.mp h
      exact .inl ⟨rfl, rfl, rfl⟩
  | false =>
      obtain ⟨k, j, throw, hthrow, hdone, rfl⟩ := draws_bind.mp h
      obtain ⟨rfl, rfl⟩ := draws_pure.mp hdone
      exact .inr ⟨rfl, eq_two_of_draws_twoDice hthrow, throw, rfl⟩

/-- What the roll to keep standing can come to. -/
lemma draws_check {check : PilotingCheck} {n : Nat} {outcome : CheckOutcome}
    (h : check.roll.Draws n outcome) :
    (check.impossible = true ∧ n = 0 ∧ outcome = ⟨check.target, none, false⟩) ∨
      (check.impossible = false ∧ n = 2 ∧
        ∃ throw : TwoDice, outcome = ⟨check.target, some throw, throw.meets check.target⟩) :=
  draws_unless h

/-- What the roll to avoid injury can come to. -/
lemma draws_rollInjury {check : PilotingCheck} {n : Nat} {injury : Option TwoDice × Bool}
    (h : (rollInjury check).Draws n injury) :
    (check.impossible = true ∧ n = 0 ∧ injury = (none, true)) ∨
      (check.impossible = false ∧ n = 2 ∧
        ∃ throw : TwoDice, injury = (some throw, decide (check.target < throw.total))) :=
  draws_unless h

/-! ### Landings -/

/-- What is known of a landing and of the faces it took. -/
structure Landing.Drawn (rules : Rules) (u : BattleUnit) (levels : Nat) (jumping : Bool)
    (check : PilotingCheck) (n : Nat) (landing : Landing) : Prop where
  damage : landing.damage = fallDamage rules u.tonnage levels jumping
  clusters : landing.clusters.map (·.damage) =
    clusterSizes landing.damage (max 1 rules.fallClusterSize)
  injury : ∃ k, (rollInjury check).Draws k (landing.injuryRoll, landing.injured) ∧
    n = 1 + 2 * landing.clusters.length + k

lemma drawn_of_rollLanding {rules : Rules} {u : BattleUnit} {levels : Nat} {jumping : Bool}
    {check : PilotingCheck} {n : Nat} {landing : Landing}
    (h : (rollLanding rules u levels jumping check).Draws n landing) :
    landing.Drawn rules u levels jumping check n := by
  rw [rollLanding] at h
  obtain ⟨k₁, n₁, die, hdie, h₁, rfl⟩ := draws_bind.mp h
  obtain ⟨k₂, n₂, clusters, hclusters, h₂, rfl⟩ := draws_bind.mp h₁
  obtain ⟨k₃, n₃, ⟨injuryRoll, injured⟩, hinjury, hdone, rfl⟩ := draws_bind.mp h₂
  obtain ⟨rfl, rfl⟩ := draws_pure.mp hdone
  obtain ⟨rfl, hsizes⟩ := draws_rollClusters hclusters
  obtain rfl := eq_one_of_draws_d6 hdie
  exact ⟨rfl, hsizes, k₃, hinjury, by simp only; omega⟩

/-! ### Reports -/

/-- What is recorded of a unit that kept standing. -/
structure FallReport.Stood (r : FallReport) : Prop where
  success : r.outcome.success = true
  stages : r.stages = [.idle, .causeCheck, .pilotingRoll, .done]
  landing : r.landing = none
  taken : r.taken = []
  injuryCheck : r.injuryCheck = none
  injuryOutcome : r.injuryOutcome = none

/-- What is recorded of a unit that fell: every cluster is resolved after those
before it, from the side that the unit landed on. -/
structure BattleUnit.Fell (u : BattleUnit) (r : FallReport) (check : PilotingCheck)
    (landing : Landing) : Prop where
  failure : r.outcome.success = false
  stages : r.stages = [.idle, .causeCheck, .pilotingRoll, .falling, .injuryRoll, .done]
  taken : r.taken = u.absorbAll []
    (landing.clusters.map fun c => ⟨c.location, c.damage, .hit landing.side⟩)
  injuryCheck : r.injuryCheck = some check
  injuryOutcome : r.injuryOutcome = some ⟨check.target, landing.injuryRoll, !landing.injured⟩
  landing : r.landing = some landing

namespace BattleUnit

variable {rules : Rules} {u : BattleUnit} {board : Option Board} {n : Nat} {r : FallReport}

/-- How a report on a fall comes about: what the roll to keep standing came to, and
the landing that followed if it failed. -/
def Reports (rules : Rules) (u : BattleUnit) (n : Nat) (r : FallReport) : Prop :=
  ∃ k, r.check.roll.Draws k r.outcome ∧
    ((r.Stood ∧ n = k) ∨
      ∃ check landing j, u.Fell r check landing ∧
        landing.Drawn rules u 0 (u.movement.mode == .jumped) check j ∧ n = k + j)

lemma fell_of_draws {standing : FallReport} (failure : standing.outcome.success = false)
    (h : (fallDown rules u board standing).Draws n (.ok r)) :
    r.check = standing.check ∧ r.outcome = standing.outcome ∧
      ∃ check landing, u.Fell r check landing ∧
        landing.Drawn rules u 0 (u.movement.mode == .jumped) check n := by
  rw [fallDown] at h
  split at h
  · cases (draws_pure.mp h).2
  · next check _ =>
      obtain ⟨k, j, result, hland, hrest, rfl⟩ := draws_bind.mp h
      split at hrest
      · cases (draws_pure.mp hrest).2
      · next landing =>
          obtain ⟨rfl, heq⟩ := draws_pure.mp hrest
          obtain rfl := Except.ok.inj heq
          refine ⟨rfl, rfl, check, landing, ⟨failure, rfl, rfl, rfl, rfl, rfl⟩, ?_⟩
          -- Only a mech on the board lands, and only then are dice thrown.
          rw [land] at hland
          split at hland
          · cases (draws_pure.mp hland).2
          · obtain ⟨i, o, found, hfound, hdone, rfl⟩ := draws_bind.mp hland
            obtain ⟨rfl, heq⟩ := draws_pure.mp hdone
            obtain rfl := Except.ok.inj heq
            exact drawn_of_rollLanding hfound

lemma reports_of_resolveCause {cause : FallCause} {damage : Int} {game : String}
    (h : (resolveCause rules u board cause damage game).Draws n (.ok r)) : u.Reports rules n r := by
  rw [resolveCause] at h
  dsimp only at h
  split at h
  · cases (draws_pure.mp h).2
  · next check _ =>
      obtain ⟨k, j, outcome, hroll, hrest, rfl⟩ := draws_bind.mp h
      split at hrest
      · next success =>
          obtain ⟨rfl, heq⟩ := draws_pure.mp hrest
          obtain rfl := Except.ok.inj heq
          exact ⟨k, hroll, .inl ⟨⟨success, rfl, rfl, rfl, rfl, rfl⟩, rfl⟩⟩
      · next failure =>
          obtain ⟨hcheck, houtcome, check', landing, hfell, hdrawn⟩ :=
            fell_of_draws (Bool.eq_false_iff.mpr failure) hrest
          exact ⟨k, by rwa [hcheck, houtcome], .inr ⟨check', landing, j, hfell, hdrawn, rfl⟩⟩

lemma reports_of_resolveFall {struck : List ComponentKind} {damage : Int} {game : String}
    (h : (u.resolveFall rules board struck damage game).Draws n (.ok (some r))) :
    u.Reports rules n r := by
  rw [resolveFall] at h
  split at h
  · cases (draws_pure.mp h).2
  · split at h
    · cases (draws_pure.mp h).2
    · obtain ⟨k, j, result, hresult, hdone, rfl⟩ := draws_bind.mp h
      obtain ⟨rfl, heq⟩ := draws_pure.mp hdone
      cases result with
      | error refusal => cases heq
      | ok found =>
          obtain rfl := Option.some.inj (Except.ok.inj heq)
          exact reports_of_resolveCause hresult

/-! ### Damage of a fall -/

/-- Apart from the damage a fall leaves the body alone. -/
lemma part?_takeFall {landing : Landing} (hlanding : r.landing = some landing) (l : Location) :
    (u.takeFall rules r).part? l = (u.takeDamage r.taken).part? l := by
  have hdown : ∀ v : BattleUnit, v.parts = u.parts →
      (v.takeDamage r.taken).part? l = (u.takeDamage r.taken).part? l := by
    intro v hv
    rw [part?_takeDamage, part?_takeDamage, part?, part?, hv]
  rw [takeFall, hlanding]
  dsimp only
  split
  · exact hdown _ rfl
  · exact hdown _ rfl

lemma mem_fallDamage (rules : Rules) (tonnage levels : Nat) (jumping : Bool) :
    Counter.Mem (fallDamage rules tonnage levels jumping) := by
  rw [fallDamage]
  split
  · exact Counter.mem_clamp _
  · exact Counter.mem_clamp _

/-- On a unit that lacks no location, the damage of a fall is taken in full as
long as the center torso stands. -/
lemma sum_total_of_fell {check : PilotingCheck} {landing : Landing} (hu : u.Sound)
    (full : ∀ l, (u.part? l).isSome) (hfell : u.Fell r check landing)
    (hdrawn : landing.Drawn rules u 0 (u.movement.mode == .jumped) check n)
    (standing : ∀ p, (u.takeFall rules r).part? .centerTorso = some p → 0 < p.internal) :
    (r.taken.map Absorption.total).sum = max landing.damage 0 := by
  rw [part?_takeFall hfell.landing, hfell.taken] at standing
  have hside : ∀ h ∈ landing.clusters.map
      fun c => (⟨c.location, c.damage, .hit landing.side⟩ : Hit),
      h.impact.armorSide = (Impact.hit landing.side).armorSide := by
    intro h hh
    obtain ⟨c, -, rfl⟩ := List.mem_map.mp hh
    rfl
  have hsize : 0 < max 1 rules.fallClusterSize := lt_of_lt_of_le one_pos (le_max_left _ _)
  have hgross : grossTaken r.taken = max 0 landing.damage := by
    calc grossTaken r.taken
        = ((landing.clusters.map
            fun c => (⟨c.location, c.damage, .hit landing.side⟩ : Hit)).map
              fun h => max 0 h.damage).sum := by
          rw [hfell.taken]
          exact grossTaken_absorbAll hu full _ hside standing
      _ = ((landing.clusters.map (·.damage)).map (max 0 ·)).sum := by
          rw [List.map_map, List.map_map]
          rfl
      _ = max 0 landing.damage := by
          rw [hdrawn.clusters]
          exact sum_clusterSizes landing.damage hsize
  have hledger : Ledger u r.taken := by
    rw [hfell.taken]
    exact ledger_absorbAll hu.home hu.counted _ .nil
  have hsmall := (mem_fallDamage rules u.tonnage 0 (u.movement.mode == .jumped)).2
  rw [← hdrawn.damage] at hsmall
  have hpos : (0 : Int) ≤ Counter.greatest := by decide
  have hpaid : ∀ a ∈ r.taken, 0 ≤ a.armor + a.internal := fun a ha =>
    Int.add_nonneg (hledger.nonneg a ha).1 (hledger.nonneg a ha).2
  rw [sum_total hpaid (by omega), hgross, max_comm]

end BattleUnit

/-! ### A fall on a weak arm -/

/-- A mech with one weak arm. -/
def weakArm : BattleUnit :=
  ((((BattleUnit.mech {} 3 "Target" 65).withPart (.intact .leftArm 1 0 2)).withInternals).withPilot
    { name := "Pilot", gunnery := 4, piloting := 4 }).deployedAt ⟨0, 0⟩ .north

/-- The mech falls after a hit on its gyro. The arm gives way under the first
cluster, and the pilot throws low. -/
def weakArmReport : FallReport where
  game := "Skirmish"
  unit := 3
  stages := [.idle, .causeCheck, .pilotingRoll, .falling, .injuryRoll, .done]
  cause := .gyroHit
  check := ⟨[.gyroHit], 4, [⟨.gyroHit, "Gyro hit", 3⟩], 7, false⟩
  outcome := ⟨7, some ⟨3, 3⟩, false⟩
  landing := some
    { damage := 7, facingRoll := 1, facing := .north, side := .front,
      clusters := [⟨5, ⟨6, 5⟩, .leftArm⟩, ⟨2, ⟨4, 4⟩, .leftTorso⟩],
      injuryRoll := some ⟨1, 1⟩, injured := false }
  taken := [⟨.leftArm, 1, 2, false, true⟩, ⟨.leftTorso, 2, 0, false, false⟩,
    ⟨.leftTorso, 2, 0, false, false⟩]
  injuryCheck := some ⟨[.fallInjury 0], 4, [], 4, false⟩
  injuryOutcome := some ⟨4, some ⟨1, 1⟩, true⟩

lemma run_weakArm :
    (weakArm.resolveFall {} none [.gyro] 0 "Skirmish").run
        (⟨[2, 2, 0, 5, 4, 3, 3, 0, 0], 0⟩ : Script) =
      (some (.ok (some weakArmReport)), ⟨[], 9⟩) := by decide +kernel

/-- **What a report on a fall records.** Either the unit kept standing, with two
faces and nothing recorded of a fall; or it fell, with its clusters resolved one
after the other from the side it landed on, and with two faces for the roll to
keep standing, one for the landing, two for each cluster and two for the pilot,
except where a target number was out of reach. A unit that lacks no location and
whose center torso still stands has taken all the damage of the fall. -/
theorem stood_or_fell {σ : Type} [DiceSource σ] (rules : Rules) (u : BattleUnit)
    (board : Option Board) (struck : List ComponentKind) (damage : Int) (game : String)
    (dice rest : σ) (r : FallReport)
    (h : (u.resolveFall rules board struck damage game).run dice = (some (.ok (some r)), rest)) :
    (r.Stood ∧ ((u.resolveFall rules board struck damage game).trace dice).length = 2) ∨
      ∃ check landing, u.Fell r check landing ∧
        ((u.resolveFall rules board struck damage game).trace dice).length =
          (if r.check.impossible then 0 else 2) + 1 + 2 * landing.clusters.length +
            (if check.impossible then 0 else 2) ∧
        ((∀ l, (u.part? l).isSome) → u.HomeParts → (u.EachPart fun _ p => p.Nonneg) →
          u.Counted → Counter.Mem u.phaseDamage →
          (∀ p, (u.takeFall rules r).part? .centerTorso = some p → 0 < p.internal) →
            (r.taken.map Absorption.total).sum = max landing.damage 0) := by
  obtain ⟨k, hroll, ⟨hstood, hn⟩ | ⟨check, landing, j, hfell, hdrawn, hn⟩⟩ :=
    BattleUnit.reports_of_resolveFall (draws_of_run h)
  · refine .inl ⟨hstood, ?_⟩
    obtain ⟨-, -, houtcome⟩ | ⟨-, hk, -⟩ := draws_check hroll
    · have hsuccess := hstood.success
      rw [houtcome] at hsuccess
      cases hsuccess
    · rw [hn, hk]
  · refine .inr ⟨check, landing, hfell, ?_, ?_⟩
    · obtain ⟨i, hinjury, hj⟩ := hdrawn.injury
      have hk : k = if r.check.impossible then 0 else 2 := by
        obtain ⟨himp, hk, -⟩ | ⟨himp, hk, -⟩ := draws_check hroll <;> rw [himp, hk] <;> rfl
      have hi : i = if check.impossible then 0 else 2 := by
        obtain ⟨himp, hi, -⟩ | ⟨himp, hi, -⟩ := draws_rollInjury hinjury <;> rw [himp, hi] <;> rfl
      rw [hn, hj, ← hk, ← hi]
      omega
    · intro full home nonneg counted phase standing
      exact BattleUnit.sum_total_of_fell ⟨home, nonneg, counted, phase⟩ full hfell hdrawn standing

/-- The fall on a weak arm takes nine faces, and all its damage is taken. -/
theorem stood_or_fell_weakArm :
    (weakArm.resolveFall {} none [.gyro] 0 "Skirmish").run
        (⟨[2, 2, 0, 5, 4, 3, 3, 0, 0], 0⟩ : Script) =
      (some (.ok (some weakArmReport)), ⟨[], 9⟩) ∧
    ∃ check landing, weakArm.Fell weakArmReport check landing ∧
      ((weakArm.resolveFall {} none [.gyro] 0 "Skirmish").trace
        (⟨[2, 2, 0, 5, 4, 3, 3, 0, 0], 0⟩ : Script)).length = 2 + 1 + 2 * 2 + 2 ∧
      (weakArmReport.taken.map Absorption.total).sum = 7 := by
  refine ⟨run_weakArm, ?_⟩
  obtain ⟨hstood, -⟩ | ⟨check, landing, hfell, hfaces, htaken⟩ :=
    stood_or_fell {} weakArm none [.gyro] 0 "Skirmish" _ _ weakArmReport run_weakArm
  · cases hstood.success
  · obtain rfl := Option.some.inj hfell.landing
    obtain rfl := Option.some.inj hfell.injuryCheck
    have standing : ∀ p, (weakArm.takeFall {} weakArmReport).part? .centerTorso = some p →
        0 < p.internal := by decide +kernel
    exact ⟨_, _, hfell, hfaces, htaken (by decide) (by decide) (by decide) (by decide) (by decide)
      standing⟩

/-! ### Outcomes -/

/-- Whether an outcome fits its roll: it shows the target number, it lacks a throw
just where that number was out of reach, and it is a success just when a throw
reaches that number. -/
def CheckOutcome.Obeys (o : CheckOutcome) (c : PilotingCheck) : Prop :=
  o.target = c.target ∧ (o.roll = none ↔ c.impossible = true) ∧
    (o.success = true ↔ ∃ throw, o.roll = some throw ∧ c.target ≤ throw.total)

lemma obeys_of_draws {check : PilotingCheck} {n : Nat} {outcome : CheckOutcome}
    (h : check.roll.Draws n outcome) : outcome.Obeys check := by
  obtain ⟨himp, -, rfl⟩ | ⟨himp, -, throw, rfl⟩ := draws_check h
  · simp [CheckOutcome.Obeys, himp]
  · simp [CheckOutcome.Obeys, himp, TwoDice.meets]

/-- How the roll to avoid injury is recorded. -/
lemma injury_of_draws {check : PilotingCheck} {n : Nat} {roll : Option TwoDice} {injured : Bool}
    (h : (rollInjury check).Draws n (roll, injured)) :
    (roll = none ↔ check.impossible = true) ∧
      ((!injured) = true ↔ ∃ throw, roll = some throw ∧ throw.total ≤ check.target) := by
  obtain ⟨himp, -, heq⟩ | ⟨himp, -, throw, heq⟩ := draws_rollInjury h
  · obtain ⟨rfl, rfl⟩ := Prod.mk.inj heq
    simp [himp]
  · obtain ⟨rfl, rfl⟩ := Prod.mk.inj heq
    simp [himp]

/-- A success up to the target number is a success from it on only where the throw
hits it. -/
lemma obeys_iff_of_success_le {check : PilotingCheck} {outcome : CheckOutcome}
    (target : outcome.target = check.target)
    (roll : outcome.roll = none ↔ check.impossible = true)
    (success : outcome.success = true ↔
      ∃ throw, outcome.roll = some throw ∧ throw.total ≤ check.target) :
    outcome.Obeys check ↔ ∀ throw, outcome.roll = some throw → throw.total = check.target := by
  rw [CheckOutcome.Obeys, success]
  constructor
  · rintro ⟨-, -, hiff⟩ throw hthrow
    simp only [hthrow, Option.some.injEq, exists_eq_left'] at hiff
    omega
  · intro hexact
    refine ⟨target, roll, exists_congr fun throw => and_congr_right fun hthrow => ?_⟩
    rw [hexact throw hthrow]

/-- **Success means two things.** The roll to keep standing is recorded as a
success from its target number on, the roll to avoid injury up to its target
number, so that the two agree just where the injury roll hits its target number or
is not made. -/
theorem outcomes_of_resolveFall {σ : Type} [DiceSource σ] (rules : Rules) (u : BattleUnit)
    (board : Option Board) (struck : List ComponentKind) (damage : Int) (game : String)
    (dice rest : σ) (r : FallReport)
    (h : (u.resolveFall rules board struck damage game).run dice = (some (.ok (some r)), rest)) :
    r.outcome.Obeys r.check ∧
      ∀ check outcome, r.injuryCheck = some check → r.injuryOutcome = some outcome →
        outcome.target = check.target ∧ (outcome.roll = none ↔ check.impossible = true) ∧
        (outcome.success = true ↔
          ∃ throw, outcome.roll = some throw ∧ throw.total ≤ check.target) ∧
        (outcome.Obeys check ↔
          ∀ throw, outcome.roll = some throw → throw.total = check.target) := by
  obtain ⟨k, hroll, ⟨hstood, -⟩ | ⟨check, landing, j, hfell, hdrawn, -⟩⟩ :=
    BattleUnit.reports_of_resolveFall (draws_of_run h)
  · refine ⟨obeys_of_draws hroll, fun check outcome hcheck _ => ?_⟩
    rw [hstood.injuryCheck] at hcheck
    cases hcheck
  · refine ⟨obeys_of_draws hroll, fun check' outcome hcheck houtcome => ?_⟩
    obtain rfl := Option.some.inj (hfell.injuryCheck.symm.trans hcheck)
    obtain rfl := Option.some.inj (hfell.injuryOutcome.symm.trans houtcome)
    obtain ⟨i, hinjury, -⟩ := hdrawn.injury
    obtain ⟨hroll', hsuccess⟩ := injury_of_draws hinjury
    exact ⟨rfl, hroll', hsuccess, obeys_iff_of_success_le rfl hroll' hsuccess⟩


/-- In the fall on a weak arm the pilot throws two against a target number of four,
which is recorded as a success. -/
theorem outcomes_of_resolveFall_weakArm :
    (weakArm.resolveFall {} none [.gyro] 0 "Skirmish").run
        (⟨[2, 2, 0, 5, 4, 3, 3, 0, 0], 0⟩ : Script) =
      (some (.ok (some weakArmReport)), ⟨[], 9⟩) ∧
    weakArmReport.outcome.Obeys weakArmReport.check ∧
    ∀ check outcome, weakArmReport.injuryCheck = some check →
      weakArmReport.injuryOutcome = some outcome →
        (outcome.success = true ↔
          ∃ throw, outcome.roll = some throw ∧ throw.total ≤ check.target) := by
  obtain ⟨hobeys, hinjury⟩ :=
    outcomes_of_resolveFall {} weakArm none [.gyro] 0 "Skirmish" _ _ _ run_weakArm
  refine ⟨run_weakArm, hobeys, fun check outcome hcheck houtcome => ?_⟩
  obtain ⟨-, -, hsuccess, -⟩ := hinjury check outcome hcheck houtcome
  exact hsuccess

/-- There the outcome of the injury roll does not obey its roll. -/
theorem injuryOutcome_not_obeys :
    (weakArm.resolveFall {} none [.gyro] 0 "Skirmish").run
        (⟨[2, 2, 0, 5, 4, 3, 3, 0, 0], 0⟩ : Script) =
      (some (.ok (some weakArmReport)), ⟨[], 9⟩) ∧
    ¬ ∀ check outcome, weakArmReport.injuryCheck = some check →
      weakArmReport.injuryOutcome = some outcome → outcome.Obeys check := by
  refine ⟨run_weakArm, fun hall => ?_⟩
  obtain ⟨-, -, hsuccess⟩ := hall _ _ rfl rfl
  obtain ⟨throw, hthrow, hle⟩ := hsuccess.mp rfl
  obtain rfl := Option.some.inj hthrow
  revert hle
  decide

end MechBattle
