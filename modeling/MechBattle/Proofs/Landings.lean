/-
What a fall does, from its damage to the last of its dice.

The damage of a fall is stopped at the ceiling after each step of its arithmetic, and comes out
as if it were stopped once. It is dealt out in clusters: as long as some remains, one more is
thrown for, of the full size or of all that remains.

* `Counter.mul_min_min`, `mem_of_ceilDiv?`: products that stop at the ceiling, and quotients that
  never leave the counters;
* `fallDamage_eq_min`: the damage of a fall;
* `Clustered` and `clustered_clusterSizes`: clusters that are full except for the last;
* `Landing.Shows`: what is recorded of the faces of a landing, and `reads_rollLanding`;
* `land_of_offers`: the landing of a mech on any dice that suffice.
-/
import MechBattle.Fault
import MechBattle.Proofs.Falls
import MechBattle.Proofs.Replay
import MechBattle.Proofs.Tables

namespace MechBattle

open Rolls

/-! ### The damage of a fall -/

namespace Counter

variable {a b n d c : Int}

lemma clamp_of_nonneg (h : 0 ≤ n) : clamp n = min greatest n := by
  unfold clamp least greatest
  omega

/-- Numbers of which none is negative may be stopped at the ceiling before they are multiplied. -/
lemma mul_min_min (ha : 0 ≤ a) (hb : 0 ≤ b) :
    mul (min greatest a) (min greatest b) = min greatest (a * b) := by
  have hceiling : 0 ≤ greatest := by decide
  rw [mul, clamp_of_nonneg (Int.mul_nonneg (le_min hceiling ha) (le_min hceiling hb))]
  rcases ha.eq_or_lt with rfl | hapos
  · rw [min_eq_right hceiling, Int.zero_mul, Int.zero_mul]
  rcases hb.eq_or_lt with rfl | hbpos
  · rw [min_eq_right hceiling, Int.mul_zero, Int.mul_zero]
  -- A factor beyond the ceiling takes both products there, since the other one is at least 1.
  rcases le_total a greatest with hasmall | halarge
  · rcases le_total b greatest with hbsmall | hblarge
    · rw [min_eq_right hasmall, min_eq_right hbsmall]
    · rw [min_eq_left hblarge,
        min_eq_left (le_mul_of_one_le_left hceiling (le_min (by decide) hapos)),
        min_eq_left (hblarge.trans (le_mul_of_one_le_left hb hapos))]
  · rw [min_eq_left halarge,
      min_eq_left (le_mul_of_one_le_right hceiling (le_min (by decide) hbpos)),
      min_eq_left (halarge.trans (le_mul_of_one_le_right ha hbpos))]

/-- A quotient of counters is a counter, rounded up or not, unless it is a fault. -/
lemma mem_of_ceilDiv? (hn : Mem n) (h : ceilDiv? n d = .ok c) : Mem c := by
  rw [ceilDiv?] at h
  split at h
  · cases h
  next hzero =>
    split at h
    · cases h
    next hopposite =>
      obtain rfl := Except.ok.inj h
      rw [ceilDiv]
      by_cases hone : d.natAbs = 1
      · -- Nothing is left over, so nothing is added.
        rcases Int.natAbs_eq_iff.mp hone with rfl | rfl
        · rwa [Int.natCast_one, Int.tmod_one, Int.tdiv_one, if_neg (lt_irrefl 0)]
        · rw [Int.natCast_one, Int.tmod_neg, Int.tmod_one, Int.tdiv_neg, Int.tdiv_one,
            if_neg (lt_irrefl 0)]
          simp only [Mem, least, greatest, Int.natCast_one, and_true] at hn hopposite ⊢
          omega
      · -- Otherwise the quotient is half as large at most, and may grow by one.
        have hhalf : (n.tdiv d).natAbs ≤ n.natAbs / 2 := by
          rw [Int.natAbs_tdiv]
          exact Nat.div_le_div_left (by omega) (by decide)
        simp only [Mem, least, greatest] at hn ⊢
        split <;> omega

end Counter

/-- The ceiling of a quotient, by multiples of the divisor. -/
lemma ceil_div_eq_iff {n d z : Int} (hd : 0 < d) :
    ⌈(n : ℚ) / d⌉ = z ↔ (z - 1) * d < n ∧ n ≤ z * d := by
  have hd' : (0 : ℚ) < d := Int.cast_pos.mpr hd
  rw [Int.ceil_eq_iff, lt_div_iff₀ hd', div_le_iff₀ hd']
  norm_cast

/-- Where it rounds up, division is the ceiling of the quotient. -/
lemma ceilDiv_eq_ceil {n d : Int} (hn : 0 ≤ n) (hd : 0 < d) : ceilDiv n d = ⌈(n : ℚ) / d⌉ := by
  have hquotient := Int.mul_ediv_add_emod n d
  have hlow := Int.emod_nonneg n hd.ne'
  have hhigh := Int.emod_lt_of_pos n hd
  rw [eq_comm, ceil_div_eq_iff hd, ceilDiv, Int.tdiv_eq_ediv_of_nonneg hn,
    Int.tmod_eq_emod_of_nonneg hn]
  split <;> constructor <;> linarith

/-- **The damage of a fall** is what the started tens of tons, the damage for each of them and the
levels come to, or the ceiling if that is more. The one division on the way has an answer, which
is a counter, and all else is stopped at the edges. -/
theorem fallDamage_eq_min (rules : Rules) (nonneg : 0 ≤ rules.fallDamagePerTenTons)
    (tonnage levels : Nat) (light : (tonnage : Int) ≤ Counter.greatest) :
    fallDamage rules tonnage levels false = min Counter.greatest
        (⌈(tonnage : ℚ) / 10⌉ * rules.fallDamagePerTenTons * (levels + 1)) ∧
      fallDamage rules tonnage levels true = min Counter.greatest
        (⌈(tonnage : ℚ) / 10⌉ * rules.fallDamagePerTenTons) ∧
      ceilDiv? (Counter.ofNat tonnage) 10 = .ok ⌈(tonnage : ℚ) / 10⌉ ∧
      Counter.Mem ⌈(tonnage : ℚ) / 10⌉ := by
  have htonnage : Counter.ofNat tonnage = tonnage := min_eq_right light
  have htens : ceilDiv tonnage 10 = ⌈(tonnage : ℚ) / 10⌉ := by
    have := ceilDiv_eq_ceil (Int.natCast_nonneg tonnage) (d := 10) (by decide)
    simpa using this
  have hanswer : ceilDiv? (Counter.ofNat tonnage) 10 = .ok ⌈(tonnage : ℚ) / 10⌉ := by
    rw [htonnage, ceilDiv?, if_neg (by decide), if_neg (fun h => absurd h.2 (by decide)), htens]
  have hpositive : 0 ≤ ⌈(tonnage : ℚ) / 10⌉ := Int.ceil_nonneg (by positivity)
  have hbase : Counter.mul (ceilDiv (Counter.ofNat tonnage) 10) rules.fallDamagePerTenTons =
      min Counter.greatest (⌈(tonnage : ℚ) / 10⌉ * rules.fallDamagePerTenTons) := by
    rw [htonnage, htens, Counter.mul, Counter.clamp_of_nonneg (Int.mul_nonneg hpositive nonneg)]
  refine ⟨?_, hbase, hanswer, Counter.mem_of_ceilDiv? (Counter.mem_ofNat tonnage) hanswer⟩
  calc fallDamage rules tonnage levels false
      = Counter.mul (min Counter.greatest (⌈(tonnage : ℚ) / 10⌉ * rules.fallDamagePerTenTons))
          (min Counter.greatest (levels + 1)) := by
        rw [← hbase]
        rfl
    _ = _ := Counter.mul_min_min (Int.mul_nonneg hpositive nonneg) (by positivity)

/-- The heaviest counter of tons falls as hard as a counter can tell from ten levels up, and from
none it stays below. -/
theorem fallDamage_eq_min_heaviest :
    0 ≤ ({} : Rules).fallDamagePerTenTons ∧ ((2147483647 : Nat) : Int) ≤ Counter.greatest ∧
      fallDamage {} 2147483647 10 false = Counter.greatest ∧
      fallDamage {} 2147483647 10 true = 214748365 := by
  have light : ((2147483647 : Nat) : Int) ≤ Counter.greatest := by decide
  obtain ⟨hlevels, hjumping, -, -⟩ := fallDamage_eq_min {} (by decide) 2147483647 10 light
  have htens : ⌈((2147483647 : Nat) : ℚ) / 10⌉ = 214748365 := by
    rw [Int.ceil_eq_iff]
    norm_num
  rw [htens] at hlevels hjumping
  exact ⟨by decide, light, hlevels.trans (by decide), hjumping.trans (by decide)⟩

/-! ### Clusters, one after the other -/

/-- Whether damage is cut into clusters of a size: as few as hold it, all of them full except for
the last, which is not empty, and together all of it. Damage below zero is none. -/
structure Clustered (damage size : Int) (clusters : List Int) : Prop where
  length : (clusters.length : Int) = ⌈((max damage 0 : Int) : ℚ) / size⌉
  full : ∀ d ∈ clusters.dropLast, d = size
  last : ∀ d ∈ clusters.getLast?, 1 ≤ d ∧ d ≤ size
  sum : clusters.sum = max damage 0

namespace Clustered

variable {damage size : Int} {clusters : List Int}

lemma none (h : damage ≤ 0) : Clustered damage size [] := by
  constructor <;> simp [max_eq_right h]

/-- What fits into one cluster takes one. -/
lemma single (h : 0 < damage) (hlast : damage ≤ size) : Clustered damage size [damage] where
  length := by
    rw [eq_comm, max_eq_left h.le, ceil_div_eq_iff (h.trans_le hlast)]
    constructor <;> simp [h, hlast]
  full := by simp
  last := by
    rintro d ⟨⟩
    exact ⟨h, hlast⟩
  sum := by rw [List.sum_singleton, max_eq_left h.le]

/-- What does not takes a full one and those of the rest. -/
lemma cons (hsize : 0 < size) (hfull : size < damage)
    (hrest : Clustered (damage - size) size clusters) :
    Clustered damage size (size :: clusters) := by
  have hpos : 0 < damage - size := Int.sub_pos_of_lt hfull
  have hnonempty : clusters ≠ [] := by
    rintro rfl
    have := hrest.sum
    rw [List.sum_nil] at this
    omega
  refine ⟨?length, ?full, ?last, ?sum⟩
  case length =>
    have hlength := hrest.length
    rw [max_eq_left hpos.le, eq_comm, ceil_div_eq_iff hsize] at hlength
    rw [max_eq_left (hsize.trans hfull).le, eq_comm, ceil_div_eq_iff hsize, List.length_cons,
      Nat.cast_succ]
    constructor <;> linarith
  case full =>
    rw [List.dropLast_cons_of_ne_nil hnonempty, List.forall_mem_cons]
    exact ⟨rfl, hrest.full⟩
  case last =>
    rw [List.getLast?_cons_of_ne_nil hnonempty]
    exact hrest.last
  case sum =>
    rw [List.sum_cons, hrest.sum]
    omega

end Clustered

lemma clustered_clusterSizes {size : Int} (hsize : 0 < size) (damage : Int) :
    Clustered damage size (clusterSizes damage size) := by
  induction damage using remaining_rec hsize with
  | spent damage h =>
      rw [clusterSizes_of_nonpos h hsize]
      exact .none h
  | more damage h ih =>
      rw [clusterSizes_of_pos h hsize]
      rcases le_or_gt damage size with hlast | hfull
      · rw [min_eq_left hlast, Int.sub_self, clusterSizes_of_nonpos le_rfl hsize]
        exact .single h hlast
      · rw [min_eq_right hfull.le] at ih ⊢
        exact .cons hsize hfull ih

/-! ### What the dice of a landing show -/

/-- The faces of a throw, as they are rolled. -/
def facesOf (throw : Face × Face) : List Face := [throw.1, throw.2]

/-- The cluster that a throw makes of some damage. -/
def thrownCluster (rules : Rules) (side : Side) (damage : Int) (throw : Face × Face) :
    DamageCluster :=
  let roll := TwoDice.ofFaces throw.1 throw.2
  ⟨damage, roll, rules.hitLocation side roll.total⟩

section reads

variable {rules : Rules} {side : Side} {damage size : Int}

lemma reads_rollCluster (throw : Face × Face) :
    (rollCluster rules side damage).Reads (facesOf throw)
      (thrownCluster rules side damage throw) :=
  reads_bind.mpr ⟨facesOf throw, [], _, reads_twoDice.mpr ⟨_, _, rfl, rfl⟩, .done _, rfl⟩

/-- **One throw for one cluster**, until no damage remains. -/
lemma reads_rollClusters (rules : Rules) (side : Side) (hsize : 0 < size)
    {throws : List (Face × Face)} (enough : throws.length = (clusterSizes damage size).length) :
    (rollClusters rules side damage size).Reads (throws.flatMap facesOf)
      (List.zipWith (thrownCluster rules side) (clusterSizes damage size) throws) := by
  induction damage using remaining_rec hsize generalizing throws with
  | spent damage h =>
      rw [clusterSizes_of_nonpos h hsize] at enough
      obtain rfl := List.length_eq_zero_iff.mp enough
      rw [rollClusters_of_nonpos h hsize, List.zipWith_nil_right]
      exact .done []
  | more damage h ih =>
      rw [clusterSizes_of_pos h hsize] at enough ⊢
      cases throws with
      | nil => cases enough
      | cons throw throws =>
          rw [rollClusters_of_pos h hsize, List.flatMap_cons, List.zipWith_cons_cons]
          refine reads_bind.mpr ⟨_, _, _, reads_rollCluster throw, ?_, rfl⟩
          exact reads_bind.mpr
            ⟨_, [], _, ih (Nat.succ.inj enough), .done _, (List.append_nil _).symm⟩

lemma damage_thrown {sizes : List Int} {throws : List (Face × Face)}
    (h : throws.length = sizes.length) :
    (List.zipWith (thrownCluster rules side) sizes throws).map (·.damage) = sizes := by
  induction sizes generalizing throws with
  | nil => rw [List.zipWith_nil_left, List.map_nil]
  | cons size sizes ih =>
      cases throws with
      | nil => cases h
      | cons throw throws =>
          rw [List.zipWith_cons_cons, List.map_cons, ih (Nat.succ.inj h)]
          rfl

lemma exists_throws {n : Nat} {faces : List Face} (h : 2 * n ≤ faces.length) :
    ∃ (throws : List (Face × Face)) (more : List Face), throws.length = n ∧
      faces = throws.flatMap facesOf ++ more := by
  induction n generalizing faces with
  | zero => exact ⟨[], faces, rfl, rfl⟩
  | succ n ih =>
      match faces, h with
      | x :: y :: faces, h =>
          have hrest : 2 * n ≤ faces.length := by
            rw [List.length_cons, List.length_cons] at h
            omega
          obtain ⟨throws, more, hlength, rfl⟩ := ih hrest
          exact ⟨(x, y) :: throws, more, by rw [List.length_cons, hlength], rfl⟩

end reads

/-- What a roll to avoid injury comes to on its faces: a target number out of reach takes none
and injures the pilot, and any other takes two, which injure the pilot when they show more. -/
def InjuryShows (check : PilotingCheck) (faces : List Face) (roll : Option TwoDice)
    (injured : Bool) : Prop :=
  (check.impossible = true ∧ faces = [] ∧ roll = none ∧ injured = true) ∨
    (check.impossible = false ∧ ∃ x y, faces = [x, y] ∧ roll = some (.ofFaces x y) ∧
      injured = decide (check.target < (TwoDice.ofFaces x y).total))

/-- The number of faces for the roll to avoid injury. -/
def injuryFaces (check : PilotingCheck) : Nat := if check.impossible then 0 else 2

lemma reads_rollInjury {check : PilotingCheck} {faces : List Face} {roll : Option TwoDice}
    {injured : Bool} :
    (rollInjury check).Reads faces (roll, injured) ↔ InjuryShows check faces roll injured := by
  rw [rollInjury, InjuryShows]
  cases check.impossible with
  | true => simp [reads_pure]
  | false =>
      simp only [Bool.false_eq_true, if_false, reads_bind, reads_twoDice, reads_pure, false_and,
        true_and, false_or, Prod.mk.injEq]
      constructor
      · rintro ⟨_, _, _, ⟨x, y, rfl, rfl⟩, ⟨rfl, rfl, rfl⟩, rfl⟩
        exact ⟨x, y, rfl, rfl, rfl⟩
      · rintro ⟨x, y, rfl, rfl, rfl⟩
        exact ⟨_, _, _, ⟨x, y, rfl, rfl⟩, ⟨rfl, rfl, rfl⟩, rfl⟩

lemma exists_injury {check : PilotingCheck} {faces : List Face}
    (h : injuryFaces check ≤ faces.length) :
    ∃ front more roll injured, faces = front ++ more ∧ InjuryShows check front roll injured := by
  rw [injuryFaces] at h
  cases himpossible : check.impossible with
  | true => exact ⟨[], faces, none, true, rfl, .inl ⟨himpossible, rfl, rfl, rfl⟩⟩
  | false =>
      rw [himpossible] at h
      match faces, h with
      | x :: y :: more, _ =>
          exact ⟨[x, y], more, _, _, rfl, .inr ⟨himpossible, x, y, rfl, rfl, rfl⟩⟩

/-- **What is recorded of the faces of a landing.** One die turns the unit and says on which side
it lands, one throw for each cluster finds its location in the table of that side, and the last
faces decide on the pilot. -/
structure Landing.Shows (landing : Landing) (rules : Rules) (u : BattleUnit) (levels : Nat)
    (jumping : Bool) (check : PilotingCheck) (die : Face) (throws : List (Face × Face))
    (injury : List Face) : Prop where
  damage : landing.damage = fallDamage rules u.tonnage levels jumping
  facingRoll : landing.facingRoll = die.pips
  facing : landing.facing.index = (u.facing.index + (die.pips - 1)) % 6
  side : landing.side = landingSide die.pips
  clustered : Clustered landing.damage rules.fallClusterSize (landing.clusters.map (·.damage))
  struck : List.Forall₂ (fun cluster throw =>
    cluster.roll = TwoDice.ofFaces throw.1 throw.2 ∧
      (rules.hitTables.ofSide landing.side)[(cluster.roll.total - 2).toNat]? =
        some cluster.location) landing.clusters throws
  injury : InjuryShows check injury landing.injuryRoll landing.injured

namespace Rules.Sound

variable {rules : Rules}

lemma clusterSize_pos (sound : rules.Sound) : 0 < rules.fallClusterSize :=
  (sound_iff.mp sound).2.2.2.2.1

/-- Two dice strike the location that their entry names. -/
lemma getElem?_thrown (sound : rules.Sound) (side : Side) (x y : Face) :
    (rules.hitTables.ofSide side)[((TwoDice.ofFaces x y).total - 2).toNat]? =
      some (rules.hitLocation side (TwoDice.ofFaces x y).total) := by
  obtain ⟨hlow, hhigh⟩ := TwoDice.total_ofFaces_bounds x y
  have hindex : hitIndex (TwoDice.ofFaces x y).total = ((TwoDice.ofFaces x y).total - 2).toNat := by
    rw [hitIndex]
    omega
  rw [← hindex]
  exact sound.getElem?_hitIndex side _

end Rules.Sound

lemma struck_thrown {rules : Rules} (sound : rules.Sound) (side : Side) {sizes : List Int}
    {throws : List (Face × Face)} (h : throws.length = sizes.length) :
    List.Forall₂ (fun cluster throw =>
      cluster.roll = TwoDice.ofFaces throw.1 throw.2 ∧
        (rules.hitTables.ofSide side)[(cluster.roll.total - 2).toNat]? = some cluster.location)
      (List.zipWith (thrownCluster rules side) sizes throws) throws := by
  induction sizes generalizing throws with
  | nil =>
      obtain rfl := List.length_eq_zero_iff.mp h
      exact .nil
  | cons size sizes ih =>
      cases throws with
      | nil => cases h
      | cons throw throws =>
          exact .cons ⟨rfl, sound.getElem?_thrown side throw.1 throw.2⟩ (ih (Nat.succ.inj h))

section shows

variable {rules : Rules} {u : BattleUnit} {levels : Nat} {jumping : Bool} {check : PilotingCheck}
  {die : Face} {throws : List (Face × Face)} {injury : List Face} {roll : Option TwoDice}
  {injured : Bool}

/-- The landing that these faces come to. -/
def thrownLanding (rules : Rules) (u : BattleUnit) (levels : Nat) (jumping : Bool) (die : Face)
    (throws : List (Face × Face)) (roll : Option TwoDice) (injured : Bool) : Landing :=
  let damage := fallDamage rules u.tonnage levels jumping
  { damage, facingRoll := die.pips, facing := u.facing.turned die.val,
    side := landingSide die.pips,
    clusters := List.zipWith (thrownCluster rules (landingSide die.pips))
      (clusterSizes damage rules.fallClusterSize) throws,
    injuryRoll := roll, injured }

/-- A landing takes its dice in order: one to turn, then the throws, then those for the pilot. -/
lemma reads_rollLanding (die : Face) (hsize : 0 < rules.fallClusterSize)
    (enough : throws.length =
      (clusterSizes (fallDamage rules u.tonnage levels jumping) rules.fallClusterSize).length)
    (hinjury : InjuryShows check injury roll injured) :
    (rollLanding rules u levels jumping check).Reads (die :: (throws.flatMap facesOf ++ injury))
      (thrownLanding rules u levels jumping die throws roll injured) := by
  have hclusters := reads_rollClusters rules (landingSide die.pips) hsize enough
  have hfull : max 1 rules.fallClusterSize = rules.fallClusterSize := max_eq_right hsize
  rw [rollLanding, hfull]
  refine reads_bind.mpr ⟨[die], _, die, reads_d6.mpr rfl, ?_, rfl⟩
  refine reads_bind.mpr ⟨_, injury, _, hclusters, ?_, rfl⟩
  exact reads_bind.mpr ⟨injury, [], _, reads_rollInjury.mpr hinjury, .done _,
    (List.append_nil injury).symm⟩

lemma reads_land (mech : u.kind = .mech) (deployed : u.isDeployed = true) {landing : Landing}
    {faces : List Face} (h : (rollLanding rules u levels jumping check).Reads faces landing) :
    (u.land rules levels jumping check).Reads faces (.ok landing) := by
  have hfalls : u.cannotFall? = none := by
    rw [BattleUnit.cannotFall?, if_neg (not_not.mpr mech), if_pos deployed]
  rw [BattleUnit.land, hfalls]
  exact reads_bind.mpr ⟨faces, [], landing, h, .done _, (List.append_nil faces).symm⟩

lemma shows_thrownLanding (sound : rules.Sound)
    (enough : throws.length =
      (clusterSizes (fallDamage rules u.tonnage levels jumping) rules.fallClusterSize).length)
    (hinjury : InjuryShows check injury roll injured) :
    (thrownLanding rules u levels jumping die throws roll injured).Shows rules u levels jumping
      check die throws injury where
  damage := rfl
  facingRoll := rfl
  facing := Nat.add_mod_mod _ _ _
  side := rfl
  clustered := by
    rw [thrownLanding, damage_thrown enough]
    exact clustered_clusterSizes sound.clusterSize_pos _
  struck := struck_thrown sound _ enough
  injury := hinjury

end shows

/-- **A landing on any dice that suffice.** With sound rules a mech on the board lands on all dice
that offer one face to turn it, two for each cluster that its damage comes in, and two for the
pilot unless the target number is out of reach. It draws these faces and no others, in this order,
and what is recorded is what they show. -/
theorem land_of_offers {σ : Type} [DiceSource σ] (rules : Rules) (sound : rules.Sound)
    (u : BattleUnit) (mech : u.kind = .mech) (deployed : u.isDeployed = true) (levels : Nat)
    (jumping : Bool) (check : PilotingCheck) {dice later : σ} {faces : List Face}
    (offered : DiceSource.Offers dice faces later)
    (enough : 1 + 2 * ⌈((max (fallDamage rules u.tonnage levels jumping) 0 : Int) : ℚ) /
      rules.fallClusterSize⌉ + injuryFaces check ≤ (faces.length : Int)) :
    ∃ landing die throws injury rest,
      (u.land rules levels jumping check).run dice = (some (.ok landing), rest) ∧
      (u.land rules levels jumping check).trace dice = die :: (throws.flatMap facesOf ++ injury) ∧
      landing.Shows rules u levels jumping check die throws injury := by
  have hsize := sound.clusterSize_pos
  -- The damage comes in so many clusters, each of which takes a throw.
  obtain ⟨n, hn⟩ : ∃ n, n = (clusterSizes (fallDamage rules u.tonnage levels jumping)
      rules.fallClusterSize).length := ⟨_, rfl⟩
  rw [← (clustered_clusterSizes hsize _).length, ← hn] at enough
  cases faces with
  | nil =>
      rw [List.length_nil] at enough
      omega
  | cons die faces =>
      rw [List.length_cons] at enough
      have hthrows : 2 * n ≤ faces.length := by omega
      obtain ⟨throws, more, hlength, rfl⟩ := exists_throws hthrows
      have hfaces : (throws.flatMap facesOf).length = 2 * throws.length := by
        simp [List.length_flatMap, facesOf, Nat.mul_comm]
      rw [List.length_append, hfaces] at enough
      have hpilot : injuryFaces check ≤ more.length := by omega
      obtain ⟨injury, unused, roll, injured, rfl, hinjury⟩ := exists_injury hpilot
      rw [← List.append_assoc, ← List.cons_append] at offered
      obtain ⟨rest, hoffers, -⟩ := DiceSource.offers_append.mp offered
      rw [hn] at hlength
      have hland := reads_land mech deployed (reads_rollLanding die hsize hlength hinjury)
      exact ⟨_, die, throws, injury, rest, run_eq_some_iff.mpr ⟨_, hland, hoffers⟩,
        trace_eq_of_reads hland hoffers, shows_thrownLanding sound hlength hinjury⟩

/-- A mech on the board. -/
def faller : BattleUnit :=
  (BattleUnit.mech {} 9 "Target" 55).deployedAt ⟨2, 2⟩ ⟨1⟩

/-- What it comes to when the mech falls on its back: six points of damage in a full cluster and
one point more, and an injury. -/
def fallerLanding : Landing where
  damage := 6
  facingRoll := 4
  facing := ⟨4⟩
  side := .rear
  clusters := [⟨5, ⟨3, 4⟩, .centerTorso⟩, ⟨1, ⟨3, 4⟩, .centerTorso⟩]
  injuryRoll := some ⟨6, 6⟩
  injured := true

/-- Seven faces are drawn for it, and the eighth is left. -/
theorem land_of_offers_faller :
    let dice : Script := ⟨[3, 2, 3, 2, 3, 5, 5, 0], 0⟩
    let check : PilotingCheck := ⟨[], 5, [], 5, false⟩
    Rules.standard.Sound ∧ faller.kind = .mech ∧ faller.isDeployed = true ∧
      DiceSource.Offers dice [3, 2, 3, 2, 3, 5, 5, 0] ⟨[], 8⟩ ∧
      1 + 2 * ⌈((max (fallDamage Rules.standard faller.tonnage 0 false) 0 : Int) : ℚ) /
        Rules.standard.fallClusterSize⌉ + injuryFaces check ≤ (8 : Int) ∧
      (faller.land Rules.standard 0 false check).run dice =
        (some (.ok fallerLanding), ⟨[0], 7⟩) ∧
      (faller.land Rules.standard 0 false check).trace dice = [3, 2, 3, 2, 3, 5, 5] ∧
      Clustered 6 5 (fallerLanding.clusters.map (·.damage)) := by
  intro dice check
  have offered : DiceSource.Offers dice [3, 2, 3, 2, 3, 5, 5, 0] ⟨[], 8⟩ :=
    offers_script [3, 2, 3, 2, 3, 5, 5, 0] [] 0
  have enough : 1 + 2 * ⌈((max (fallDamage Rules.standard faller.tonnage 0 false) 0 : Int) : ℚ) /
      Rules.standard.fallClusterSize⌉ + injuryFaces check ≤ (8 : Int) := by
    have hclusters : ⌈((6 : Int) : ℚ) / (5 : Int)⌉ = 2 := by
      rw [ceil_div_eq_iff (by decide)]
      decide
    have hdamage : max (fallDamage Rules.standard faller.tonnage 0 false) 0 = 6 := by decide
    have hsize : Rules.standard.fallClusterSize = 5 := rfl
    rw [hdamage, hsize, hclusters]
    decide
  have hrun : (faller.land Rules.standard 0 false check).run dice =
      (some (.ok fallerLanding), ⟨[0], 7⟩) := by decide +kernel
  obtain ⟨landing, die, throws, injury, rest, hrun', -, hshows⟩ :=
    land_of_offers Rules.standard Rules.sound_standard faller rfl rfl 0 false check offered enough
  rw [hrun] at hrun'
  obtain rfl : fallerLanding = landing := Except.ok.inj (Option.some.inj (Prod.mk.inj hrun').1)
  exact ⟨Rules.sound_standard, rfl, rfl, offered, enough, hrun, by decide +kernel,
    hshows.clustered⟩

end MechBattle
