/-
What a fall does to a mech and to its pilot.

* `fallDamage`: the damage of a fall, by tonnage and levels;
* `clusterSizes`: the damage cut into clusters, of one size except for
  the last;
* `landingSide`: the side on which a mech lands;
* `DamageCluster` and `Landing`: what is recorded;
* `rollClusters`: the throws for the clusters, which by
  `rollClusters_eq_mapM` is one for each of `clusterSizes`;
* `clusterSizes_of_pos`, `rollClusters_of_pos`: both as a loop that takes
  one cluster after the other off the damage that remains, with
  `remaining_rec` for induction along it;
* `BattleUnit.land`: the fall of a mech.
-/
import MechBattle.Damage
import MechBattle.Dice.Rolls
import MechBattle.PilotingCheck

namespace MechBattle

/-- The damage of a fall. Each started ten tons count, and so does each
level and one more, unless the mech was jumping. -/
def fallDamage (rules : Rules) (tonnage levels : Nat) (jumping : Bool) : Int :=
  let base := Counter.mul (ceilDiv (Counter.ofNat tonnage) 10) rules.fallDamagePerTenTons
  if jumping then base
  else Counter.mul base (Counter.ofNat (levels + 1))

/-- The side on which a mech lands, by the pips of one die. -/
def landingSide (pips : Nat) : Side :=
  match pips with
  | 1 => .front
  | 2 | 3 => .right
  | 4 => .rear
  | _ => .left

/-- Damage cut into clusters: as many full ones as it holds, and one for
what is left over. By `clusterSizes_of_pos` these are the clusters that are
taken off the damage one after the other. -/
def clusterSizes (damage : Int) (size : Int) : List Int :=
  let full := List.replicate (damage / size).toNat size
  if 0 < damage ∧ 0 < damage % size then full ++ [damage % size] else full

/-- A cluster of falling damage. -/
structure DamageCluster where
  damage : Int
  /-- The throw for its location. -/
  roll : TwoDice
  location : Location
  deriving DecidableEq, Repr

/-- A fall, from the landing to the pilot's injury. -/
structure Landing where
  damage : Int
  /-- Pips of the die for the new facing. -/
  facingRoll : Nat
  facing : Facing
  /-- The side on which the mech lands. -/
  side : Side
  clusters : List DamageCluster
  /-- The throw to avoid injury, unless that was impossible. -/
  injuryRoll : Option TwoDice
  injured : Bool
  deriving DecidableEq, Repr

/-- The throw for one cluster. -/
def rollCluster (rules : Rules) (side : Side) (damage : Int) : Rolls DamageCluster := do
  let roll ← twoDice
  return ⟨damage, roll, rules.hitLocation side roll.total⟩

/-- The throws for so many clusters of one size, behind those thrown
before, the last of which comes first. -/
def rollFull (rules : Rules) (side : Side) (size : Int) (thrown : List DamageCluster) :
    Nat → Rolls (List DamageCluster)
  | 0 => return thrown.reverse
  | n + 1 => do
    let cluster ← rollCluster rules side size
    rollFull rules side size (cluster :: thrown) n

/-- The throws for the clusters of some damage. Their sizes are not listed
first, since dice may run out long before damage does. By
`rollClusters_of_pos` one cluster is thrown for after the other as long as
damage remains. -/
def rollClusters (rules : Rules) (side : Side) (damage size : Int) :
    Rolls (List DamageCluster) := do
  let full ← rollFull rules side size [] (damage / size).toNat
  if 0 < damage ∧ 0 < damage % size then
    return full ++ [← rollCluster rules side (damage % size)]
  else return full

theorem rollFull_eq_mapM (rules : Rules) (side : Side) (size : Int)
    (thrown : List DamageCluster) (n : Nat) :
    rollFull rules side size thrown n =
      (thrown.reverse ++ ·) <$> (List.replicate n size).mapM (rollCluster rules side) := by
  induction n generalizing thrown with
  | zero => simp [rollFull]
  | succ n ih => simp [rollFull, List.replicate_succ, ih]

/-- The clusters are thrown for size by size. -/
theorem rollClusters_eq_mapM (rules : Rules) (side : Side) (damage size : Int) :
    rollClusters rules side damage size =
      (clusterSizes damage size).mapM (rollCluster rules side) := by
  by_cases h : 0 < damage ∧ 0 < damage % size
  · simp [rollClusters, clusterSizes, h, rollFull_eq_mapM]
  · simp [rollClusters, clusterSizes, h, rollFull_eq_mapM]

section remaining

variable {rules : Rules} {side : Side} {damage size : Int}

theorem clusterSizes_of_nonpos (h : damage ≤ 0) (hsize : 0 < size) :
    clusterSizes damage size = [] := by
  have hquotient : damage / size ≤ 0 := Int.ediv_nonpos_of_nonpos_of_neg h hsize
  rw [clusterSizes, if_neg fun hpos => Int.not_lt.mpr h hpos.1,
    Int.toNat_of_nonpos hquotient, List.replicate_zero]

/-- As long as damage remains, one more cluster takes its full size or all
that remains. -/
theorem clusterSizes_of_pos (h : 0 < damage) (hsize : 0 < size) :
    clusterSizes damage size =
      min damage size :: clusterSizes (damage - min damage size) size := by
  rcases Int.lt_or_le damage size with hlast | hfull
  · have hquotient : damage / size = 0 := Int.ediv_eq_zero_of_lt (Int.le_of_lt h) hlast
    have hrest : damage % size = damage := Int.emod_eq_of_lt (Int.le_of_lt h) hlast
    rw [Int.min_eq_left (Int.le_of_lt hlast), Int.sub_self,
      clusterSizes_of_nonpos (Int.le_refl 0) hsize, clusterSizes, hquotient, hrest,
      if_pos ⟨h, h⟩]
    rfl
  · have hquotient : (damage - size) / size = damage / size - 1 := by
      rw [Int.sub_ediv_of_dvd _ (Int.dvd_refl size), Int.ediv_self (Int.ne_of_gt hsize)]
    have hcount : (damage / size).toNat = ((damage - size) / size).toNat + 1 := by
      have : 1 ≤ damage / size := by rwa [Int.le_ediv_iff_mul_le hsize, Int.one_mul]
      omega
    have hmore : (0 < damage ∧ 0 < damage % size) = (0 < damage - size ∧ 0 < damage % size) := by
      refine propext (and_congr_left fun hrest => iff_of_true h ?_)
      -- nothing would be left over if this cluster took the last of the damage
      refine Int.sub_pos_of_lt (Int.lt_iff_le_and_ne.mpr ⟨hfull, ?_⟩)
      rintro rfl
      rw [Int.emod_self] at hrest
      exact Int.lt_irrefl 0 hrest
    rw [Int.min_eq_right hfull, clusterSizes, clusterSizes, Int.sub_emod_right, hcount,
      List.replicate_succ]
    simp only [hmore]
    split <;> rfl

theorem rollClusters_of_nonpos (h : damage ≤ 0) (hsize : 0 < size) :
    rollClusters rules side damage size = pure [] := by
  rw [rollClusters_eq_mapM, clusterSizes_of_nonpos h hsize, List.mapM_nil]

/-- As long as damage remains, one more cluster is thrown for, and then
those of the rest. -/
theorem rollClusters_of_pos (h : 0 < damage) (hsize : 0 < size) :
    rollClusters rules side damage size = do
      let cluster ← rollCluster rules side (min damage size)
      return cluster :: (← rollClusters rules side (damage - min damage size) size) := by
  simp only [rollClusters_eq_mapM, clusterSizes_of_pos h hsize, List.mapM_cons]

/-- Induction over the damage that remains, cluster by cluster. -/
theorem remaining_rec {motive : Int → Prop} (hsize : 0 < size)
    (spent : ∀ damage, damage ≤ 0 → motive damage)
    (more : ∀ damage, 0 < damage → motive (damage - min damage size) → motive damage)
    (damage : Int) : motive damage := by
  induction hn : damage.toNat using Nat.strongRecOn generalizing damage with
  | _ n ih =>
    rcases Int.lt_or_le 0 damage with h | h
    · exact more damage h (ih _ (by omega) _ rfl)
    · exact spent damage h

end remaining

/-- The throw to avoid injury. The pilot is injured by a throw above the
target number, and without one when it is out of reach. -/
def rollInjury (check : PilotingCheck) : Rolls (Option TwoDice × Bool) := do
  if check.impossible then return (none, true)
  else
    let roll ← twoDice
    return (some roll, decide (check.target < roll.total))

/-- The dice of a fall: one for the facing, two for each cluster, and two
for the pilot. -/
def rollLanding (rules : Rules) (u : BattleUnit) (levels : Nat) (jumping : Bool)
    (check : PilotingCheck) : Rolls Landing := do
  let damage := fallDamage rules u.tonnage levels jumping
  let die ← d6
  let side := landingSide die.pips
  let clusters ← rollClusters rules side damage (max 1 rules.fallClusterSize)
  let (injuryRoll, injured) ← rollInjury check
  return { damage, facingRoll := die.pips, facing := u.facing.turned die.val, side, clusters,
           injuryRoll, injured }

/-- Why a unit cannot fall, if it cannot. -/
def BattleUnit.cannotFall? (u : BattleUnit) : Option Refusal :=
  if u.kind ≠ .mech then some (.notAMech u.id)
  else if u.isDeployed then none
  else some (.notDeployed u.id)

/-- The fall of a mech by so many levels. `check` is the roll to avoid
injury. -/
def BattleUnit.land (rules : Rules) (u : BattleUnit) (levels : Nat) (jumping : Bool)
    (check : PilotingCheck) : Rolls (Except Refusal Landing) := do
  match u.cannotFall? with
  | some refusal => return .error refusal
  | none => return .ok (← rollLanding rules u levels jumping check)

end MechBattle
