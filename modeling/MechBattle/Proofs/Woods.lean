/-
Shots into the woods.

A probe of an attack lays a row of light woods from the target's hex on toward the
attacker, who shoots due north along it. The line of fire runs straight through that row,
however far it is, so it meets open ground first and then every hex of the woods, the
target's own hex last. That hex makes the shot harder but does not hide who stands in it.

* `Hex.north` with `Hex.lineTo_north`: the hexes due north, and the line to one of them;
* `ground_woodsFrom` and `along_woodsFrom`: the board of the probe hex by hex, and what
  the line of fire finds on it;
* `terrainItems_woodsFrom` and `sees_woodsFrom`: what the woods add, and when they hide
  the target;
* `ToHitProbe.run_through_woods`: the whole probe.
-/
import MechBattle.Probe
import MechBattle.Proofs.Shortest
import MechBattle.Proofs.Sight

namespace MechBattle

/-! ### Due north -/

namespace Hex

/-- The hex so many rows to the north of the origin. -/
def north (k : Nat) : Hex := ⟨0, -k⟩

lemma iterate_neighbor_north (k : Nat) : (·.neighbor .north)^[k] origin = north k := by
  refine ext_coord .q ?_ ?_ <;> rw [coord_iterate_neighbor] <;>
    simp [Axis.next, coord, origin, north, Facing.north, Facing.step]

lemma distance_north (n : Nat) : origin.distance (north n) = n := by
  rw [← iterate_neighbor_north]
  exact distance_iterate_neighbor origin (by decide) n

/-- The line to the north goes on row by row. -/
lemma lineTo_north {n : Nat} (hn : n < 2 ^ 30) :
    origin.lineTo (north n) = (List.range' 1 n).map north := by
  have hline := lineTo_iterate_neighbor origin (f := .north) (by decide) hn
  simp only [iterate_neighbor_north] at hline
  rw [hline, List.range'_eq_map_range, List.map_map]
  exact List.map_congr_left fun i _ => by rw [Function.comp_apply, Nat.add_comm]

end Hex

/-! ### The row of woods -/

section Woods

open Board

variable {c w : Nat}

lemma woodsFrom_succ (d : Int) (w : Nat) :
    woodsFrom d (w + 1) = (woodsFrom d w).lay ⟨0, -d + w⟩ ⟨.lightWoods, 0⟩ := by
  rw [woodsFrom, List.range_succ, List.foldl_append]
  rfl

/-- **The woods stand in one column, from the distance of the target on.** -/
lemma ground_woodsFrom (d : Int) (w : Nat) (h : Hex) :
    (woodsFrom d w).ground h =
      if h.q = 0 ∧ -d ≤ h.r ∧ h.r < -d + w then ⟨.lightWoods, 0⟩ else ⟨.clear, 0⟩ := by
  induction w with
  | zero =>
      rw [if_neg (by omega)]
      exact ground_empty h
  | succ w ih =>
      have hlast : (⟨0, -d + w⟩ : Hex) = h ↔ h.q = 0 ∧ h.r = -d + w := by
        obtain ⟨q, r⟩ := h
        rw [Hex.mk.injEq]
        exact and_congr eq_comm eq_comm
      -- the hex laid last is the next one of the column
      rw [woodsFrom_succ, ground_lay, ih]
      simp only [hlast, ← ite_or]
      refine if_congr ?_ rfl rfl
      push_cast
      omega

lemma elevation_woodsFrom (d : Int) (w : Nat) (h : Hex) :
    ((woodsFrom d w).ground h).elevation = 0 := by
  rw [ground_woodsFrom]
  split <;> rfl

lemma ground_north_of_le {k : Nat} (hk : k ≤ c) :
    (woodsFrom (c + w : Nat) w).ground (Hex.north k) = ⟨.clear, 0⟩ := by
  rw [ground_woodsFrom, if_neg]
  simp only [Hex.north]
  omega

lemma ground_north_of_lt {k : Nat} (hk : c < k) (hk' : k ≤ c + w) :
    (woodsFrom (c + w : Nat) w).ground (Hex.north k) = ⟨.lightWoods, 0⟩ := by
  rw [ground_woodsFrom, if_pos]
  refine ⟨rfl, ?_, ?_⟩ <;> simp only [Hex.north] <;> omega

/-- **What the line of fire finds**: open ground first, then nothing but woods. -/
lemma along_woodsFrom (hfar : c + w < 2 ^ 30) :
    (woodsFrom (c + w : Nat) w).along .origin (.north (c + w)) =
      (List.range' 1 c).map (fun k => (Hex.north k, ⟨.clear, 0⟩)) ++
        (List.range' (1 + c) w).map fun k => (Hex.north k, ⟨.lightWoods, 0⟩) := by
  rw [along, Hex.lineTo_north hfar, List.map_map, ← List.range'_append_1, List.map_append]
  congr 1
  · refine List.map_congr_left fun k hk => ?_
    obtain ⟨-, hle⟩ := List.mem_range'_1.mp hk
    rw [Function.comp_apply, ground_north_of_le (by omega)]
  · refine List.map_congr_left fun k hk => ?_
    obtain ⟨hlt, hle⟩ := List.mem_range'_1.mp hk
    rw [Function.comp_apply, ground_north_of_lt (by omega) (by omega)]

/-- Each hex of the woods counts, and no other does. -/
lemma terrainItems_woodsFrom {rules : Rules} (counts : rules.toHit.lightWoods ≠ 0)
    (hfar : c + w < 2 ^ 30) :
    BattleUnit.terrainItems rules (woodsFrom (c + w : Nat) w) .origin (.north (c + w)) =
      (List.range' (1 + c) w).map fun k =>
        ⟨.north k, .lightWoods, rules.toHit.lightWoods⟩ := by
  rw [BattleUnit.terrainItems, along_woodsFrom hfar, List.filterMap_append, List.filterMap_map,
    List.filterMap_map]
  simp [Function.comp_def, Rules.terrainModifier, counts]

/-- The ground of a probe's line of fire: open first, then light woods. -/
def groundStrip (c w : Nat) : List Ground :=
  List.replicate c (⟨.clear, 0⟩ : Ground) ++ List.replicate w (⟨.lightWoods, 0⟩ : Ground)

lemma map_ground_lineTo (hfar : c + w < 2 ^ 30) :
    (Hex.origin.lineTo (.north (c + w))).map (woodsFrom (c + w : Nat) w).ground =
      groundStrip c w := by
  have halong := congrArg (List.map Prod.snd) (along_woodsFrom hfar)
  simpa [along, groundStrip, Function.comp_def] using halong

/-- The last hex of the woods, if there is one, is the target's own. -/
lemma sum_density_dropLast (c w : Nat) :
    ((groundStrip c w).dropLast.map fun g => g.terrain.density).sum = (w - 1 : Nat) := by
  cases w with
  | zero => simp [groundStrip, Terrain.density]
  | succ w =>
      rw [groundStrip, List.replicate_succ', ← List.append_assoc, List.dropLast_concat]
      simp [Terrain.density]

/-- **The woods hide the target iff more than two hexes of them stand in front of it.** -/
lemma sees_woodsFrom (hfar : c + w < 2 ^ 30) :
    (woodsFrom (c + w : Nat) w).sees .origin (.north (c + w)) = true ↔ w ≤ 3 := by
  have hlevel : ∀ h, ((woodsFrom (c + w : Nat) w).ground h).elevation ≤
      (woodsFrom (c + w : Nat) w).sightCeiling .origin (.north (c + w)) := by
    intro h
    simp [sightCeiling, elevation_woodsFrom, unitHeight]
  have hdensity : (((Hex.origin.between (.north (c + w))).map
      (woodsFrom (c + w : Nat) w).ground).map fun g => g.terrain.density).sum = (w - 1 : Nat) := by
    rw [Hex.between, List.map_dropLast, map_ground_lineTo hfar, sum_density_dropLast]
  rw [sees_eq, hdensity, densityLimit, Bool.and_eq_true, List.all_eq_true, decide_eq_true_eq]
  constructor
  · rintro ⟨-, hthin⟩
    omega
  · intro hw
    refine ⟨fun g hg => ?_, by omega⟩
    obtain ⟨h, -, rfl⟩ := List.mem_map.mp hg
    exact decide_eq_true (hlevel h)

end Woods

/-! ### The probe -/

/-- A mech of a tonnage in the structure table is put on the board with its pilot. -/
lemma exists_probeMech {rules : Rules} {tonnage : Nat}
    (row : ∃ row ∈ rules.structures, row.tonnage = tonnage) (id : UnitId) (pilot : Pilot)
    (position : Hex) :
    ∃ u, probeMech rules id tonnage pilot position = .ok u ∧ u.pilot = some pilot ∧
      u.position = some position := by
  have hrow : (rules.internal? tonnage .centerTorso).isNone = false := by
    simpa [Rules.internal?] using row
  rw [probeMech, hrow]
  exact ⟨_, rfl, rfl, rfl⟩

/-- A unit with a pilot shoots from where it stands at where the other one stands. -/
lemma BattleUnit.exists_aim (rules : Rules) (attacker target : BattleUnit) (attack : Attack)
    (board : Board) {pilot : Pilot} {start stop : Hex} (hpilot : attacker.pilot = some pilot)
    (hstart : attacker.position = some start) (hstop : target.position = some stop) :
    ∃ f, aim rules attacker target attack board = .ok f ∧ f.distance = start.distance stop ∧
      f.terrain = terrainItems rules board start stop ∧
      f.lineOfSight = board.sees start stop := by
  simp only [aim, hpilot, hstart, hstop]
  exact ⟨_, rfl, rfl, rfl, rfl⟩

namespace ToHitProbe

variable {rules : Rules} {p : ToHitProbe}

/-- A probe comes to a shot along its row of woods. -/
lemma exists_run (row : ∃ row ∈ rules.structures, row.tonnage = 50) {n : Nat} (hn : 0 < n)
    (hp : p.distance = n) (hfar : n < 2 ^ 30) :
    ∃ f, p.run rules = .ok f ∧ f.distance = Hex.origin.distance (.north n) ∧
      f.terrain =
        BattleUnit.terrainItems rules (woodsFrom n (min p.lightWoods n)) .origin (.north n) ∧
      f.lineOfSight = (woodsFrom n (min p.lightWoods n)).sees .origin (.north n) := by
  have hwoods : (min (Counter.ofNat p.lightWoods) n).toNat = min p.lightWoods n := by
    simp only [Counter.ofNat, Counter.greatest]
    omega
  obtain ⟨attacker, hattacker, hpilot, hstart⟩ :=
    exists_probeMech row 1 { name := "Shooter", gunnery := p.gunnery, piloting := 5 } .origin
  obtain ⟨target, htarget, -, hstop⟩ :=
    exists_probeMech row 2 { name := "Target", gunnery := 4, piloting := 5 } ⟨0, -n⟩
  obtain ⟨f, hf, h⟩ := BattleUnit.exists_aim rules
    { attacker with movement := { mode := p.movement }, heat := p.heat }
    { target with movement := { hexes := p.targetMoved } }
    { weapon := p.weapon } (woodsFrom n (min p.lightWoods n)) hpilot hstart hstop
  refine ⟨f, ?_, h⟩
  have haway : ¬ (n : Int) ≤ 0 := by omega
  simp only [ToHitProbe.run, hp, if_neg haway, hattacker, htarget, hwoods, bind, Except.bind, hf]
  rfl

/-- **A shot meets the woods where they were laid.** As long as the rules have a structure for
the two mechs and light woods count for something, a probe of up to `2³⁰ - 1` hexes comes to a
firing solution over just that distance. Its terrain is every hex of the woods, from the one
nearest to the attacker to the target's own, and nothing else. The target is seen unless the
woods have more than three hexes: two in front of it do not hide it, and its own never does. -/
theorem run_through_woods (rules : Rules) (row : ∃ row ∈ rules.structures, row.tonnage = 50)
    (counts : rules.toHit.lightWoods ≠ 0) (p : ToHitProbe) (away : 1 ≤ p.distance)
    (near : p.distance ≤ 2 ^ 30 - 1) :
    let w := min p.lightWoods p.distance.toNat
    ∃ f, p.run rules = .ok f ∧ f.distance = p.distance ∧
      f.terrain = (List.range w).map (fun i : Nat =>
        ⟨⟨0, -p.distance + (w - 1 - i)⟩, .lightWoods, rules.toHit.lightWoods⟩) ∧
      (f.lineOfSight = true ↔ w ≤ 3) := by
  intro w
  -- `c` hexes of open ground lie in front of the woods
  obtain ⟨c, hc⟩ : ∃ c, p.distance = (c + w : Nat) := ⟨p.distance.toNat - w, by omega⟩
  have hfar : c + w < 2 ^ 30 := by omega
  have hwoods : min p.lightWoods (c + w) = w := by omega
  obtain ⟨f, hf, hdistance, hterrain, hsight⟩ := exists_run row (by omega) hc hfar
  rw [hwoods] at hterrain hsight
  refine ⟨f, hf, ?_, ?_, ?_⟩
  · rw [hdistance, Hex.distance_north, hc]
  · rw [hterrain, terrainItems_woodsFrom counts hfar, List.range'_eq_map_range, List.map_map]
    refine List.map_congr_left fun i _ => ?_
    have hrow : (-(1 + c + i : Nat) : Int) = -p.distance + (w - 1 - i) := by
      rw [hc]
      push_cast
      ring
    rw [Function.comp_apply, Hex.north, hrow]
  · rw [hsight]
    exact sees_woodsFrom hfar

/-- A shot over a billion hexes into the edge of a forest. -/
def farShot : ToHitProbe where
  distance := 1073741823
  lightWoods := 4
  weapon := ⟨"Rifle", 0, 6, 12, 18, 5, 1⟩

/-- Three hexes of woods in front of the target hide it. -/
theorem run_through_woods_far :
    (∃ row ∈ Rules.standard.structures, row.tonnage = 50) ∧
      Rules.standard.toHit.lightWoods ≠ 0 ∧
      1 ≤ farShot.distance ∧ farShot.distance ≤ 2 ^ 30 - 1 ∧
      ∃ f, farShot.run .standard = .ok f ∧ f.distance = 1073741823 ∧
        f.terrain = [⟨⟨0, -1073741820⟩, .lightWoods, 1⟩, ⟨⟨0, -1073741821⟩, .lightWoods, 1⟩,
          ⟨⟨0, -1073741822⟩, .lightWoods, 1⟩, ⟨⟨0, -1073741823⟩, .lightWoods, 1⟩] ∧
        f.lineOfSight = false := by
  have row : ∃ row ∈ Rules.standard.structures, row.tonnage = 50 := by decide
  have counts : Rules.standard.toHit.lightWoods ≠ 0 := by decide
  have away : 1 ≤ farShot.distance := by decide
  have near : farShot.distance ≤ 2 ^ 30 - 1 := by decide
  obtain ⟨f, hf, hdistance, hterrain, hsight⟩ := run_through_woods _ row counts _ away near
  refine ⟨row, counts, away, near, f, hf, hdistance, hterrain.trans rfl, ?_⟩
  rw [← Bool.not_eq_true, hsight]
  decide

end ToHitProbe

end MechBattle
