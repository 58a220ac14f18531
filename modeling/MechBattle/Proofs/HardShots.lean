/-
Shots that get no easier.

Heat, damaged sensors, a target on the move and the woods on the line of fire make a shot
harder. More of any of them never makes it easier, in rules whose tables say so step by
step: the to-hit number does not fall, no sight is gained, and what was out of reach stays
out of reach. Taller ground can only hide a target, as long as attacker and target do not
rise with it.

* `Bracket.Rising`, `ToHitTables.Rising`: tables that count more for more;
* `BattleUnit.ShootsWorse`, `BattleUnit.MovesMore`, `Board.Screens`: what gets worse from
  one shot to the other;
* `Bracket.getD_value?_le`, `Rules.terrainModifier_le`, `Board.sees_of_screens`: each item
  of the to-hit number, and sight, on their own;
* `aim_no_easier`: the whole shot.
-/
import MechBattle.Attack
import MechBattle.BattleUnit.Assembly
import MechBattle.Proofs.Sight
import MechBattle.Proofs.Totals

namespace MechBattle

/-! ### Tables that count more for more -/

namespace Bracket

variable {table : List Bracket} {v x y : Int}

/-- No value is negative, and none is below the one before it. -/
structure Rising (table : List Bracket) : Prop where
  nonneg : ∀ b ∈ table, 0 ≤ b.value
  pairwise : table.Pairwise fun a b => a.value ≤ b.value

instance (table : List Bracket) : Decidable (Rising table) :=
  decidable_of_iff ((∀ b ∈ table, 0 ≤ b.value) ∧ table.Pairwise fun a b => a.value ≤ b.value)
    ⟨fun ⟨hn, hp⟩ => ⟨hn, hp⟩, fun h => ⟨h.nonneg, h.pairwise⟩⟩

/-- A step that is reached gives the value, unless a later one does. -/
lemma value?_cons (b : Bracket) (rest : List Bracket) (x : Int) :
    value? (b :: rest) x =
      if b.start ≤ x then some ((value? rest x).getD b.value) else none := by
  by_cases hx : b.start ≤ x
  · rw [if_pos hx, value?, List.takeWhile_cons_of_pos (by simpa using hx), List.getLast?_cons,
      Option.map_some, value?, Option.getD_map]
  · rw [if_neg hx, value?, List.takeWhile_cons_of_neg (by simpa using hx)]
    rfl

lemma le_getD_value? (h : ∀ b ∈ table, v ≤ b.value) (x : Int) : v ≤ (value? table x).getD v := by
  cases hx : value? table x with
  | none => exact le_rfl
  | some w =>
      obtain ⟨b, hb, rfl⟩ := Option.map_eq_some_iff.mp hx
      exact h b (List.takeWhile_subset _ (List.mem_of_getLast? hb))

/-- **More counts for no less.** This needs no order of the steps themselves, since a table
is read up to the first step that begins later. -/
lemma getD_value?_le (hxy : x ≤ y) (h : ∀ b ∈ table, v ≤ b.value)
    (rising : table.Pairwise fun a b => a.value ≤ b.value) :
    (value? table x).getD v ≤ (value? table y).getD v := by
  induction table generalizing v with
  | nil => exact le_rfl
  | cons b rest ih =>
      obtain ⟨hb, hrest⟩ := List.pairwise_cons.mp rising
      by_cases hx : b.start ≤ x
      · rw [value?_cons, value?_cons, if_pos hx, if_pos (hx.trans hxy)]
        exact ih hb hrest
      · rw [value?_cons, if_neg hx, Option.getD_none]
        exact le_getD_value? h y

end Bracket

/-- In these tables, heat, moving targets, damaged sensors and woods never help. -/
structure ToHitTables.Rising (t : ToHitTables) : Prop where
  lightWoods : 0 ≤ t.lightWoods
  heavyWoods : t.lightWoods ≤ t.heavyWoods
  sensorHit : 0 ≤ t.sensorHit
  heat : Bracket.Rising t.heat
  targetMovement : Bracket.Rising t.targetMovement

namespace Rules

variable {rules : Rules}

lemma heatModifier_le (rising : rules.toHit.Rising) {m n : Int} (h : m ≤ n) :
    rules.heatModifier m ≤ rules.heatModifier n :=
  Bracket.getD_value?_le h rising.heat.nonneg rising.heat.pairwise

lemma targetMovement_le (rising : rules.toHit.Rising) {m n : Nat} (h : m ≤ n) :
    rules.targetMovement m ≤ rules.targetMovement n :=
  Bracket.getD_value?_le (Counter.ofNat_le_ofNat h) rising.targetMovement.nonneg
    rising.targetMovement.pairwise

/-- Terrain counts by its woods alone. -/
lemma terrainModifier_eq (rules : Rules) (t : Terrain) :
    rules.terrainModifier t =
      if t.density = 2 then rules.toHit.heavyWoods
      else if t.density = 1 then rules.toHit.lightWoods else 0 := by
  cases t <;> rfl

lemma terrainModifier_le (rising : rules.toHit.Rising) {t t' : Terrain}
    (h : t.density ≤ t'.density) : rules.terrainModifier t ≤ rules.terrainModifier t' := by
  have hlight := rising.lightWoods
  have hheavy := rising.heavyWoods
  have hrange : t'.density = 0 ∨ t'.density = 1 ∨ t'.density = 2 := by
    cases t' <;> simp [Terrain.density]
  rw [terrainModifier_eq, terrainModifier_eq]
  split_ifs <;> omega

end Rules

/-! ### What gets worse -/

/-- The second unit is the first with no less heat and no fewer destroyed sensors. Nothing
else about its body matters to a shot. -/
structure BattleUnit.ShootsWorse (u v : BattleUnit) : Prop where
  same : v = { u with heat := v.heat, parts := v.parts }
  heat : u.heat ≤ v.heat
  sensors : u.destroyedCount .sensors ≤ v.destroyedCount .sensors

/-- The second unit is the first with no fewer hexes moved. -/
structure BattleUnit.MovesMore (u v : BattleUnit) : Prop where
  same : v = { u with movement := { u.movement with hexes := v.movement.hexes } }
  hexes : u.movement.hexes ≤ v.movement.hexes

/-- On the second board no hex has less woods or lower ground, and some hexes are as high as
on the first. -/
structure Board.Screens (board board' : Board) (level : Hex → Prop) : Prop where
  density : ∀ h, (board.ground h).terrain.density ≤ (board'.ground h).terrain.density
  elevation : ∀ h, (board.ground h).elevation ≤ (board'.ground h).elevation
  level : ∀ h, level h → (board'.ground h).elevation = (board.ground h).elevation

/-- A board that screens more hides all that was hidden before. -/
lemma Board.sees_of_screens {board board' : Board} {level : Hex → Prop}
    (screens : board.Screens board' level) {start stop : Hex} (hstart : level start)
    (hstop : level stop) (hsees : board'.sees start stop = true) :
    board.sees start stop = true := by
  have hceiling : board'.sightCeiling start stop = board.sightCeiling start stop := by
    rw [sightCeiling, sightCeiling, screens.level start hstart, screens.level stop hstop]
  rw [sees_eq, Bool.and_eq_true, List.all_eq_true, decide_eq_true_eq, List.map_map] at hsees ⊢
  obtain ⟨hlow, hthin⟩ := hsees
  constructor
  · intro g hg
    obtain ⟨h, hh, rfl⟩ := List.mem_map.mp hg
    have htall := of_decide_eq_true (hlow _ (List.mem_map_of_mem hh))
    rw [hceiling] at htall
    exact decide_eq_true ((screens.elevation h).trans htall)
  · exact (List.sum_le_sum fun h _ => screens.density h).trans_lt hthin

/-! ### The items of a shot -/

namespace BattleUnit

variable {rules : Rules} {attacker attacker' target target' : BattleUnit} {attack : Attack}
  {board board' : Board} {level : Hex → Prop} {pilot : Pilot} {start stop : Hex}

lemma sensorDamage_le (rising : rules.toHit.Rising) (worse : attacker.ShootsWorse attacker') :
    sensorDamage rules attacker ≤ sensorDamage rules attacker' :=
  min_le_min_right _ (Counter.mul_le_mul_of_nonneg_right (Counter.ofNat_le_ofNat worse.sensors)
    rising.sensorHit)

/-- The woods of a line of fire count hex by hex; those that count for nothing may as well
be listed. -/
lemma foldl_terrainItems {n : Int} (hn : Counter.Mem n) (rules : Rules) (board : Board)
    (start stop : Hex) :
    ((terrainItems rules board start stop).map (·.value)).foldl Counter.add n =
      ((start.lineTo stop).map fun h =>
        rules.terrainModifier (board.ground h).terrain).foldl Counter.add n := by
  rw [terrainItems, Counter.foldl_add_filterMap hn, Board.along, List.map_map]
  congr 2
  funext h
  simp only [Function.comp_apply]
  split
  · next hzero => exact hzero.symm
  · rfl

lemma otherItems_congr (worse : attacker.ShootsWorse attacker')
    (more : target.MovesMore target') (distance : Int) :
    otherItems rules attacker' target' distance = otherItems rules attacker target distance := by
  rw [worse.same, more.same]
  rfl

/-- Item by item, the second shot is no easier. -/
lemma sum_solutionItems_le (rising : rules.toHit.Rising) (worse : attacker.ShootsWorse attacker')
    (more : target.MovesMore target') (screens : board.Screens board' level) :
    (solutionItems rules attacker target attack board pilot start stop).sum ≤
      (solutionItems rules attacker' target' attack board' pilot start stop).sum := by
  have hmode : attacker'.movement = attacker.movement := by rw [worse.same]
  have hfacing : attacker'.facing = attacker.facing := by rw [worse.same]
  have hterrain : List.Forall₂ (· ≤ ·)
      ((start.lineTo stop).map fun h => rules.terrainModifier (board.ground h).terrain)
      ((start.lineTo stop).map fun h => rules.terrainModifier (board'.ground h).terrain) := by
    rw [List.forall₂_map_left_iff, List.forall₂_map_right_iff, List.forall₂_same]
    exact fun h _ => Rules.terrainModifier_le rising (screens.density h)
  simp only [FiringSolution.sum, FiringSolution.items, solutionItems, List.foldl_append,
    otherItems_congr worse more, hmode, hfacing]
  -- From the last items to the first ones: circumstances, then woods, then the nine others.
  refine Counter.foldl_add_mono ?_ _
  rw [foldl_terrainItems (Counter.mem_foldl_add Counter.mem_zero _),
    foldl_terrainItems (Counter.mem_foldl_add Counter.mem_zero _)]
  refine Counter.foldl_add_le hterrain (Counter.foldl_add_le ?_ le_rfl)
  simp only [List.forall₂_cons, List.Forall₂.nil, le_refl, true_and, and_true]
  exact ⟨Rules.targetMovement_le rising more.hexes, Rules.heatModifier_le rising worse.heat,
    sensorDamage_le rising worse⟩

/-- A shot that is not refused: what it is worth, and when it misses without a roll. -/
lemma exists_of_aim {f : FiringSolution} (h : aim rules attacker target attack board = .ok f) :
    ∃ pilot start stop, attacker.pilot = some pilot ∧ attacker.position = some start ∧
      target.position = some stop ∧
      f.total = (solutionItems rules attacker target attack board pilot start stop).sum ∧
      f.lineOfSight = board.sees start stop ∧
      f.impossible = (!board.sees start stop ||
        attack.weapon.band (start.distance stop) == .outOfRange || isImpossible f.total) := by
  rw [aim] at h
  split at h
  · cases h
  · cases h
  · cases h
  · next pilot start stop hpilot hstart hstop =>
      obtain rfl := Except.ok.inj h
      refine ⟨pilot, start, stop, hpilot, hstart, hstop, ?_⟩
      simp only [solutionItems, true_and]

/-- Whether a shot is refused, and why, does not depend on what makes it harder. -/
lemma aim_eq_error_of_worse (worse : attacker.ShootsWorse attacker')
    (more : target.MovesMore target') {e : Refusal}
    (h : aim rules attacker target attack board = .error e) :
    aim rules attacker' target' attack board' = .error e := by
  rw [worse.same, more.same]
  simp only [aim] at h ⊢
  split at h
  · exact h
  · exact h
  · exact h
  · cases h

lemma exists_aim_of_worse (board' : Board) (worse : attacker.ShootsWorse attacker')
    (more : target.MovesMore target') {f : FiringSolution}
    (h : aim rules attacker target attack board = .ok f) :
    ∃ f', aim rules attacker' target' attack board' = .ok f' := by
  obtain ⟨pilot, start, stop, hpilot, hstart, hstop, -⟩ := exists_of_aim h
  rw [worse.same, more.same]
  simp only [aim, hpilot, hstart, hstop]
  exact ⟨_, rfl⟩

/-- **Worse conditions never make a shot easier.** With more heat, more destroyed sensors, a
target that moved further, denser woods and ground that rises anywhere but under the two
units, the same shot is refused for the same reason. Otherwise its to-hit number is no
lower, it has no line of sight that it did not have before, and it stays out of reach if it
was. -/
theorem aim_no_easier (rules : Rules) (rising : rules.toHit.Rising)
    {attacker attacker' target target' : BattleUnit} {board board' : Board}
    (worse : attacker.ShootsWorse attacker') (more : target.MovesMore target')
    (screens : board.Screens board' fun h =>
      attacker.position = some h ∨ target.position = some h) (attack : Attack) :
    (∀ e, aim rules attacker target attack board = .error e →
        aim rules attacker' target' attack board' = .error e) ∧
      ∀ f, aim rules attacker target attack board = .ok f →
        ∃ f', aim rules attacker' target' attack board' = .ok f' ∧ f.total ≤ f'.total ∧
          (f'.lineOfSight = true → f.lineOfSight = true) ∧
          (f.impossible = true → f'.impossible = true) := by
  refine ⟨fun e => aim_eq_error_of_worse worse more, fun f hf => ?_⟩
  obtain ⟨f', hf'⟩ := exists_aim_of_worse board' worse more hf
  refine ⟨f', hf', ?_⟩
  obtain ⟨pilot, start, stop, hpilot, hstart, hstop, htotal, hsees, himpossible⟩ :=
    exists_of_aim hf
  obtain ⟨pilot', start', stop', hpilot', hstart', hstop', htotal', hsees', himpossible'⟩ :=
    exists_of_aim hf'
  obtain rfl : pilot' = pilot := by
    rw [worse.same, hpilot] at hpilot'
    exact (Option.some.inj hpilot').symm
  obtain rfl : start' = start := by
    rw [worse.same, hstart] at hstart'
    exact (Option.some.inj hstart').symm
  obtain rfl : stop' = stop := by
    rw [more.same, hstop] at hstop'
    exact (Option.some.inj hstop').symm
  have hle : f.total ≤ f'.total := by
    rw [htotal, htotal']
    exact sum_solutionItems_le rising worse more screens
  have hsight := Board.sees_of_screens screens (.inl hstart) (.inr hstop)
  refine ⟨hle, by rwa [hsees, hsees'], ?_⟩
  rw [himpossible, himpossible']
  simp only [Bool.or_eq_true, Bool.not_eq_true', ← Bool.not_eq_true]
  rintro ((hhidden | hfar) | hout)
  · exact .inl (.inl (mt hsight hhidden))
  · exact .inl (.inr hfar)
  · exact .inr (isImpossible_of_le hle hout)

/-! ### A shot through a thicket -/

/-- A mech that can be blinded. -/
def hunter : BattleUnit :=
  ((((BattleUnit.blank 1 "Hunter" .mech 50).withPart (.intact .head 9 0 3)).mount .head
    (.intact "Sensors" .sensors 1 1)).withPilot
      { name := "Pilot", gunnery := 4, piloting := 5 }).deployedAt ⟨0, 0⟩ .north

/-- The same mech after a hot turn, with its sensors shot off. -/
def wornHunter : BattleUnit :=
  { hunter.modifyPart .head (·.modifyAt 1 Component.wrecked) with heat := 14 }

/-- A mech three hexes to the north. -/
def quarry : BattleUnit := (BattleUnit.blank 2 "Quarry" .mech 35).deployedAt ⟨0, -3⟩ .north

/-- The same mech on the move. -/
def runningQuarry : BattleUnit := quarry.moved .stationary 5

/-- A hill with heavy woods between the two. -/
def thicket : Board := Board.empty.lay ⟨0, -1⟩ ⟨.heavyWoods, 1⟩

lemma screens_thicket :
    Board.empty.Screens thicket fun h =>
      hunter.position = some h ∨ quarry.position = some h := by
  constructor
  · intro h
    rw [thicket, Board.ground_lay, Board.ground_empty]
    split <;> decide
  · intro h
    rw [thicket, Board.ground_lay, Board.ground_empty]
    split <;> decide
  · rintro h (hh | hh) <;> obtain rfl := Option.some.inj hh <;>
      rw [thicket, Board.ground_lay, Board.ground_empty] <;> rfl

/-- It sees the other mech no better for that. -/
theorem aim_no_easier_thicket :
    Rules.standard.toHit.Rising ∧ hunter.ShootsWorse wornHunter ∧
      quarry.MovesMore runningQuarry ∧
      ∀ attack, ∃ f f', aim {} hunter quarry attack .empty = .ok f ∧
        aim {} wornHunter runningQuarry attack thicket = .ok f' ∧ f.total ≤ f'.total ∧
        (f'.lineOfSight = true → f.lineOfSight = true) ∧
        (f.impossible = true → f'.impossible = true) := by
  have rising : Rules.standard.toHit.Rising := by constructor <;> decide
  have worse : hunter.ShootsWorse wornHunter := by constructor <;> decide
  have more : quarry.MovesMore runningQuarry := by constructor <;> decide
  refine ⟨rising, worse, more, fun attack => ?_⟩
  obtain ⟨f, hf⟩ : ∃ f, aim {} hunter quarry attack .empty = .ok f := ⟨_, rfl⟩
  obtain ⟨f', hf', h⟩ := (aim_no_easier {} rising worse more screens_thicket attack).2 f hf
  exact ⟨f, f', hf, hf', h⟩

end BattleUnit

end MechBattle
