/-
The dice of critical hits.

How many faces a call takes is decided on the way: the throw for a location says how many slots
are struck there, and the size of the part how many faces choose each of them. So the faces
fall into blocks, one for each location that is rolled for, and nothing else is read from them.

* `BodyPart.Chooses`: the faces that choose a slot, with `Chooses.lt_slotCount`;
* `BodyPart.Throws`: the block of a part, with `exists_throws` for faces that suffice;
* `reads_rollSlot`, `reads_rollCritical`, `reads_criticals`: what the rules read;
* `CriticalReport.Follows` and `follows_of_reads`: what is reported of the faces read;
* `criticals_follow_dice`: what a call reads and reports.
-/
import MechBattle.Proofs.Replay

namespace MechBattle

open Rolls

/-- Whatever is in the first of two lists that agree has a partner in the second. -/
lemma exists_of_forall₂ {α β : Type} {R : α → β → Prop} {xs : List α} {ys : List β}
    (h : List.Forall₂ R xs ys) {x : α} (hx : x ∈ xs) : ∃ y, R x y := by
  induction h with
  | nil => cases hx
  | @cons _ y _ _ hy _ ih =>
      rcases List.mem_cons.mp hx with rfl | hx
      · exact ⟨y, hy⟩
      · exact ih hx

/-! ### The faces of one part -/

namespace BodyPart

/-- The faces that choose a slot: one in a part of up to six slots, and otherwise one for the
upper or the lower half and one for the slot in it. -/
inductive Chooses (p : BodyPart) : List Face → Nat → Prop
  | single (small : p.slotCount ≤ 6) (x : Face) : Chooses p [x] x.val
  | upper (large : 6 < p.slotCount) {half : Face} (low : half.pips ≤ 3) (x : Face) :
      Chooses p [half, x] x.val
  | lower (large : 6 < p.slotCount) {half : Face} (high : 4 ≤ half.pips) (x : Face) :
      Chooses p [half, x] (6 + x.val)

/-- The faces for a part: a throw of two dice, which gives the number of critical hits, and then
the faces that choose the slot of each. -/
def Throws (p : BodyPart) (rules : Rules) (faces : List Face) (roll : Int) (hitCount : Nat)
    (slots : List Nat) : Prop :=
  ∃ x y, ∃ choices : List (List Face),
    faces = x :: y :: choices.flatten ∧ roll = (TwoDice.ofFaces x y).total ∧
    hitCount = rules.criticalHitCount roll ∧ slots.length = hitCount ∧
    List.Forall₂ p.Chooses choices slots

/-- Whether the faces are as many as a part takes: two, and those of each critical hit. -/
def Suffice (p : BodyPart) (rules : Rules) (faces : List Face) : Prop :=
  ∃ x y, ∃ choices : List (List Face), faces = x :: y :: choices.flatten ∧
    choices.length = rules.criticalHitCount (TwoDice.ofFaces x y).total ∧
    ∀ choice ∈ choices, choice.length = p.slotFaces

variable {rules : Rules} {p : BodyPart} {faces : List Face} {slot : Nat}

/-- In a part of six slots or twelve, the slot chosen is one of them. -/
lemma Chooses.lt_slotCount (h : p.Chooses faces slot) (hp : p.slotCount = 6 ∨ p.slotCount = 12) :
    slot < p.slotCount := by
  cases h with
  | single small x => omega
  | upper large low x => omega
  | lower large high x => omega

lemma exists_chooses (h : faces.length = p.slotFaces) : ∃ slot, p.Chooses faces slot := by
  rw [slotFaces] at h
  split at h
  · next large =>
      obtain ⟨half, x, rfl⟩ := List.length_eq_two.mp h
      by_cases hhalf : half.pips ≤ 3
      · exact ⟨_, .upper large hhalf x⟩
      · exact ⟨_, .lower large (by omega) x⟩
  · next small =>
      obtain ⟨x, rfl⟩ := List.length_eq_one_iff.mp h
      exact ⟨_, .single (by omega) x⟩

/-- Faces that suffice are read. -/
lemma exists_throws (h : p.Suffice rules faces) :
    ∃ roll hitCount slots, p.Throws rules faces roll hitCount slots := by
  obtain ⟨x, y, choices, rfl, hlength, hchoices⟩ := h
  have hslots : ∃ slots, List.Forall₂ p.Chooses choices slots := by
    clear hlength
    induction choices with
    | nil => exact ⟨[], .nil⟩
    | cons choice rest ih =>
        obtain ⟨hfirst, hrest⟩ := List.forall_mem_cons.mp hchoices
        obtain ⟨slot, hslot⟩ := exists_chooses hfirst
        obtain ⟨slots, hslots⟩ := ih hrest
        exact ⟨slot :: slots, .cons hslot hslots⟩
  obtain ⟨slots, hslots⟩ := hslots
  exact ⟨_, _, slots, x, y, choices, rfl, rfl, rfl, hslots.length_eq.symm.trans hlength, hslots⟩

/-! ### What the rules read -/

lemma reads_rollSlot : p.rollSlot.Reads faces slot ↔ p.Chooses faces slot := by
  rw [rollSlot]
  split
  · next large =>
      simp only [reads_bind, reads_d6, reads_pure]
      constructor
      · rintro ⟨_, _, half, rfl, ⟨_, _, x, rfl, ⟨rfl, rfl⟩, rfl⟩, rfl⟩
        split
        · next low =>
            rw [Nat.zero_add]
            exact .upper large low x
        · exact .lower large (by omega) x
      · intro h
        cases h with
        | single small x => omega
        | @upper _ half low x =>
            exact ⟨[half], [x], half, rfl,
              ⟨[x], [], x, rfl, ⟨rfl, by rw [if_pos low, Nat.zero_add]⟩, rfl⟩, rfl⟩
        | @lower _ half high x =>
            exact ⟨[half], [x], half, rfl,
              ⟨[x], [], x, rfl, ⟨rfl, by rw [if_neg (by omega)]⟩, rfl⟩, rfl⟩
  · next small =>
      simp only [reads_bind, reads_d6, reads_pure]
      constructor
      · rintro ⟨_, _, x, rfl, ⟨rfl, rfl⟩, rfl⟩
        exact .single (by omega) x
      · intro h
        cases h with
        | single _ x => exact ⟨[x], [], x, rfl, ⟨rfl, rfl⟩, rfl⟩
        | upper large low x => omega
        | lower large high x => omega

/-- The slots of a number of critical hits are read one after the other. -/
lemma reads_rollSlots {n : Nat} {slots : List Nat} :
    ((List.range n).mapM fun _ => p.rollSlot).Reads faces slots ↔
      ∃ choices, faces = choices.flatten ∧ slots.length = n ∧
        List.Forall₂ p.Chooses choices slots := by
  have hreads : p.rollSlot.Reads = p.Chooses := by
    funext faces slot
    exact propext reads_rollSlot
  rw [reads_mapM_const, hreads, List.length_range]

end BodyPart

namespace BattleUnit

variable {rules : Rules} {u : BattleUnit} {l : Location} {p : BodyPart} {faces : List Face}
  {losses : Location.Map Int}

lemma reads_rollCritical {c : CriticalRoll} :
    (rollCritical rules l p).Reads faces c ↔
      (l, p) = (c.location, c.part) ∧ p.Throws rules faces c.roll c.hitCount c.slots := by
  simp only [rollCritical, reads_bind, reads_twoDice, reads_pure, BodyPart.reads_rollSlots]
  constructor
  · rintro ⟨_, _, _, ⟨x, y, rfl, rfl⟩, ⟨_, _, slots, ⟨choices, rfl, hlength, hchoices⟩,
      ⟨rfl, rfl⟩, rfl⟩, rfl⟩
    exact ⟨rfl, x, y, choices, by simp, rfl, rfl, hlength, hchoices⟩
  · obtain ⟨k, q, roll, hitCount, slots⟩ := c
    rintro ⟨⟨⟩, x, y, choices, rfl, rfl, hcount, hlength, hchoices⟩
    dsimp only at hcount
    subst hcount
    exact ⟨[x, y], _, _, ⟨x, y, rfl, rfl⟩,
      ⟨_, [], slots, ⟨choices, rfl, hlength, hchoices⟩, ⟨rfl, rfl⟩, rfl⟩, by simp⟩

/-- **What a call reads**: a block of faces for each location that is rolled for. -/
lemma reads_criticals {reports : List CriticalReport} :
    (u.criticals rules losses).Reads faces reports ↔ ∃ plays : List (List Face × CriticalRoll),
      faces = (plays.map Prod.fst).flatten ∧
        reports = u.strikeAll {} (plays.map Prod.snd) ∧
        List.Forall₂ (fun x play => x = (play.2.location, play.2.part) ∧
          x.2.Throws rules play.1 play.2.roll play.2.hitCount play.2.slots)
            (u.lossyParts losses) plays := by
  simp only [criticals, rollCriticals, reads_bind, reads_pure, reads_mapM, reads_rollCritical]
  constructor
  · rintro ⟨_, _, _, ⟨plays, rfl, rfl, hplays⟩, ⟨rfl, rfl⟩, rfl⟩
    exact ⟨plays, List.append_nil _, rfl, hplays⟩
  · rintro ⟨plays, rfl, rfl, hplays⟩
    exact ⟨_, [], _, ⟨plays, rfl, rfl, hplays⟩, ⟨rfl, rfl⟩, (List.append_nil _).symm⟩

end BattleUnit

/-! ### What is reported -/

/-- A report on a part that follows these faces: its throw, its number of critical hits and the
slots struck are theirs, and each hit is recorded with what is in its slot. -/
structure CriticalReport.Follows (r : CriticalReport) (rules : Rules) (p : BodyPart)
    (faces : List Face) : Prop where
  throws : p.Throws rules faces r.roll r.hitCount (r.hits.map (·.slot))
  hits : ∀ h ∈ r.hits, h = p.slotHit h.slot

namespace CriticalReport.Follows

variable {r : CriticalReport} {rules : Rules} {p : BodyPart} {faces : List Face}

lemma hitCount_eq (h : r.Follows rules p faces) : r.hitCount = rules.criticalHitCount r.roll := by
  obtain ⟨x, y, choices, -, -, hcount, -⟩ := h.throws
  exact hcount

lemma length_hits (h : r.Follows rules p faces) : r.hits.length = r.hitCount := by
  obtain ⟨x, y, choices, -, -, -, hlength, -⟩ := h.throws
  rwa [List.length_map] at hlength

/-- Each hit is on a slot of the part and recorded with what is in it. -/
lemma hit_spec (h : r.Follows rules p faces) (hp : p.slotCount = 6 ∨ p.slotCount = 12) :
    ∀ hit ∈ r.hits, hit.slot < p.slotCount ∧
      hit.component = (p.componentAt? hit.slot).map (·.kind) ∧
      hit.componentName = (p.componentAt? hit.slot).map (·.name) := by
  obtain ⟨x, y, choices, -, -, -, -, hchoices⟩ := h.throws
  refine fun hit hhit => ⟨?_, ?_⟩
  · obtain ⟨choice, hchoice⟩ := exists_of_forall₂ hchoices.flip (List.mem_map_of_mem hhit)
    exact hchoice.lt_slotCount hp
  · rw [h.hits hit hhit]
    exact ⟨rfl, rfl⟩

end CriticalReport.Follows

namespace BattleUnit

variable {rules : Rules} {u : BattleUnit} {losses : Location.Map Int}

/-- The strikes of a call report the faces that were read. -/
lemma follows_strikeAll {plays : List (List Face × CriticalRoll)}
    (thrown : ∀ play ∈ plays, u.part? play.2.location = some play.2.part ∧
      play.2.part.Throws rules play.1 play.2.roll play.2.hitCount play.2.slots) (blast : Blast) :
    List.Forall₂ (fun r faces => ∃ p, u.part? r.location = some p ∧ r.Follows rules p faces)
      (u.strikeAll blast (plays.map Prod.snd)) (plays.map Prod.fst) := by
  induction plays generalizing blast with
  | nil => exact .nil
  | cons play rest ih =>
      obtain ⟨⟨hpart, hthrow⟩, hrest⟩ := List.forall_mem_cons.mp thrown
      rw [List.map_cons, List.map_cons, strikeAll_cons]
      refine .cons ⟨play.2.part, hpart, ?_, ?_⟩ (ih hrest _)
      · dsimp only
        rwa [slots_strikeSlots]
      · dsimp only
        rw [hits_strikeSlots]
        exact List.forall_mem_map.mpr fun slot _ => rfl

/-- **What a call reports** follows the faces that it reads, block by block. -/
lemma follows_of_reads {faces : List Face} {reports : List CriticalReport}
    (h : (u.criticals rules losses).Reads faces reports) :
    reports.map (·.location) = (u.lossyParts losses).map Prod.fst ∧
      ∃ blocks, faces = blocks.flatten ∧
        List.Forall₂ (fun r faces => ∃ p, u.part? r.location = some p ∧ r.Follows rules p faces)
          reports blocks := by
  obtain ⟨plays, rfl, rfl, hplays⟩ := reads_criticals.mp h
  have hlossy : u.lossyParts losses = plays.map fun play => (play.2.location, play.2.part) := by
    rw [← List.forall₂_eq_eq_eq, List.forall₂_map_right_iff]
    exact hplays.imp fun _ _ h => h.1
  have hthrown : ∀ play ∈ plays, u.part? play.2.location = some play.2.part ∧
      play.2.part.Throws rules play.1 play.2.roll play.2.hitCount play.2.slots := by
    intro play hplay
    obtain ⟨x, rfl, hthrows⟩ := exists_of_forall₂ hplays.flip hplay
    have hmem : (play.2.location, play.2.part) ∈ u.lossyParts losses := by
      rw [hlossy]
      exact List.mem_map_of_mem hplay
    exact ⟨mem_lossyParts hmem, hthrows⟩
  refine ⟨?_, _, rfl, follows_strikeAll hthrown {}⟩
  rw [locations_strikeAll, hlossy, List.map_map, List.map_map]
  rfl

/-- Faces that suffice for some parts are those of throws for them. -/
lemma exists_plays {parts : List (Location × BodyPart)} {blocks : List (List Face)}
    (suffice : List.Forall₂ (fun x faces => x.2.Suffice rules faces) parts blocks) :
    ∃ plays : List (List Face × CriticalRoll), blocks = plays.map Prod.fst ∧
      List.Forall₂ (fun x play => x = (play.2.location, play.2.part) ∧
        x.2.Throws rules play.1 play.2.roll play.2.hitCount play.2.slots) parts plays := by
  induction suffice with
  | nil => exact ⟨[], rfl, .nil⟩
  | @cons x faces _ _ hx _ ih =>
      obtain ⟨roll, hitCount, slots, hthrows⟩ := BodyPart.exists_throws hx
      obtain ⟨plays, rfl, hplays⟩ := ih
      exact ⟨(faces, ⟨x.1, x.2, roll, hitCount, slots⟩) :: plays, rfl, .cons ⟨rfl, hthrows⟩ hplays⟩

/-- Faces that suffice for all parts that are rolled for are read. -/
lemma exists_reads_criticals {blocks : List (List Face)}
    (suffice : List.Forall₂ (fun (x : Location × BodyPart) faces => x.2.Suffice rules faces)
      (u.lossyParts losses) blocks) :
    ∃ reports, (u.criticals rules losses).Reads blocks.flatten reports := by
  obtain ⟨plays, rfl, hplays⟩ := exists_plays suffice
  exact ⟨_, reads_criticals.mpr ⟨plays, rfl, rfl, hplays⟩⟩

/-- **A call follows its dice.** It reports on each location that lost structure and that the
unit has, in body order, and on nothing else. Each report has as many hits as the table says
for its throw, on slots of the part, recorded with what is in them. The dice yield a block of
faces for each report and nothing more: two for the throw, and for each hit one in a part of
six slots, and in a larger one two, of which the first chooses the half. Dice that yield that
many faces for every such location are enough. -/
theorem criticals_follow_dice {σ : Type} [DiceSource σ] (rules : Rules) (u : BattleUnit)
    (slots : u.EachPart fun _ p => p.slotCount = 6 ∨ p.slotCount = 12)
    (losses : Location.Map Int) (dice rest : σ) :
    (∀ reports, (u.criticals rules losses).run dice = (some reports, rest) →
      reports.map (·.location) = Location.all.filter (fun l =>
        (losses.get? l).any (fun damage => decide (0 < damage)) && (u.part? l).isSome) ∧
      (∀ r ∈ reports, r.hits.length = r.hitCount ∧
        r.hitCount = rules.criticalHitCount r.roll ∧
        ∃ p, u.part? r.location = some p ∧ ∀ h ∈ r.hits, h.slot < p.slotCount ∧
          h.component = (p.componentAt? h.slot).map (·.kind) ∧
          h.componentName = (p.componentAt? h.slot).map (·.name)) ∧
      ∃ blocks, DiceSource.Offers dice blocks.flatten rest ∧
        List.Forall₂ (fun r faces => ∃ p, u.part? r.location = some p ∧
          p.Throws rules faces r.roll r.hitCount (r.hits.map (·.slot))) reports blocks) ∧
    ∀ blocks, DiceSource.Offers dice blocks.flatten rest →
      List.Forall₂ (fun (x : Location × BodyPart) faces => x.2.Suffice rules faces)
        (u.lossyParts losses) blocks →
      ∃ reports, (u.criticals rules losses).run dice = (some reports, rest) := by
  constructor
  · intro reports hrun
    obtain ⟨faces, hreads, hoffers⟩ := run_eq_some_iff.mp hrun
    obtain ⟨hlocations, blocks, rfl, hfollows⟩ := follows_of_reads hreads
    refine ⟨hlocations.trans (u.locations_lossyParts losses), fun r hr => ?_, blocks, hoffers,
      hfollows.imp fun r faces ⟨p, hp, h⟩ => ⟨p, hp, h.throws⟩⟩
    obtain ⟨faces, p, hp, h⟩ := exists_of_forall₂ hfollows hr
    exact ⟨h.length_hits, h.hitCount_eq, p, hp, h.hit_spec (slots r.location p hp)⟩
  · intro blocks hoffers hsuffice
    obtain ⟨reports, hreads⟩ := exists_reads_criticals hsuffice
    exact ⟨reports, run_eq_some_iff.mpr ⟨_, hreads, hoffers⟩⟩

/-- A mech with one arm and one leg. -/
def armAndLeg : BattleUnit :=
  (((BattleUnit.blank 9 "Target" .mech 50).withPart (.intact .leftArm 4 0 3)).withPart
    (.intact .leftLeg 4 0 3)).withInternals

/-- Structure lost at the arm, at the leg and at a leg that is not there, and none at the head. -/
def limbLosses : Location.Map Int :=
  { head := some 0, leftArm := some 2, leftLeg := some 1, rightLeg := some 3 }

/-- The arm takes four faces, two of them for a slot in its lower half, the leg takes four for
two slots, and the ninth face is left. -/
theorem criticals_follow_dice_limbs :
    let dice : Script := ⟨[3, 3, 4, 1, 5, 4, 0, 3, 2], 0⟩
    let called := (armAndLeg.criticals {} limbLosses).run dice
    let reports := called.1.getD []
    (armAndLeg.EachPart fun _ p => p.slotCount = 6 ∨ p.slotCount = 12) ∧
      called = (some reports, ⟨[2], 8⟩) ∧ reports.map (·.location) = [.leftArm, .leftLeg] ∧
      reports.map (fun r => r.hits.map (·.slot)) = [[7], [0, 3]] ∧
      (∀ r ∈ reports, r.hits.length = r.hitCount) ∧
      ∃ blocks, DiceSource.Offers dice blocks.flatten (⟨[2], 8⟩ : Script) ∧
        List.Forall₂ (fun r faces => ∃ p, armAndLeg.part? r.location = some p ∧
          p.Throws {} faces r.roll r.hitCount (r.hits.map (·.slot))) reports blocks := by
  intro dice called reports
  have slots : armAndLeg.EachPart fun _ p => p.slotCount = 6 ∨ p.slotCount = 12 := by decide
  have hcalled : called = (some reports, ⟨[2], 8⟩) := by decide +kernel
  obtain ⟨hlocations, hhits, hblocks⟩ :=
    (criticals_follow_dice {} armAndLeg slots limbLosses dice ⟨[2], 8⟩).1 reports hcalled
  refine ⟨slots, hcalled, ?_, by decide +kernel, fun r hr => (hhits r hr).1, hblocks⟩
  rw [hlocations]
  decide

end BattleUnit

end MechBattle
