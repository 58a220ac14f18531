/-
Hits that land together, and the same hits one after the other.

Hits that land together are resolved on the unit as it stands, each told what
the earlier ones absorb, and applied at the end. Nobody can tell this from a
unit that takes each hit before the next one is resolved.

* `BattleUnit.absorbLive`: hits resolved and applied one after the other;
* `ledger_absorbAll`: what hits that land together absorb is a ledger;
* `absorbLive_eq_batch`: both ways record the same and leave the same unit.
-/
import MechBattle.BattleUnit.Assembly
import MechBattle.Proofs.Ledger

namespace MechBattle

namespace BattleUnit

variable {u : BattleUnit}

/-- Hits resolved on the unit as it then is, each of them applied before the
next: what each hit does, and the unit after all of them. -/
def absorbLive : BattleUnit → List Hit → List (List Absorption) × BattleUnit
  | u, [] => ([], u)
  | u, h :: rest =>
    let taken := u.absorb h.location h.damage h.impact []
    let (later, v) := absorbLive (u.takeDamage taken) rest
    (taken :: later, v)

lemma absorbLive_cons (u : BattleUnit) (h : Hit) (rest : List Hit) :
    u.absorbLive (h :: rest) =
      (u.absorb h.location h.damage h.impact [] ::
          ((u.takeDamage (u.absorb h.location h.damage h.impact [])).absorbLive rest).1,
        ((u.takeDamage (u.absorb h.location h.damage h.impact [])).absorbLive rest).2) := rfl

lemma absorbAll_cons (u : BattleUnit) (already : List Absorption) (h : Hit) (rest : List Hit) :
    u.absorbAll already (h :: rest) =
      u.absorb h.location h.damage h.impact already ++
        u.absorbAll (already ++ u.absorb h.location h.damage h.impact already) rest := rfl

lemma absorbAll_congr {v : BattleUnit} (h : ∀ l, u.part? l = v.part? l) (hits : List Hit)
    (already : List Absorption) : u.absorbAll already hits = v.absorbAll already hits := by
  induction hits generalizing already with
  | nil => rfl
  | cons hit rest ih => rw [absorbAll_cons, absorbAll_cons, absorb_congr h, ih]

/-- Hits that land together continue any ledger. -/
lemma ledger_absorbAll (home : u.HomeParts) (counted : u.Counted) (hits : List Hit)
    {already : List Absorption} (ledger : Ledger u already) :
    Ledger u (already ++ u.absorbAll already hits) := by
  induction hits generalizing already with
  | nil => rwa [absorbAll, absorbEach, List.flatten_nil, List.append_nil]
  | cons h rest ih =>
      rw [absorbAll_cons, ← List.append_assoc]
      exact ih (ledger_absorb ledger home counted h.location h.damage h.impact)

/-- After any ledger, the rest of the hits do the same both ways. -/
lemma absorbLive_after (home : u.HomeParts) (counted : u.Counted) (hits : List Hit)
    {already : List Absorption} (ledger : Ledger u already) :
    (u.takeDamage already).absorbLive hits =
      (u.absorbEach already hits, u.takeDamage (already ++ u.absorbAll already hits)) := by
  induction hits generalizing already with
  | nil => rw [absorbLive, absorbAll, absorbEach, List.flatten_nil, List.append_nil]
  | cons h rest ih =>
      have hlive := absorb_eq_live ledger home counted h.location h.damage h.impact
      have hnext := ledger_absorb ledger home counted h.location h.damage h.impact
      rw [absorbLive_cons, ← hlive, ← takeDamage_append, ih hnext, absorbAll_cons, absorbEach,
        List.append_assoc]

/-- **Hits that land together are hits one after the other.** Resolved on the
unchanged unit, each after all earlier ones, and applied at the end, they do
what they do when each is applied before the next: every hit records the same
absorptions, and the unit comes out the same. -/
theorem absorbLive_eq_batch (u : BattleUnit) (home : u.HomeParts) (counted : u.Counted)
    (hits : List Hit) :
    u.absorbLive hits = (u.absorbEach [] hits, u.takeDamage (u.absorbAll [] hits)) :=
  absorbLive_after home counted hits .nil

/-- A torso struck in front and from behind, burst from within, and reached
again through the arm beside it. -/
theorem absorbLive_eq_batch_torso :
    let u := ((blank 7 "Target" .mech 50).withPart (.intact .centerTorso 2 4 8)
      |>.withPart (.intact .leftTorso 3 2 5)).withPart (.intact .leftArm 2 0 3)
    let hits : List Hit := [⟨.leftTorso, 2, .hit .front⟩, ⟨.leftTorso, 3, .hit .rear⟩,
      ⟨.leftArm, 9, .hit .left⟩, ⟨.leftTorso, 4, .explosion⟩, ⟨.leftArm, 3, .hit .rear⟩]
    let after := u.takeDamage (u.absorbAll [] hits)
    u.HomeParts ∧ u.Counted ∧
      u.absorbEach [] hits =
        [[⟨.leftTorso, 2, 0, false, false⟩], [⟨.leftTorso, 2, 1, true, false⟩],
          [⟨.leftArm, 2, 3, false, true⟩, ⟨.leftTorso, 1, 3, false, false⟩],
          [⟨.leftTorso, 0, 1, false, true⟩, ⟨.centerTorso, 0, 3, false, false⟩],
          [⟨.centerTorso, 3, 0, true, false⟩]] ∧
      (after.parts.values.map fun p => (p.location, p.armor, p.rearArmor, p.internal)) =
        [(.centerTorso, 2, 1, 5), (.leftTorso, 0, 0, 0), (.leftArm, 0, 0, 0)] ∧
      after.phaseDamage = 21 ∧
      u.absorbLive hits = (u.absorbEach [] hits, after) := by
  intro u hits after
  have home : u.HomeParts := by decide
  have counted : u.Counted := by decide
  exact ⟨home, counted, by decide +kernel, by decide +kernel, by decide +kernel,
    absorbLive_eq_batch u home counted hits⟩

end BattleUnit

end MechBattle
