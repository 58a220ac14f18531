/-
Units and pilots through whole battles, whatever orders are given and whatever the dice
show.

Orders lead every unit along a course, so what holds along courses holds in battles:
units only wear, and no component explodes twice in all the reports of a log. Orders are
also all that happens to pilots, one trial at a time.

* `condition_of_battle`, `explosions_of_battle`: units along their courses;
* `Career.Led`: a trial of the pilot, if an order brings one, with
  `exists_career_of_perform`: an order leads every pilot on;
* `life_of_battle`: wounds, queue and state of every pilot agree.
-/
import MechBattle.Proofs.Condition
import MechBattle.Proofs.Explosions
import MechBattle.Proofs.LifeCycle
import MechBattle.Proofs.Orders

namespace MechBattle

open Rolls

/-! ### Units along their courses -/

namespace Course

variable {c d : Course}

lemma sound_of_led (h : Relation.ReflTransGen Led c d) (sound : c.Sound) :
    d.Sound ∧ c.unit.Partwise BodyPart.Wears d.unit := by
  refine led_induction (P := fun d => d.Sound ∧ c.unit.Partwise BodyPart.Wears d.unit) ?_ ?_ h
    ⟨sound, .refl BodyPart.Wears.refl _⟩
  · rintro d e ⟨hd, hwears⟩ hstep
    obtain ⟨he, hmore⟩ := sound_of_step hstep hd
    exact ⟨he, hwears.trans BodyPart.Wears.trans hmore⟩
  · rintro d pilot shutdown ⟨hd, hwears⟩
    exact ⟨⟨⟨hd.wellFormed.parts, hd.wellFormed.facing⟩, hd.counted⟩,
      hwears.trans BodyPart.Wears.trans (.of_parts_eq BodyPart.Wears.refl rfl)⟩

lemma fair_of_led (h : Relation.ReflTransGen Led c d) (sound : c.Sound) (fair : c.Fair) :
    d.Fair := by
  refine (led_induction (P := fun d => d.Sound ∧ d.Fair) ?_ ?_ h ⟨sound, fair⟩).2
  · rintro d e ⟨hd, hfair⟩ hstep
    exact ⟨(sound_of_step hstep hd).1, fair_of_step hstep hd hfair⟩
  · rintro d pilot shutdown ⟨hd, n, hn, hbalanced, hopening⟩
    exact ⟨⟨⟨hd.wellFormed.parts, hd.wellFormed.facing⟩, hd.counted⟩,
      n, hn, ⟨hbalanced.phaseDamage_nonneg, hbalanced.total⟩, hopening⟩

lemma recorded_of_led {u : BattleUnit} (home : u.HomeParts) (apart : u.Apart)
    (h : Relation.ReflTransGen Led c d) (hc : c.Recorded u) : d.Recorded u :=
  led_induction (fun _ _ hc hstep => recorded_of_step home apart hc hstep)
    (fun _ _ _ hc => hc.of_sameEquipment (.of_parts_eq BodyPart.SameEquipment.refl rfl) rfl) h hc

end Course

section

variable {σ : Type} [DiceSource σ] {b b' : Battle} {orders : List (UnitId × Order)}
  {dice rest : σ} (h : (b.run orders).run dice = (some b', rest)) {k : UnitId} {u : BattleUnit}
  (hu : b.units.get? k = some u)
include h hu

/-- **Units only wear.** A well-formed unit stays so in any battle, and nothing of it is
ever repaired. As long as its points are no more than a counter can hold, the damage of
its phase never makes up more with what is left. -/
theorem condition_of_battle (wf : u.WellFormed) (counted : u.Counted) :
    ∃ v, b'.units.get? k = some v ∧ v.WellFormed ∧ v.Counted ∧
      u.Partwise BodyPart.Wears v ∧
      (0 ≤ u.phaseDamage → u.phaseDamage + u.points ≤ Counter.greatest →
        0 ≤ v.phaseDamage ∧ v.phaseDamage + v.points ≤ Counter.greatest) := by
  let c : Course := { opening := u, unit := u, reports := b.log.reportsOn k }
  have hshows : b.Shows k c := ⟨hu, rfl⟩
  have sound : c.Sound := ⟨wf, counted⟩
  obtain ⟨d, hled, hd⟩ := hshows.of_run (yields_of_run h)
  obtain ⟨hsound, hwears⟩ := Course.sound_of_led hled sound
  refine ⟨d.unit, hd.unit, hsound.wellFormed, hsound.counted, hwears, fun hnonneg hsmall => ?_⟩
  have fair : c.Fair := ⟨_, hsmall, ⟨hnonneg, rfl⟩, rfl⟩
  obtain ⟨n, hn, hbalanced, -⟩ := Course.fair_of_led hled sound fair
  exact ⟨hbalanced.phaseDamage_nonneg, hbalanced.total.trans_le hn⟩

/-- **No component explodes twice in a battle.** All explosions of a unit on the log are
those of different components. Whatever the log tells was struck is destroyed, and
nothing that is destroyed can explode. -/
theorem explosions_of_battle (home : u.HomeParts) (apart : u.Apart) (spent : u.Spent)
    (untold : b.log.reportsOn k = []) :
    ∃ v, b'.units.get? k = some v ∧ u.Partwise BodyPart.Kept v ∧ v.Spent ∧
      ((b'.log.reportsOn k).flatMap u.bursts).Nodup ∧
      ∀ r ∈ b'.log.reportsOn k, ∀ hit ∈ r.hits, ∀ j, u.indexAt? r.location hit.slot = some j →
        ∃ c, v.fitted? r.location j = some c ∧ c.destroyed = true := by
  have hshows : b.Shows k (.start u) := ⟨hu, untold⟩
  obtain ⟨d, hled, hd⟩ := hshows.of_run (yields_of_run h)
  have hrecorded := Course.recorded_of_led home apart hled (Course.recorded_start spent)
  refine ⟨d.unit, hd.unit, hrecorded.kept, hrecorded.spent, ?_, ?_⟩
  · rw [hd.reports]
    exact hrecorded.nodup
  · rw [hd.reports]
    exact hrecorded.struck

end

/-! ### Pilots along their careers -/

namespace Career

variable {rules : Rules} {id : UnitId} {c d : Career} {u v : BattleUnit}
  {events : List BattleEvent}

/-- A trial, or none. -/
inductive Led (rules : Rules) (c : Career) : Career → Prop
  | idle : Led rules c c
  | trial {d : Career} (t : Trial) (h : (c.go rules t).Yields d) : Led rules c d

/-- What is logged leads the pilot on. -/
lemma led_of_logged (h : u.Logged rules id events v) (hp : u.pilot = some c.pilot) :
    ∃ d, c.Led rules d ∧ v.pilot = some d.pilot := by
  cases h with
  | nothing | attack | shutdown | cookOff => exact ⟨c, .idle, hp⟩
  | hits hits =>
      obtain ⟨parts, phaseDamage, hdamage⟩ := u.exists_takeDamage_eq (u.absorbAll [] hits)
      rw [hdamage]
      exact ⟨c, .idle, hp⟩
  | @criticals rolls | @burst _ rolls =>
      obtain ⟨parts, phaseDamage, hdamage⟩ := u.exists_takeCriticals_eq (u.strikeAll {} rolls)
      rw [hdamage]
      exact ⟨c, .idle, hp⟩
  | fall own falls =>
      rw [BattleUnit.pilot_takeFall]
      split
      · rw [hp]
        exact ⟨c.hurt rules 1, .trial (.hits 1) (yields_pure.mpr rfl), rfl⟩
      · exact ⟨c, .idle, hp⟩
  | consciousness hpilot rolled =>
      obtain rfl := Option.some.inj (hp.symm.trans hpilot)
      cases rolled with
      | wake hchecks =>
          exact ⟨_, .trial .wake (yields_bind.mpr ⟨_, hchecks, yields_pure.mpr rfl⟩), rfl⟩
      | recover hfound =>
          exact ⟨_, .trial .recover (yields_bind.mpr ⟨_, hfound, yields_pure.mpr rfl⟩), rfl⟩

/-- What is not logged leads the pilot on, too. -/
lemma led_of_unlogged (h : u.Unlogged rules v) (hp : u.pilot = some c.pilot) :
    ∃ d, c.Led rules d ∧ v.pilot = some d.pilot := by
  cases h with
  | phase | restart => exact ⟨c, .idle, hp⟩
  | wound hits =>
      rw [BattleUnit.woundPilot, hp]
      exact ⟨c.hurt rules hits, .trial (.hits hits) (yields_pure.mpr rfl), rfl⟩

/-- A trial keeps the account, and the dead as they are. -/
lemma accounted_of_led (sound : rules.Sound) (counted : rules.lethalWounds ≤ Pilot.woundLimit)
    (h : c.Accounted rules) (hled : c.Led rules d) :
    d.Accounted rules ∧ (c.pilot.dead = true → d = c) := by
  cases hled with
  | idle => exact ⟨h, fun _ => rfl⟩
  | trial t hgo =>
      refine ⟨accounted_of_go sound counted h hgo, fun dead => ?_⟩
      rw [go_of_dead h dead] at hgo
      exact yields_pure.mp hgo

end Career

/-- **An order leads every pilot on**, whatever the dice show. -/
lemma Battle.exists_career_of_perform {b : Battle} {id k : UnitId} {order : Order}
    {performed : Performed} {u : BattleUnit} {c : Career} (hu : b.units.get? k = some u)
    (hp : u.pilot = some c.pilot) (h : (b.perform id order).Yields performed) :
    performed.1.rules = b.rules ∧ ∃ v d, performed.1.units.get? k = some v ∧
      v.pilot = some d.pilot ∧ c.Led b.rules d := by
  obtain rfl | ⟨w, hw, events, v, hfollows, hway, -⟩ := outcome_of_perform h
  · exact ⟨rfl, u, c, hu, hp, .idle⟩
  · refine ⟨hfollows.rules, ?_⟩
    rw [hfollows.units]
    split
    · next hk =>
        subst hk
        obtain rfl := Option.some.inj (hu.symm.trans hw)
        obtain hlogged | ⟨-, -, hunlogged⟩ := hway
        · obtain ⟨d, hled, hd⟩ := Career.led_of_logged hlogged hp
          exact ⟨v, d, rfl, hd, hled⟩
        · obtain ⟨d, hled, hd⟩ := Career.led_of_unlogged hunlogged hp
          exact ⟨v, d, rfl, hd, hled⟩
    · exact ⟨u, c, hu, hp, .idle⟩

/-- **The account of a pilot holds in any battle**: the dead have all lethal wounds and
stay as they are, and the queue of the living holds the numbers of their last wounds,
oldest first. -/
theorem life_of_battle {σ : Type} [DiceSource σ] {b b' : Battle}
    {orders : List (UnitId × Order)} {dice rest : σ}
    (h : (b.run orders).run dice = (some b', rest)) {k : UnitId} {u : BattleUnit}
    (hu : b.units.get? k = some u) {c : Career} (hp : u.pilot = some c.pilot)
    (sound : b.rules.Sound) (counted : b.rules.lethalWounds ≤ Pilot.woundLimit)
    (account : c.Accounted b.rules) :
    ∃ v d, b'.units.get? k = some v ∧ v.pilot = some d.pilot ∧ d.Accounted b.rules ∧
      (c.pilot.dead = true → d = c) := by
  refine (Battle.run_induction (P := fun e => e.rules = b.rules ∧ ∃ v d,
    e.units.get? k = some v ∧ v.pilot = some d.pilot ∧ d.Accounted b.rules ∧
      (c.pilot.dead = true → d = c)) ?_ (yields_of_run h)
    ⟨rfl, u, c, hu, hp, account, fun _ => rfl⟩).2
  rintro e id order performed - ⟨hrules, v, d, hv, hd, haccount, hdead⟩ hperform
  obtain ⟨hsame, w, f, hw, hf, hled⟩ := Battle.exists_career_of_perform hv hd hperform
  rw [hrules] at hsame hled
  obtain ⟨hlast, hstill⟩ := Career.accounted_of_led sound counted haccount hled
  refine ⟨hsame, w, f, hw, hf, hlast, fun dead => ?_⟩
  obtain rfl := hdead dead
  exact hstill dead

end MechBattle
