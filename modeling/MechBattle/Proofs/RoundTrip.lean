/-
A log is read back from its bytes.

Every record is put together from exact codecs, so its codec is exact, and the
values that fit it are those whose numbers lie in their ranges.

* `exact_…`, `fits_…`, record by record;
* `exact_log`, `fits_log`: the same for whole logs;
* `BattleLog.decode_encode_append`: a log of this form is read back from its
  bytes, whatever follows, and a log of another form is refused;
* `BattleLog.decode_prefix_free`: nothing else is read, neither another log from the same
  bytes nor a shorter one from some of them.
-/
import MechBattle.Log.Bytes
import MechBattle.Proofs.Range
import MechBattle.Proofs.Codecs

namespace MechBattle

namespace BattleLog.Form

open Codec

/-! ### Parts of events -/

lemma exact_byte : byte.Exact := exact_word 1

lemma exact_count : count.Exact := exact_word 4

lemma fits_byte (n : Nat) : byte.Fits n ↔ n < 2 ^ 8 := Iff.rfl

lemma fits_count (n : Nat) : count.Fits n ↔ n < 2 ^ 32 := Iff.rfl

lemma fits_counter (n : Int) : counter.Fits n ↔ Counter.Mem n := Iff.rfl

lemma fits_flag (b : Bool) : flag.Fits b := trivial

lemma fits_text (s : String) : text.Fits s ↔ Utf8.InRange s := Iff.rfl

lemma fits_option {α : Type} {c : Codec α} {P : α → Prop} (h : ∀ a, c.Fits a ↔ P a)
    (o : Option α) : c.option.Fits o ↔ ∀ a ∈ o, P a := by
  cases o with
  | none => simp [Codec.option]
  | some a => simp [Codec.option, h]

lemma fits_list {α : Type} {c : Codec α} {P : α → Prop} (h : ∀ a, c.Fits a ↔ P a)
    (as : List α) : c.list.Fits as ↔ ListInRange P as :=
  and_congr Iff.rfl (forall₂_congr fun a _ => h a)

lemma exact_location : location.Exact := exact_choice Location.nodup_all (by decide)

lemma fits_location (l : Location) : location.Fits l := Location.mem_all l

lemma exact_component : component.Exact := exact_choice (by decide) (by decide)

lemma fits_component (k : ComponentKind) : component.Fits k := by
  show k ∈ ComponentKind.all
  cases k <;> decide

lemma exact_dice : dice.Exact := (exact_byte.pair exact_byte).map (fun _ => rfl) fun _ => rfl

lemma fits_dice (d : TwoDice) : dice.Fits d ↔ d.InRange := Iff.rfl

lemma exact_side : side.Exact := exact_choice (by decide) (by decide)

lemma fits_side (s : Side) : side.Fits s := by
  show s ∈ [Side.front, .left, .right, .rear]
  cases s <;> decide

lemma exact_absorption : absorption.Exact :=
  (exact_location.pair (exact_counter.pair (exact_counter.pair
    (exact_flag.pair exact_flag)))).map (fun _ => rfl) fun _ => rfl

lemma fits_absorption (a : Absorption) : absorption.Fits a ↔ a.InRange := by
  simp only [absorption, Codec.map, Codec.pair, fits_location, fits_counter, fits_flag,
    Absorption.InRange, and_true, true_and]

/-! ### Attacks -/

/-- An alternative that is one value. -/
lemma exact_plain {β : Type} {b : β} {isIt : β → Bool} (h : ∀ x, isIt x = true ↔ x = b) :
    (plain b isIt).Exact where
  codec := exact_nothing
  make_content := by
    intro x a hx
    simp only [plain] at hx ⊢
    split at hx
    · next hit => exact ((h x).mp hit).symm
    · cases hx
  content_make := by
    intro a
    simp only [plain, (h b).mpr rfl, if_true]
    rfl

lemma exact_rangeBand : rangeBand.Exact := exact_choice (by decide) (by decide)

lemma fits_rangeBand (b : RangeBand) : rangeBand.Fits b := by
  show b ∈ [RangeBand.short, .medium, .long, .outOfRange]
  cases b <;> decide

lemma exact_terrain : terrain.Exact := by
  refine exact_oneOf ?_ ?_ (by decide)
  · simp only [List.forall_mem_cons, List.not_mem_nil, IsEmpty.forall_iff, implies_true, and_true]
    refine ⟨exact_plain fun _ => beq_iff_eq, exact_plain fun _ => beq_iff_eq,
      exact_plain fun _ => beq_iff_eq, exact_plain fun _ => beq_iff_eq, ⟨exact_byte, ?_, ?_⟩,
      exact_plain fun _ => beq_iff_eq⟩
    · intro t depth h
      cases t <;> cases h
      rfl
    · intro depth
      rfl
  · simp only [List.pairwise_cons, List.forall_mem_cons, List.not_mem_nil, IsEmpty.forall_iff,
      implies_true, and_true, List.Pairwise.nil]
    and_intros <;> intro a <;> rfl

lemma fits_terrain (t : Terrain) : terrain.Fits t ↔ t.InRange := by
  cases t <;> exact Iff.rfl

lemma exact_hex : hex.Exact := (exact_counter.pair exact_counter).map (fun _ => rfl) fun _ => rfl

lemma fits_hex (h : Hex) : hex.Fits h ↔ h.InRange := Iff.rfl

lemma exact_terrainItem : terrainItem.Exact :=
  (exact_hex.pair (exact_terrain.pair exact_counter)).map (fun _ => rfl) fun _ => rfl

lemma fits_terrainItem (i : TerrainItem) : terrainItem.Fits i ↔ i.InRange := by
  simp only [terrainItem, Codec.map, Codec.pair, fits_hex, fits_terrain, fits_counter,
    TerrainItem.InRange]

lemma exact_namedItem : namedItem.Exact :=
  (exact_text.pair exact_counter).map (fun _ => rfl) fun _ => rfl

lemma fits_namedItem (i : NamedItem) : namedItem.Fits i ↔ i.InRange := Iff.rfl

lemma exact_solution : solution.Exact :=
  (exact_counter.pair (exact_counter.pair (exact_counter.pair (exact_counter.pair
    (exact_rangeBand.pair (exact_counter.pair (exact_counter.pair (exact_terrainItem.list.pair
      (exact_counter.pair (exact_counter.pair (exact_counter.pair (exact_counter.pair
        (exact_namedItem.list.pair (exact_counter.pair (exact_flag.pair
          exact_flag))))))))))))))).map (fun _ => rfl) fun _ => rfl

lemma fits_solution (f : FiringSolution) : solution.Fits f ↔ f.InRange := by
  simp only [solution, Codec.map, Codec.pair, fits_counter, fits_rangeBand,
    fits_list fits_terrainItem, fits_list fits_namedItem, fits_flag, FiringSolution.InRange,
    and_true, true_and]

/-! ### Critical hits -/

lemma exact_slotHit : slotHit.Exact :=
  (exact_byte.pair (exact_component.option.pair exact_text.option)).map (fun _ => rfl)
    fun _ => rfl

lemma fits_slotHit (h : SlotHit) : slotHit.Fits h ↔ h.InRange := by
  have hcomponent := fits_option (fun k => iff_true_intro (fits_component k)) h.component
  simp only [slotHit, Codec.map, Codec.pair, fits_byte, hcomponent, implies_true,
    fits_option fits_text, SlotHit.InRange, true_and]

lemma exact_explosion : explosion.Exact :=
  (exact_component.pair (exact_text.pair (exact_byte.pair (exact_counter.pair
    exact_absorption.list)))).map (fun _ => rfl) fun _ => rfl

lemma fits_explosion (e : Explosion) : explosion.Fits e ↔ e.InRange := by
  simp only [explosion, Codec.map, Codec.pair, fits_component, fits_text, fits_byte,
    fits_counter, fits_list fits_absorption, Explosion.InRange, true_and]

lemma exact_criticalReport : criticalReport.Exact :=
  (exact_location.pair (exact_counter.pair (exact_byte.pair (exact_slotHit.list.pair
    exact_explosion.list)))).map (fun _ => rfl) fun _ => rfl

lemma fits_criticalReport (r : CriticalReport) : criticalReport.Fits r ↔ r.InRange := by
  simp only [criticalReport, Codec.map, Codec.pair, fits_location, fits_counter, fits_byte,
    fits_list fits_slotHit, fits_list fits_explosion, CriticalReport.InRange, true_and]

/-! ### Falls -/

lemma exact_fallStage : fallStage.Exact := exact_choice (by decide) (by decide)

lemma fits_fallStage (s : FallStage) : fallStage.Fits s := by
  show s ∈ [FallStage.idle, .causeCheck, .pilotingRoll, .falling, .injuryRoll, .done]
  cases s <;> decide

lemma exact_fallCause : fallCause.Exact := exact_choice (by decide) (by decide)

lemma fits_fallCause (c : FallCause) : fallCause.Fits c := by
  show c ∈ FallCause.all
  cases c <;> decide

lemma exact_checkReason : checkReason.Exact := by
  refine exact_oneOf ?_ ?_ (by decide)
  · simp only [List.forall_mem_cons, List.not_mem_nil, IsEmpty.forall_iff, implies_true, and_true]
    refine ⟨exact_plain fun _ => beq_iff_eq, exact_plain fun _ => beq_iff_eq,
      exact_plain fun _ => beq_iff_eq, exact_plain fun _ => beq_iff_eq, ⟨exact_count, ?_, ?_⟩⟩
    · intro reason levels h
      cases reason <;> cases h
      rfl
    · intro levels
      rfl
  · simp only [List.pairwise_cons, List.forall_mem_cons, List.not_mem_nil, IsEmpty.forall_iff,
      implies_true, and_true, List.Pairwise.nil]
    and_intros <;> intro a <;> rfl

lemma fits_checkReason (r : CheckReason) : checkReason.Fits r ↔ r.InRange := by
  cases r <;> exact Iff.rfl

lemma exact_pilotingFactor : pilotingFactor.Exact := exact_choice (by decide) (by decide)

lemma fits_pilotingFactor (f : PilotingFactor) : pilotingFactor.Fits f := by
  show f ∈ [PilotingFactor.gyroHit, .damagedGyro, .hipHit, .legActuatorHit, .destroyedHip,
    .destroyedLegActuator, .destroyedLeg, .heavyDamage, .pilotWound, .fallLevel, .roughTerrain,
    .rubble]
  cases f <;> decide

lemma exact_checkModifier : checkModifier.Exact :=
  (exact_pilotingFactor.pair (exact_text.pair exact_counter)).map (fun _ => rfl) fun _ => rfl

lemma fits_checkModifier (m : CheckModifier) : checkModifier.Fits m ↔ m.InRange := by
  simp only [checkModifier, Codec.map, Codec.pair, fits_pilotingFactor, fits_text, fits_counter,
    CheckModifier.InRange, true_and]

lemma exact_pilotingCheck : pilotingCheck.Exact :=
  (exact_checkReason.list.pair (exact_counter.pair (exact_checkModifier.list.pair
    (exact_counter.pair exact_flag)))).map (fun _ => rfl) fun _ => rfl

lemma fits_pilotingCheck (c : PilotingCheck) : pilotingCheck.Fits c ↔ c.InRange := by
  simp only [pilotingCheck, Codec.map, Codec.pair, fits_list fits_checkReason, fits_counter,
    fits_list fits_checkModifier, fits_flag, PilotingCheck.InRange, and_true]

lemma exact_checkOutcome : checkOutcome.Exact :=
  (exact_counter.pair (exact_dice.option.pair exact_flag)).map (fun _ => rfl) fun _ => rfl

lemma fits_checkOutcome (o : CheckOutcome) : checkOutcome.Fits o ↔ o.InRange := by
  simp only [checkOutcome, Codec.map, Codec.pair, fits_counter, fits_option fits_dice, fits_flag,
    CheckOutcome.InRange, and_true]

lemma exact_damageCluster : damageCluster.Exact :=
  (exact_counter.pair (exact_dice.pair exact_location)).map (fun _ => rfl) fun _ => rfl

lemma fits_damageCluster (c : DamageCluster) : damageCluster.Fits c ↔ c.InRange := by
  simp only [damageCluster, Codec.map, Codec.pair, fits_counter, fits_dice, fits_location,
    DamageCluster.InRange, and_true]

lemma exact_facing : facing.Exact := exact_byte.map (fun _ => rfl) fun _ => rfl

lemma fits_facing (f : Facing) : facing.Fits f ↔ f.index < 2 ^ 8 := Iff.rfl

lemma exact_landing : landing.Exact :=
  (exact_counter.pair (exact_byte.pair (exact_facing.pair (exact_side.pair
    (exact_damageCluster.list.pair (exact_dice.option.pair exact_flag)))))).map (fun _ => rfl)
      fun _ => rfl

lemma fits_landing (l : Landing) : landing.Fits l ↔ l.InRange := by
  simp only [landing, Codec.map, Codec.pair, fits_counter, fits_byte, fits_facing, fits_side,
    fits_list fits_damageCluster, fits_option fits_dice, fits_flag, Landing.InRange, and_true,
    true_and]

lemma exact_fallReport : fallReport.Exact :=
  (exact_text.pair (exact_count.pair (exact_fallStage.list.pair (exact_fallCause.pair
    (exact_pilotingCheck.pair (exact_checkOutcome.pair (exact_landing.option.pair
      (exact_absorption.list.pair (exact_pilotingCheck.option.pair
        exact_checkOutcome.option))))))))).map (fun _ => rfl) fun _ => rfl

lemma fits_fallReport (r : FallReport) : fallReport.Fits r ↔ r.InRange := by
  have hstages : fallStage.list.Fits r.stages ↔ r.stages.length < 2 ^ 64 :=
    and_iff_left fun s _ => fits_fallStage s
  simp only [fallReport, Codec.map, Codec.pair, fits_text, fits_count, hstages,
    fits_fallCause, fits_pilotingCheck, fits_checkOutcome, fits_option fits_landing,
    fits_list fits_absorption, fits_option fits_pilotingCheck, fits_option fits_checkOutcome,
    FallReport.InRange, true_and]

/-! ### Heat and consciousness -/

lemma exact_shutdownCheck : shutdownCheck.Exact :=
  (exact_count.pair (exact_count.pair (exact_counter.pair (exact_counter.option.pair
    (exact_dice.option.pair (exact_flag.pair exact_flag)))))).map (fun _ => rfl) fun _ => rfl

lemma fits_shutdownCheck (c : ShutdownCheck) : shutdownCheck.Fits c ↔ c.InRange := by
  simp only [shutdownCheck, Codec.map, Codec.pair, fits_count, fits_counter,
    fits_option fits_counter, fits_option fits_dice, fits_flag, ShutdownCheck.InRange, and_true]

lemma exact_cookOffCheck : cookOffCheck.Exact :=
  (exact_count.pair (exact_count.pair (exact_counter.pair (exact_counter.pair (exact_dice.pair
    (exact_location.pair (exact_byte.pair (exact_text.pair
      (exact_counter.pair exact_flag))))))))).map (fun _ => rfl) fun _ => rfl

lemma fits_cookOffCheck (c : CookOffCheck) : cookOffCheck.Fits c ↔ c.InRange := by
  simp only [cookOffCheck, Codec.map, Codec.pair, fits_count, fits_counter, fits_dice,
    fits_location, fits_byte, fits_text, fits_flag, CookOffCheck.InRange, and_true, true_and]

lemma exact_consciousnessRoll : consciousnessRoll.Exact :=
  (exact_counter.pair (exact_dice.pair (exact_flag.pair exact_flag))).map (fun _ => rfl)
    fun _ => rfl

lemma fits_consciousnessRoll (r : ConsciousnessRoll) :
    consciousnessRoll.Fits r ↔ r.InRange := by
  simp only [consciousnessRoll, Codec.map, Codec.pair, fits_counter, fits_dice, fits_flag,
    ConsciousnessRoll.InRange, and_true]

/-! ### Events and logs -/

lemma exact_event : event.Exact := by
  refine exact_oneOf ?_ ?_ (by decide)
  · simp only [List.forall_mem_cons, List.not_mem_nil, IsEmpty.forall_iff, implies_true, and_true]
    refine ⟨⟨exact_count.pair (exact_count.pair (exact_solution.pair exact_dice.option)), ?_,
        fun _ => rfl⟩,
      ⟨exact_count.pair exact_absorption.list, ?_, fun _ => rfl⟩,
      ⟨exact_count.pair exact_criticalReport.list, ?_, fun _ => rfl⟩,
      ⟨exact_fallReport, ?_, fun _ => rfl⟩, ⟨exact_shutdownCheck, ?_, fun _ => rfl⟩,
      ⟨exact_cookOffCheck, ?_, fun _ => rfl⟩,
      ⟨exact_count.pair exact_consciousnessRoll.list, ?_, fun _ => rfl⟩⟩
    all_goals
      intro e content h
      cases e <;> cases h
      rfl
  · simp only [List.pairwise_cons, List.forall_mem_cons, List.not_mem_nil, IsEmpty.forall_iff,
      implies_true, and_true, List.Pairwise.nil]
    and_intros <;> intro a <;> rfl

lemma fits_event (e : BattleEvent) : event.Fits e ↔ e.InRange := by
  cases e with
  | attack attacker target solution roll =>
      exact and_congr_right' (and_congr_right' (and_congr (fits_solution solution)
        (fits_option fits_dice roll)))
  | damage unit taken => exact and_congr_right' (fits_list fits_absorption taken)
  | criticals unit reports => exact and_congr_right' (fits_list fits_criticalReport reports)
  | fall report => exact fits_fallReport report
  | shutdown check => exact fits_shutdownCheck check
  | cookOff check => exact fits_cookOffCheck check
  | consciousness unit rolls =>
      exact and_congr_right' (fits_list fits_consciousnessRoll rolls)

lemma exact_entry : entry.Exact :=
  (exact_count.pair exact_event).map (fun _ => rfl) fun _ => rfl

lemma fits_entry (e : LogEntry) : entry.Fits e ↔ e.InRange := by
  simp only [entry, Codec.map, Codec.pair, fits_count, fits_event, LogEntry.InRange]

/-- **A log is read back from its bytes**, and only from them. -/
lemma exact_log : log.Exact :=
  (exact_count.pair (exact_text.pair ((exact_word 8).option.pair exact_entry.list))).map
    (fun _ => rfl) fun _ => rfl

lemma fits_log (l : BattleLog) : log.Fits l ↔ l.InRange := by
  have hseed : ∀ n, (word 8).Fits n ↔ n < 2 ^ 64 := fun _ => Iff.rfl
  simp only [log, Codec.map, Codec.pair, fits_count, fits_text, fits_option hseed,
    fits_list fits_entry, BattleLog.InRange]

end BattleLog.Form

namespace BattleLog

/-- **Reading undoes writing.** From the bytes of a log, and whatever follows
them, the log is read back if it is of this form, and refused for its form
otherwise. -/
theorem decode_encode_append (log : BattleLog) (inRange : log.InRange) (rest : List UInt8) :
    decode (log.encode ++ rest) =
      if log.version = logVersion then .ok log else .error (.version log.version) := by
  have hread : Form.log.read (log.encode ++ rest) = .ok (log, rest) :=
    Form.exact_log.lawful log rest ((Form.fits_log log).mpr inRange)
  rw [decode, hread]

/-- A log with an event of every kind: a shot through woods, the critical hit
that sets off a bin, the fall after it, and what heat and wounds do. -/
theorem decode_encode_append_every_kind :
    let spread : List Absorption := [⟨.leftTorso, 0, 6, false, true⟩]
    let solution : FiringSolution := ⟨4, 1, 2, 7, .medium, 2, 0, [⟨⟨1, -7⟩, .lightWoods, 1⟩,
      ⟨⟨0, -7⟩, .water 2, 0⟩], 1, 0, 0, 0, [⟨"prone", -2⟩], 9, false, true⟩
    let check : PilotingCheck :=
      ⟨[.gyroHit, .fallInjury 3], 5, [⟨.gyroHit, "Gyro hit", 3⟩], 8, false⟩
    let landing : Landing :=
      ⟨6, 4, ⟨9⟩, .rear, [⟨5, ⟨3, 4⟩, .centerTorso⟩, ⟨1, ⟨6, 6⟩, .head⟩], some ⟨5, 6⟩, true⟩
    let fall : FallReport := ⟨"third game ≥ 2", 7, [.idle, .causeCheck, .done], .gyroHit, check,
      ⟨8, some ⟨1, 2⟩, false⟩, some landing, spread, some check, some ⟨13, none, false⟩⟩
    let log : BattleLog :=
      { game := "third game ≥ 2"
        seed := some 18446744073709551615
        entries :=
          [⟨1, .attack 7 9 solution (some ⟨4, 5⟩)⟩, ⟨1, .damage 9 spread⟩,
            ⟨1, .criticals 9 [⟨.leftTorso, 8, 1, [⟨2, some .ammo, some "Bin"⟩],
              [⟨.ammo, "Bin", 2, 6, spread⟩]⟩]⟩,
            ⟨2, .fall fall⟩, ⟨2, .shutdown ⟨7, 2, 31, none, none, true, true⟩⟩,
            ⟨2, .cookOff ⟨7, 2, 24, 6, ⟨1, 1⟩, .rightArm, 3, "Bin", -2147483648, true⟩⟩,
            ⟨4294967295, .consciousness 7 [⟨5, ⟨2, 2⟩, false, false⟩]⟩] }
    log.InRange ∧ decode (log.encode ++ [255, 0]) = .ok log ∧
      decode ({ log with version := 2 }.encode ++ [255, 0]) = .error (.version 2) := by
  intro spread solution check landing fall log
  have inRange : log.InRange := by decide +kernel
  have laterInRange : ({ log with version := 2 } : BattleLog).InRange := by decide +kernel
  exact ⟨inRange, decode_encode_append log inRange _, decode_encode_append _ laterInRange _⟩

/-- Bytes are read as a log just when they begin with what is written for it. -/
lemma decode_eq_ok_iff {bytes : List UInt8} {log : BattleLog} :
    decode bytes = .ok log ↔
      log.InRange ∧ log.version = logVersion ∧ log.encode <+: bytes := by
  rw [decode]
  constructor
  · intro h
    split at h
    · cases h
    · next found rest hread =>
        obtain ⟨hfits, rfl⟩ := Form.exact_log.read_eq_ok_iff.mp hread
        split at h
        · next hversion =>
            obtain rfl := Except.ok.inj h
            exact ⟨(Form.fits_log _).mp hfits, hversion, List.prefix_append _ rest⟩
        · cases h
  · rintro ⟨inRange, hversion, rest, rfl⟩
    have hread : Form.log.read (log.encode ++ rest) = .ok (log, rest) :=
      Form.exact_log.read_eq_ok_iff.mpr ⟨(Form.fits_log log).mpr inRange, rfl⟩
    rw [hread]
    exact if_pos hversion

/-- **The bytes of a log are its own.** Bytes are read as a log just when they begin with
what is written for it, so only what follows is passed over. They begin with what is
written for one log at most, and what is written for a log, of whatever form, is
unreadable when some of it is missing at the end. -/
theorem decode_prefix_free :
    (∀ bytes (log : BattleLog), decode bytes = .ok log ↔
      log.InRange ∧ log.version = logVersion ∧ log.encode <+: bytes) ∧
    (∀ bytes (log other : BattleLog), log.InRange → other.InRange →
      log.encode <+: bytes → other.encode <+: bytes → log = other) ∧
    ∀ log : BattleLog, log.InRange → ∀ front, front <+: log.encode → front ≠ log.encode →
      ∃ fault, decode front = .error (.unreadable fault) := by
  refine ⟨fun _ _ => decode_eq_ok_iff, ?_, ?_⟩
  · intro bytes log other inRange inRange' hfront hfront'
    exact Form.exact_log.eq_of_prefix ((Form.fits_log log).mpr inRange)
      ((Form.fits_log other).mpr inRange') hfront hfront'
  · intro log inRange front hfront hshort
    obtain ⟨fault, hfault⟩ :=
      Form.exact_log.read_cut ((Form.fits_log log).mpr inRange) hfront hshort
    exact ⟨fault, by rw [decode, hfault]⟩

/-- A log of two entries: without its last byte it is unreadable, and with one more byte it
is the same log. -/
theorem decode_prefix_free_two_entries :
    let log : BattleLog :=
      { game := "Duel"
        seed := none
        entries := [⟨1, .damage 9 [⟨.leftArm, 3, 0, false, false⟩]⟩, ⟨2, .damage 7 []⟩] }
    log.InRange ∧ decode (log.encode ++ [1]) = .ok log ∧
      ∃ fault, decode log.encode.dropLast = .error (.unreadable fault) := by
  intro log
  have inRange : log.InRange := by decide +kernel
  obtain ⟨hdecode, -, hcut⟩ := decode_prefix_free
  refine ⟨inRange, (hdecode _ log).mpr ⟨inRange, rfl, List.prefix_append _ _⟩, ?_⟩
  exact hcut log inRange _ (List.dropLast_prefix _) (by decide +kernel)

end BattleLog

end MechBattle
