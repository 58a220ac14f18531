/-
Which faces a rule takes, and how many.

A rule asks for one face after the other, and what it has seen so far decides whether it
goes on. What it comes to often tells how many faces that were.

* `Rolls.Reads`: what a rule comes to on given faces, none of them too many, with one equation
  for each way to put rules together;
* `DiceSource.Offers`: what a source yields, with `run_eq_some_iff`: a run reads the faces
  that its source offers;
* `Rolls.Draws`: what a rule can come to and how many faces it takes, with `draws_of_run` and
  the same equations for the numbers alone;
* `draws_mapM`: a rule played for each of some values takes the faces of all of them.
-/
import Mathlib.Tactic
import MechBattle.Dice.Rolls

namespace MechBattle

universe u v

/-- Whether a source yields these faces, one after the other, and what it leaves. -/
inductive DiceSource.Offers {σ : Type v} [DiceSource σ] : σ → List Face → σ → Prop
  | nil (s : σ) : Offers s [] s
  | cons {s t rest : σ} {x : Face} {faces : List Face} (first : DiceSource.next s = some (x, t))
      (later : Offers t faces rest) : Offers s (x :: faces) rest

/-- What a source yields is yielded part by part. -/
lemma DiceSource.offers_append {σ : Type v} [DiceSource σ] {s t : σ} {front back : List Face} :
    Offers s (front ++ back) t ↔ ∃ between, Offers s front between ∧ Offers between back t := by
  constructor
  · intro h
    induction front generalizing s with
    | nil => exact ⟨s, .nil s, h⟩
    | cons x front ih =>
        obtain _ | ⟨first, later⟩ := h
        obtain ⟨between, hfront, hback⟩ := ih later
        exact ⟨between, .cons first hfront, hback⟩
  · rintro ⟨between, hfront, hback⟩
    induction hfront with
    | nil => exact hback
    | cons first _ ih => exact .cons first (ih hback)

namespace Rolls

variable {α β : Type u} {n : Nat} {faces : List Face}

/-! ### The faces themselves -/

/-- Whether a rule comes to a result on these faces, and takes all of them. -/
inductive Reads : Rolls α → List Face → α → Prop
  | done (a : α) : Reads (done a) [] a
  | roll {next : Face → Rolls α} {x : Face} {faces : List Face} {a : α}
      (rest : Reads (next x) faces a) : Reads (roll next) (x :: faces) a

/-- **A run reads the faces that its source offers.** -/
lemma run_eq_some_iff {σ : Type v} [DiceSource σ] {m : Rolls α} {a : α} {s t : σ} :
    m.run s = (some a, t) ↔ ∃ faces, m.Reads faces a ∧ DiceSource.Offers s faces t := by
  induction m generalizing s with
  | done b =>
      constructor
      · rintro ⟨⟩
        exact ⟨[], .done _, .nil _⟩
      · rintro ⟨_, ⟨⟩, ⟨⟩⟩
        rfl
  | roll next ih =>
      rw [run]
      constructor
      · intro h
        split at h
        · cases h
        · next x rest hnext =>
            obtain ⟨faces, hreads, hoffers⟩ := (ih x).mp h
            exact ⟨x :: faces, .roll hreads, .cons hnext hoffers⟩
      · rintro ⟨_, _ | ⟨hreads⟩, _ | ⟨hnext, hoffers⟩⟩
        rw [hnext]
        exact (ih _).mpr ⟨_, hreads, hoffers⟩

lemma reads_of_run {σ : Type v} [DiceSource σ] {m : Rolls α} {a : α} {s t : σ}
    (h : m.run s = (some a, t)) : m.Reads (m.trace s) a := by
  induction m generalizing s with
  | done b =>
      cases h
      exact .done _
  | roll next ih =>
      rw [run] at h
      rw [trace]
      split at h
      · cases h
      · next x rest _ => exact .roll (ih x h)

/-- The faces that a rule reads are those that it draws. -/
lemma trace_eq_of_reads {σ : Type v} [DiceSource σ] {m : Rolls α} {a : α} {s t : σ}
    (h : m.Reads faces a) (offers : DiceSource.Offers s faces t) : m.trace s = faces := by
  induction h generalizing s with
  | done a => rfl
  | roll _ ih =>
      obtain _ | ⟨hnext, hoffers⟩ := offers
      rw [trace, hnext]
      exact congrArg _ (ih hoffers)

lemma reads_pure {a b : α} : (pure a : Rolls α).Reads faces b ↔ faces = [] ∧ b = a := by
  constructor
  · rintro ⟨⟩
    exact ⟨rfl, rfl⟩
  · rintro ⟨rfl, rfl⟩
    exact .done b

lemma reads_bind {m : Rolls α} {f : α → Rolls β} {b : β} :
    (m >>= f).Reads faces b ↔
      ∃ front back a, m.Reads front a ∧ (f a).Reads back b ∧ faces = front ++ back := by
  rw [bind_eq]
  induction m generalizing faces with
  | done a =>
      constructor
      · intro h
        exact ⟨[], faces, a, .done a, h, rfl⟩
      · rintro ⟨_, back, _, ⟨⟩, h, rfl⟩
        exact h
  | roll next ih =>
      constructor
      · rintro (_ | ⟨h⟩)
        obtain ⟨front, back, a, ha, hb, rfl⟩ := (ih _).mp h
        exact ⟨_ :: front, back, a, .roll ha, hb, rfl⟩
      · rintro ⟨_, back, a, _ | ⟨ha⟩, hb, rfl⟩
        exact .roll ((ih _).mpr ⟨_, back, a, ha, hb, rfl⟩)

lemma reads_d6 {x : Face} : d6.Reads faces x ↔ faces = [x] := by
  constructor
  · rintro (_ | ⟨_ | _⟩)
    rfl
  · rintro rfl
    exact .roll (.done x)

lemma reads_twoDice {d : TwoDice} :
    twoDice.Reads faces d ↔ ∃ x y, faces = [x, y] ∧ d = .ofFaces x y := by
  simp only [twoDice, reads_bind, reads_d6, reads_pure]
  constructor
  · rintro ⟨_, _, x, rfl, ⟨_, _, y, rfl, ⟨rfl, rfl⟩, rfl⟩, rfl⟩
    exact ⟨x, y, rfl, rfl⟩
  · rintro ⟨x, y, rfl, rfl⟩
    exact ⟨[x], [y], x, rfl, ⟨[y], [], y, rfl, ⟨rfl, rfl⟩, rfl⟩, rfl⟩

/-- A rule played for each of some values reads the faces block by block. -/
lemma reads_mapM {γ : Type u} {f : γ → Rolls β} {xs : List γ} {ys : List β} :
    (xs.mapM f).Reads faces ys ↔ ∃ plays : List (List Face × β),
      faces = (plays.map Prod.fst).flatten ∧ ys = plays.map Prod.snd ∧
        List.Forall₂ (fun x play => (f x).Reads play.1 play.2) xs plays := by
  induction xs generalizing faces ys with
  | nil =>
      rw [List.mapM_nil, reads_pure]
      constructor
      · rintro ⟨rfl, rfl⟩
        exact ⟨[], rfl, rfl, .nil⟩
      · rintro ⟨_, rfl, rfl, ⟨⟩⟩
        exact ⟨rfl, rfl⟩
  | cons x rest ih =>
      simp only [List.mapM_cons, reads_bind, reads_pure, ih]
      constructor
      · rintro ⟨front, _, y, hy, ⟨_, _, _, ⟨plays, rfl, rfl, hplays⟩, ⟨rfl, rfl⟩, rfl⟩, rfl⟩
        exact ⟨(front, y) :: plays, by simp, rfl, .cons hy hplays⟩
      · rintro ⟨_, rfl, rfl, hplays⟩
        obtain _ | ⟨hplay, hplays⟩ := hplays
        exact ⟨_, _, _, hplay, ⟨_, [], _, ⟨_, rfl, rfl, hplays⟩, ⟨rfl, rfl⟩, rfl⟩, by simp⟩

/-- A rule played so many times reads as many blocks of faces. -/
lemma reads_mapM_const {γ : Type u} {m : Rolls β} {xs : List γ} {ys : List β} :
    (xs.mapM fun _ => m).Reads faces ys ↔ ∃ blocks : List (List Face),
      faces = blocks.flatten ∧ ys.length = xs.length ∧ List.Forall₂ m.Reads blocks ys := by
  induction xs generalizing faces ys with
  | nil =>
      rw [List.mapM_nil, reads_pure]
      constructor
      · rintro ⟨rfl, rfl⟩
        exact ⟨[], rfl, rfl, .nil⟩
      · rintro ⟨_, rfl, hlength, hblocks⟩
        obtain rfl := List.length_eq_zero_iff.mp hlength
        obtain ⟨⟩ := hblocks
        exact ⟨rfl, rfl⟩
  | cons x rest ih =>
      simp only [List.mapM_cons, reads_bind, reads_pure, ih]
      constructor
      · rintro ⟨front, _, y, hy, ⟨_, _, ys, ⟨blocks, rfl, hlength, hblocks⟩, ⟨rfl, rfl⟩, rfl⟩, rfl⟩
        exact ⟨front :: blocks, by simp, by simp [hlength], .cons hy hblocks⟩
      · rintro ⟨_, rfl, hlength, hblocks⟩
        obtain _ | ⟨hy, hblocks⟩ := hblocks
        · cases hlength
        · exact ⟨_, _, _, hy, ⟨_, [], _, ⟨_, rfl, Nat.succ.inj hlength, hblocks⟩, ⟨rfl, rfl⟩, rfl⟩,
            by simp⟩

/-! ### Their number -/

/-- Whether a rule comes to a result for some dice, after so many faces. -/
inductive Draws : Rolls α → Nat → α → Prop
  | done (a : α) : Draws (done a) 0 a
  | roll {next : Face → Rolls α} {n : Nat} {a : α} (x : Face) (rest : Draws (next x) n a) :
      Draws (roll next) (n + 1) a

lemma draws_iff_reads {m : Rolls α} {a : α} :
    m.Draws n a ↔ ∃ faces, m.Reads faces a ∧ faces.length = n := by
  constructor
  · intro h
    induction h with
    | done a => exact ⟨[], .done a, rfl⟩
    | roll x _ ih =>
        obtain ⟨faces, hreads, rfl⟩ := ih
        exact ⟨x :: faces, .roll hreads, rfl⟩
  · rintro ⟨faces, hreads, rfl⟩
    induction hreads with
    | done a => exact .done a
    | roll _ ih => exact .roll _ ih

lemma draws_of_run {σ : Type v} [DiceSource σ] {m : Rolls α} {a : α} {s t : σ}
    (h : m.run s = (some a, t)) : m.Draws (m.trace s).length a :=
  draws_iff_reads.mpr ⟨_, reads_of_run h, rfl⟩

lemma draws_pure {a b : α} : (pure a : Rolls α).Draws n b ↔ n = 0 ∧ b = a := by
  simp only [draws_iff_reads, reads_pure]
  constructor
  · rintro ⟨_, ⟨rfl, rfl⟩, rfl⟩
    exact ⟨rfl, rfl⟩
  · rintro ⟨rfl, rfl⟩
    exact ⟨[], ⟨rfl, rfl⟩, rfl⟩

lemma draws_bind {m : Rolls α} {f : α → Rolls β} {b : β} :
    (m >>= f).Draws n b ↔ ∃ k j a, m.Draws k a ∧ (f a).Draws j b ∧ n = k + j := by
  simp only [draws_iff_reads, reads_bind]
  constructor
  · rintro ⟨_, ⟨front, back, a, ha, hb, rfl⟩, rfl⟩
    exact ⟨_, _, a, ⟨front, ha, rfl⟩, ⟨back, hb, rfl⟩, List.length_append⟩
  · rintro ⟨_, _, a, ⟨front, ha, rfl⟩, ⟨back, hb, rfl⟩, rfl⟩
    exact ⟨_, ⟨front, back, a, ha, hb, rfl⟩, List.length_append⟩

lemma eq_one_of_draws_d6 {x : Face} (h : d6.Draws n x) : n = 1 := by
  obtain ⟨faces, hreads, rfl⟩ := draws_iff_reads.mp h
  rw [reads_d6.mp hreads, List.length_singleton]

lemma eq_two_of_draws_twoDice {d : TwoDice} (h : twoDice.Draws n d) : n = 2 := by
  obtain ⟨faces, hreads, rfl⟩ := draws_iff_reads.mp h
  obtain ⟨x, y, rfl, -⟩ := reads_twoDice.mp hreads
  rfl

/-- A rule played for each of some values takes as many faces as the results count. -/
lemma draws_mapM {γ : Type u} {f : γ → Rolls β} {R : γ → β → Prop} {count : β → Nat}
    (hf : ∀ x k y, (f x).Draws k y → k = count y ∧ R x y) {xs : List γ} {ys : List β}
    (h : (xs.mapM f).Draws n ys) : n = (ys.map count).sum ∧ List.Forall₂ R xs ys := by
  induction xs generalizing n ys with
  | nil =>
      rw [List.mapM_nil] at h
      obtain ⟨rfl, rfl⟩ := draws_pure.mp h
      exact ⟨rfl, .nil⟩
  | cons x rest ih =>
      rw [List.mapM_cons] at h
      obtain ⟨k, j, y, hy, hrest, rfl⟩ := draws_bind.mp h
      obtain ⟨i, o, ys', hys, hdone, rfl⟩ := draws_bind.mp hrest
      obtain ⟨rfl, rfl⟩ := draws_pure.mp hdone
      obtain ⟨rfl, hxy⟩ := hf x k y hy
      obtain ⟨rfl, hrest'⟩ := ih hys
      exact ⟨by rw [List.map_cons, List.sum_cons, Nat.add_zero], .cons hxy hrest'⟩

end Rolls

end MechBattle
