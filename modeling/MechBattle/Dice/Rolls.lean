/-
Rules that roll dice, kept apart from the dice they are rolled with.

A rule that needs dice is a value of `Rolls`: either it is done, or it
asks for one more face and goes on with what that face shows. The same
rule can then be run against faces written down in advance, against
seeded dice, or reasoned about for every face at once.

* `Rolls`: rules that roll dice, a lawful monad;
* `d6`, `twoDice`: one die and two dice;
* `DiceSource`: where faces come from, one after the other;
* `Rolls.run`: a rule played on a source, with the source left over;
* `Rolls.trace`: the faces that a run draws;
* `Rolls.run_bind`: a run of two rules in a row is two runs in a row.
-/
import MechBattle.Dice

namespace MechBattle

universe u v

/-- A rule that rolls dice one at a time. -/
inductive Rolls (α : Type u) : Type u where
  /-- Nothing more is rolled. -/
  | done (value : α)
  /-- One die is rolled, and its face decides how to go on. -/
  | roll (next : Face → Rolls α)

namespace Rolls

variable {α β γ : Type u}

/-- One rule after another. -/
def bind : Rolls α → (α → Rolls β) → Rolls β
  | done a, f => f a
  | roll next, f => roll fun x => (next x).bind f

instance : Monad Rolls where
  pure := done
  bind := bind

theorem bind_eq (m : Rolls α) (f : α → Rolls β) : m >>= f = m.bind f := rfl

theorem bind_done (m : Rolls α) : m.bind done = m := by
  induction m with
  | done a => rfl
  | roll next ih => exact congrArg roll (funext ih)

theorem bind_assoc (m : Rolls α) (f : α → Rolls β) (g : β → Rolls γ) :
    (m.bind f).bind g = m.bind fun a => (f a).bind g := by
  induction m with
  | done a => rfl
  | roll next ih => exact congrArg roll (funext ih)

instance : LawfulMonad Rolls :=
  LawfulMonad.mk' Rolls bind_done (fun _ _ => rfl) bind_assoc

end Rolls

/-- One die. -/
def d6 : Rolls Face := .roll .done

/-- Two dice, the first face first. -/
def twoDice : Rolls TwoDice := do
  let x ← d6
  let y ← d6
  return .ofFaces x y

/-- Where faces come from. A source either yields a face and the source
after it, or has run out. -/
class DiceSource (σ : Type v) where
  next : σ → Option (Face × σ)

namespace Rolls

variable {α β : Type u} {σ : Type v} [DiceSource σ]

/-- A rule played on a source: its result, unless the source runs out on
the way, and what is left of the source. -/
def run : Rolls α → σ → Option α × σ
  | done a, s => (some a, s)
  | roll k, s =>
    match DiceSource.next s with
    | none => (none, s)
    | some (x, rest) => (k x).run rest

/-- The faces a run draws, in order. -/
def trace : Rolls α → σ → List Face
  | done _, _ => []
  | roll k, s =>
    match DiceSource.next s with
    | none => []
    | some (x, rest) => x :: (k x).trace rest

theorem run_pure (a : α) (s : σ) : (pure a : Rolls α).run s = (some a, s) := rfl

theorem run_bind (m : Rolls α) (f : α → Rolls β) (s : σ) :
    (m >>= f).run s =
      match m.run s with
      | (some a, rest) => (f a).run rest
      | (none, rest) => (none, rest) := by
  induction m generalizing s with
  | done a => rfl
  | roll k ih =>
    simp only [bind_eq, bind, run]
    cases DiceSource.next s with
    | none => rfl
    | some p => exact ih p.1 p.2

end Rolls

end MechBattle
