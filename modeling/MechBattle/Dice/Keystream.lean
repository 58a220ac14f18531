/-
Dice drawn from a seeded keystream.

A seed of 64 bits is stretched into a key of eight words, the key runs
the ChaCha cipher with eight rounds, and the words of its keystream are
turned into faces one after the other. Equal seeds give equal dice.

* `Keystream`: where in the stream of a key the next word lies;
* `Keystream.ofSeed`: the start of the stream of a seed;
* `Keystream.word`: the next word;
* `faceOfWord`: the face a word stands for, with `isFair` saying which
  words are used so that all faces are equally likely;
* `Keystream.draw`: the next face, with the assumption `Keystream.Fair`
  under which it is, by `Keystream.draws_iff`, the face that is drawn
  without a bound on unfair words;
* `Keystream.play`: a rule played on a keystream, which is a run of it by
  `Keystream.run_eq_play`, and by `Keystream.plays_iff` one without a bound.
-/
import MechBattle.Dice.Rolls

namespace MechBattle

/-! ### The cipher -/

/-- The sixteen words the cipher works on. -/
abbrev CipherState := Vector UInt32 16

namespace CipherState

/-- A word turned left by a number of bits. -/
def turnLeft (x n : UInt32) : UInt32 := (x <<< n) ||| (x >>> (32 - n))

/-- A word turned right by a number of bits, zero included. -/
def turnRight (x n : UInt32) : UInt32 := (x >>> n) ||| (x <<< ((32 - n) % 32))

/-- One quarter of a round, on the four words at the given places. -/
def quarter (s : CipherState) (a b c d : Fin 16) : CipherState :=
  let s := s.set a (s[a] + s[b])
  let s := s.set d (turnLeft (s[d] ^^^ s[a]) 16)
  let s := s.set c (s[c] + s[d])
  let s := s.set b (turnLeft (s[b] ^^^ s[c]) 12)
  let s := s.set a (s[a] + s[b])
  let s := s.set d (turnLeft (s[d] ^^^ s[a]) 8)
  let s := s.set c (s[c] + s[d])
  s.set b (turnLeft (s[b] ^^^ s[c]) 7)

/-- Two rounds: the columns of the square of words, then its diagonals. -/
def doubleRound (s : CipherState) : CipherState :=
  let s := s.quarter 0 4 8 12
  let s := s.quarter 1 5 9 13
  let s := s.quarter 2 6 10 14
  let s := s.quarter 3 7 11 15
  let s := s.quarter 0 5 10 15
  let s := s.quarter 1 6 11 12
  let s := s.quarter 2 7 8 13
  s.quarter 3 4 9 14

/-- The cipher's start for a key and a block number: four constant words,
the key, the block number and an empty nonce. -/
def start (key : Vector UInt32 8) (block : UInt64) : CipherState :=
  #v[0x61707865, 0x3320646e, 0x79622d32, 0x6b206574,
    key[0], key[1], key[2], key[3], key[4], key[5], key[6], key[7],
    block.toUInt32, (block >>> 32).toUInt32, 0, 0]

/-- The keystream words of one block: eight rounds, added to the start. -/
def block (key : Vector UInt32 8) (number : UInt64) : List UInt32 :=
  let s := start key number
  let t := s.doubleRound.doubleRound.doubleRound.doubleRound
  (Vector.zipWith (· + ·) s t).toList

end CipherState

/-! ### From a seed to a key -/

/-- One step of the generator that stretches a seed. -/
def stretch (state : UInt64) : UInt64 :=
  state * 6364136223846793005 + 11634580027462260723

/-- The key word read off a state of that generator. -/
def keyWord (state : UInt64) : UInt32 :=
  CipherState.turnRight (((state >>> 18) ^^^ state) >>> 27).toUInt32 (state >>> 59).toUInt32

/-- The first `n` key words from a state on. -/
def keyWords : Nat → UInt64 → List UInt32
  | 0, _ => []
  | n + 1, state => keyWord (stretch state) :: keyWords n (stretch state)

theorem length_keyWords (n : Nat) (state : UInt64) : (keyWords n state).length = n := by
  induction n generalizing state with
  | zero => rfl
  | succ n ih => simp [keyWords, ih]

/-- The key of a seed. -/
def keyOfSeed (seed : UInt64) : Vector UInt32 8 :=
  ⟨(keyWords 8 seed).toArray, by simp [length_keyWords]⟩

/-! ### From words to faces -/

/-- Where in the keystream of a key the next word lies. -/
structure Keystream where
  key : Vector UInt32 8
  /-- The number of the next block. -/
  block : UInt64
  /-- Words of the present block not yet used. -/
  words : List UInt32

namespace Keystream

/-- The start of the keystream of a seed. -/
def ofSeed (seed : UInt64) : Keystream := ⟨keyOfSeed seed, 0, []⟩

/-- The next word, from the present block or the first of the next one. -/
def word (k : Keystream) : UInt32 × Keystream :=
  match k.words with
  | w :: rest => (w, { k with words := rest })
  | [] =>
    match CipherState.block k.key k.block with
    | w :: rest => (w, { k with block := k.block + 1, words := rest })
    | [] => (0, k)

end Keystream

/-- A word is used when it does not fall into the last four products,
which would favour some faces over others. -/
def isFair (w : UInt32) : Bool := decide (w.toNat * 6 % 0x100000000 ≤ 0xFFFFFFFB)

/-- The face a word stands for: the sixth of all words it lies in. -/
def faceOfWord (w : UInt32) : Face :=
  ⟨w.toNat * 6 / 0x100000000, by have := w.toNat_lt; omega⟩

/-- Only four words are unfair. -/
theorem isFair_eq_false_iff {w : UInt32} :
    isFair w = false ↔
      w = 0x2AAAAAAA ∨ w = 0x55555555 ∨ w = 0xAAAAAAAA ∨ w = 0xD5555555 := by
  have hlt := w.toNat_lt
  have hface : w.toNat * 6 / 0x100000000 = 0 ∨ w.toNat * 6 / 0x100000000 = 1 ∨
      w.toNat * 6 / 0x100000000 = 2 ∨ w.toNat * 6 / 0x100000000 = 3 ∨
      w.toNat * 6 / 0x100000000 = 4 ∨ w.toNat * 6 / 0x100000000 = 5 := by omega
  simp only [isFair, decide_eq_false_iff_not, ← UInt32.toNat_inj, UInt32.reduceToNat]
  -- one unfair word for each of four faces, none for the third face and the last
  rcases hface with h | h | h | h | h | h <;> omega

namespace Keystream

/-- The next face. Unfair words are passed over, at most `tries` of them
in a row. -/
def drawWithin : Nat → Keystream → Face × Keystream
  | 0, k => (faceOfWord k.word.1, k.word.2)
  | tries + 1, k =>
    if isFair k.word.1 then (faceOfWord k.word.1, k.word.2) else drawWithin tries k.word.2

/-- The next face, if not more than a hundred unfair words come first. That
they do not is the assumption `Keystream.Fair`. -/
def draw (k : Keystream) : Face × Keystream := drawWithin 100 k

/-- Drawing without a bound on the unfair words that are passed over:
whether it can end with a face and a rest of the stream. -/
inductive Draws : Keystream → Face × Keystream → Prop where
  /-- A fair word is used. -/
  | take {k : Keystream} (fair : isFair k.word.1 = true) :
      Draws k (faceOfWord k.word.1, k.word.2)
  /-- An unfair word is passed over. -/
  | pass {k : Keystream} {drawn : Face × Keystream} (unfair : isFair k.word.1 = false)
      (rest : Draws k.word.2 drawn) : Draws k drawn

/-- The stream after so many words. -/
def after : Nat → Keystream → Keystream
  | 0, k => k
  | n + 1, k => after n k.word.2

/-- Whether one of the next words is fair, after at most so many others. -/
def FairWithin (tries : Nat) (k : Keystream) : Prop :=
  ∃ n, n ≤ tries ∧ isFair (k.after n).word.1 = true

/-- The assumption under which dice are drawn from keystreams: of any
hundred and one words in a row one is fair. One word in a thousand million
is not, by `isFair_eq_false_iff`. -/
def Fair (k : Keystream) : Prop := ∀ n, (k.after n).FairWithin 100

theorem draws_iff_of_fair {k : Keystream} (fair : isFair k.word.1 = true)
    {drawn : Face × Keystream} :
    k.Draws drawn ↔ drawn = (faceOfWord k.word.1, k.word.2) := by
  constructor
  · rintro (_ | ⟨hunfair, -⟩)
    · rfl
    · rw [fair] at hunfair
      cases hunfair
  · rintro rfl
    exact .take fair

theorem draws_iff_of_unfair {k : Keystream} (unfair : isFair k.word.1 = false)
    {drawn : Face × Keystream} : k.Draws drawn ↔ k.word.2.Draws drawn := by
  constructor
  · rintro (hfair | ⟨-, hrest⟩)
    · rw [unfair] at hfair
      cases hfair
    · exact hrest
  · exact .pass unfair

theorem FairWithin.of_unfair {tries : Nat} {k : Keystream} (h : k.FairWithin tries)
    (unfair : isFair k.word.1 = false) : ∃ n, tries = n + 1 ∧ k.word.2.FairWithin n := by
  obtain ⟨m, hm, hfair⟩ := h
  cases m with
  | zero => exact absurd (hfair.symm.trans unfair) (by decide)
  | succ m => exact ⟨tries - 1, by omega, m, by omega, hfair⟩

/-- With a fair word within the bound, the bound changes nothing. -/
theorem draws_iff_of_fairWithin {tries : Nat} {k : Keystream} (fair : k.FairWithin tries)
    {drawn : Face × Keystream} : k.Draws drawn ↔ drawn = drawWithin tries k := by
  induction tries generalizing k with
  | zero =>
    cases hword : isFair k.word.1 with
    | true => rw [draws_iff_of_fair hword, drawWithin]
    | false =>
      obtain ⟨n, hn, -⟩ := fair.of_unfair hword
      cases hn
  | succ tries ih =>
    cases hword : isFair k.word.1 with
    | true => rw [draws_iff_of_fair hword, drawWithin, if_pos hword]
    | false =>
      obtain ⟨n, hn, hrest⟩ := fair.of_unfair hword
      obtain rfl := Nat.succ.inj hn
      rw [draws_iff_of_unfair hword, ih hrest, drawWithin, hword, if_neg Bool.false_ne_true]

/-- Under the assumption, the next face is the one that is drawn without a
bound. -/
theorem draws_iff {k : Keystream} (fair : k.Fair) {drawn : Face × Keystream} :
    k.Draws drawn ↔ drawn = k.draw :=
  draws_iff_of_fairWithin (fair 0)

/-- What is drawn leaves a stream of which the assumption holds too. -/
theorem Fair.of_draws {k : Keystream} (fair : k.Fair) {drawn : Face × Keystream}
    (h : k.Draws drawn) : drawn.2.Fair := by
  induction h with
  | take _ => exact fun n => fair (n + 1)
  | pass _ _ ih => exact ih fun n => fair (n + 1)

instance : DiceSource Keystream where
  next k := some k.draw

/-- A rule played on a keystream, which never runs out. -/
def play {α : Type} : Rolls α → Keystream → α × Keystream
  | .done a, k => (a, k)
  | .roll next, k => play (next k.draw.1) k.draw.2

/-- A rule played with faces that are drawn without a bound: whether it can
end with a result and a rest of the stream. -/
inductive Plays {α : Type} : Rolls α → Keystream → α × Keystream → Prop where
  | done (a : α) (k : Keystream) : Plays (.done a) k (a, k)
  | roll {next : Face → Rolls α} {k : Keystream} {drawn : Face × Keystream}
      {ended : α × Keystream} (h : k.Draws drawn) (rest : Plays (next drawn.1) drawn.2 ended) :
      Plays (.roll next) k ended

/-- Under the assumption, a rule ends as it does without a bound. -/
theorem plays_iff {α : Type} {m : Rolls α} {k : Keystream} (fair : k.Fair)
    {ended : α × Keystream} : Plays m k ended ↔ ended = play m k := by
  constructor
  · intro h
    induction h with
    | done a k => rfl
    | roll hdraw _ ih =>
      have hrest := ih (fair.of_draws hdraw)
      rw [(draws_iff fair).mp hdraw] at hrest
      exact hrest
  · rintro rfl
    induction m generalizing k with
    | done a => exact .done a k
    | roll next ih =>
      have hdraw := (draws_iff fair).mpr rfl
      exact .roll hdraw (ih k.draw.1 (fair.of_draws hdraw))

theorem run_eq_play {α : Type} (m : Rolls α) (k : Keystream) :
    m.run k = (some (play m k).1, (play m k).2) := by
  induction m generalizing k with
  | done a => rfl
  | roll next ih => exact ih k.draw.1 k.draw.2

end Keystream

end MechBattle
