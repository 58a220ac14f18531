/-
Texts and the bytes that are written for them.

A character is spelled by one to four bytes, and each of its spellings but the
shortest is refused. So every text is read back from its bytes, and bytes are
read as a text only if they are what is written for it.

* `Utf8.Spells`: bytes that stand for one character;
* `Utf8.spells_encodeChar`, `Utf8.Spells.eq_encodeChar`: what is written for a
  character spells it, and nothing else does;
* `Utf8.decode_encode`, `Utf8.encode_of_decode`: both for whole texts.
-/
import Mathlib.Tactic
import MechBattle.Text.Utf8

namespace MechBattle

namespace Utf8

/-! ### Single bytes -/

lemma isTail_iff {b : UInt8} : isTail b = true ↔ 0x80 ≤ b.toNat ∧ b.toNat ≤ 0xBF := by
  rw [isTail, decide_eq_true_eq]

lemma mayFollow_iff {a b : UInt8} :
    mayFollow a b = true ↔ isTail b = true ∧ (a.toNat = 0xE0 → 0xA0 ≤ b.toNat) ∧
      (a.toNat = 0xED → b.toNat ≤ 0x9F) ∧ (a.toNat = 0xF0 → 0x90 ≤ b.toNat) ∧
        (a.toNat = 0xF4 → b.toNat ≤ 0x8F) := by
  rw [mayFollow, Bool.and_eq_true]
  refine and_congr_right fun _ => ?_
  split <;> simp_all

lemma width?_eq_some {b : UInt8} {w : Nat} :
    width? b = some w ↔ (w = 1 ∧ b.toNat < 0x80) ∨ (w = 2 ∧ 0xC2 ≤ b.toNat ∧ b.toNat < 0xE0) ∨
      (w = 3 ∧ 0xE0 ≤ b.toNat ∧ b.toNat < 0xF0) ∨ (w = 4 ∧ 0xF0 ≤ b.toNat ∧ b.toNat < 0xF5) := by
  rw [width?]
  split_ifs <;> simp only [Option.some.injEq, false_iff] <;> omega

lemma toNat_ofNat_byte {n : Nat} (h : n < 256) : (UInt8.ofNat n).toNat = n := by
  rw [UInt8.toNat_ofNat', Nat.mod_eq_of_lt h]

lemma ofNat_eq {n : Nat} {b : UInt8} (h : n = b.toNat) : UInt8.ofNat n = b := by
  rw [h, UInt8.ofNat_toNat]

/-! ### Single characters -/

lemma toNat_ofNat_char {n : Nat} (h : n.isValidChar) : (Char.ofNat n).toNat = n := by
  rw [Char.ofNat, dif_pos h]
  rfl

/-- Bytes that stand for one character, as many of them as the first one says. -/
inductive Spells : List UInt8 → Char → Prop
  | one {a : UInt8} (width : width? a = some 1) : Spells [a] (.ofNat a.toNat)
  | two {a b : UInt8} (width : width? a = some 2) (second : isTail b = true) :
      Spells [a, b] (.ofNat (a.toNat % 0x20 * 0x40 + tailBits b))
  | three {a b c : UInt8} (width : width? a = some 3) (second : mayFollow a b = true)
      (third : isTail c = true) :
      Spells [a, b, c] (.ofNat (a.toNat % 0x10 * 0x1000 + tailBits b * 0x40 + tailBits c))
  | four {a b c d : UInt8} (width : width? a = some 4) (second : mayFollow a b = true)
      (third : isTail c = true) (fourth : isTail d = true) :
      Spells [a, b, c, d] (.ofNat (a.toNat % 0x08 * 0x40000 + tailBits b * 0x1000 +
        tailBits c * 0x40 + tailBits d))

/-- A character is spelled by the bytes that are written for it. -/
lemma spells_encodeChar (x : Char) : Spells (encodeChar x) x := by
  have hx : x.toNat < 0xD800 ∨ 0xDFFF < x.toNat ∧ x.toNat < 0x110000 := x.valid
  have htail : ∀ k, isTail (.ofNat (0x80 + k % 0x40)) = true := by
    intro k
    rw [isTail_iff, toNat_ofNat_byte] <;> omega
  have hbits : ∀ k, tailBits (.ofNat (0x80 + k % 0x40)) = k % 0x40 := by
    intro k
    rw [tailBits, toNat_ofNat_byte] <;> omega
  rw [encodeChar]
  dsimp only
  split_ifs with h₁ h₂ h₃
  · have hw : width? (.ofNat x.toNat) = some 1 := by
      rw [width?_eq_some, toNat_ofNat_byte] <;> omega
    have hv : (UInt8.ofNat x.toNat).toNat = x.toNat := toNat_ofNat_byte (by omega)
    have hs := Spells.one hw
    rwa [hv, Char.ofNat_toNat] at hs
  · have hfirst : (UInt8.ofNat (0xC0 + x.toNat / 0x40)).toNat = 0xC0 + x.toNat / 0x40 :=
      toNat_ofNat_byte (by omega)
    have hw : width? (.ofNat (0xC0 + x.toNat / 0x40)) = some 2 := by
      rw [width?_eq_some, hfirst]
      omega
    have hv : (0xC0 + x.toNat / 0x40) % 0x20 * 0x40 + x.toNat % 0x40 = x.toNat := by omega
    have hs := Spells.two hw (htail x.toNat)
    rwa [hfirst, hbits, hv, Char.ofNat_toNat] at hs
  · have hfirst : (UInt8.ofNat (0xE0 + x.toNat / 0x1000)).toNat = 0xE0 + x.toNat / 0x1000 :=
      toNat_ofNat_byte (by omega)
    have hsecond : (UInt8.ofNat (0x80 + x.toNat / 0x40 % 0x40)).toNat =
        0x80 + x.toNat / 0x40 % 0x40 := toNat_ofNat_byte (by omega)
    have hw : width? (.ofNat (0xE0 + x.toNat / 0x1000)) = some 3 := by
      rw [width?_eq_some, hfirst]
      omega
    have hm : mayFollow (.ofNat (0xE0 + x.toNat / 0x1000))
        (.ofNat (0x80 + x.toNat / 0x40 % 0x40)) = true := by
      rw [mayFollow_iff, hfirst, hsecond]
      exact ⟨htail _, by omega, by omega, by omega, by omega⟩
    have hv : (0xE0 + x.toNat / 0x1000) % 0x10 * 0x1000 + x.toNat / 0x40 % 0x40 * 0x40 +
        x.toNat % 0x40 = x.toNat := by omega
    have hs := Spells.three hw hm (htail x.toNat)
    rwa [hfirst, hbits, hbits, hv, Char.ofNat_toNat] at hs
  · have hfirst : (UInt8.ofNat (0xF0 + x.toNat / 0x40000)).toNat = 0xF0 + x.toNat / 0x40000 :=
      toNat_ofNat_byte (by omega)
    have hsecond : (UInt8.ofNat (0x80 + x.toNat / 0x1000 % 0x40)).toNat =
        0x80 + x.toNat / 0x1000 % 0x40 := toNat_ofNat_byte (by omega)
    have hw : width? (.ofNat (0xF0 + x.toNat / 0x40000)) = some 4 := by
      rw [width?_eq_some, hfirst]
      omega
    have hm : mayFollow (.ofNat (0xF0 + x.toNat / 0x40000))
        (.ofNat (0x80 + x.toNat / 0x1000 % 0x40)) = true := by
      rw [mayFollow_iff, hfirst, hsecond]
      exact ⟨htail _, by omega, by omega, by omega, by omega⟩
    have hv : (0xF0 + x.toNat / 0x40000) % 0x08 * 0x40000 + x.toNat / 0x1000 % 0x40 * 0x1000 +
        x.toNat / 0x40 % 0x40 * 0x40 + x.toNat % 0x40 = x.toNat := by omega
    have hs := Spells.four hw hm (htail (x.toNat / 0x40)) (htail x.toNat)
    rwa [hfirst, hbits, hbits, hbits, hv, Char.ofNat_toNat] at hs

/-- Nothing else spells a character. -/
lemma Spells.eq_encodeChar {front : List UInt8} {x : Char} (h : Spells front x) :
    front = encodeChar x := by
  cases h with
  | @one a width =>
      have hw := width?_eq_some.mp width
      have hx : (Char.ofNat a.toNat).toNat = a.toNat := toNat_ofNat_char (.inl (by omega))
      rw [encodeChar, hx, if_pos (by omega), UInt8.ofNat_toNat]
  | @two a b width second =>
      have hw := width?_eq_some.mp width
      have hb := isTail_iff.mp second
      have hx : (Char.ofNat (a.toNat % 0x20 * 0x40 + tailBits b)).toNat =
          a.toNat % 0x20 * 0x40 + b.toNat % 0x40 := by
        refine toNat_ofNat_char ?_
        rw [tailBits, Nat.isValidChar]
        omega
      rw [encodeChar, hx, if_neg (by omega), if_pos (by omega)]
      dsimp only
      rw [ofNat_eq (b := a) (by omega), ofNat_eq (b := b) (by omega)]
  | @three a b c width second third =>
      have hw := width?_eq_some.mp width
      have hb := mayFollow_iff.mp second
      have hb' := isTail_iff.mp hb.1
      have hc := isTail_iff.mp third
      have hx : (Char.ofNat (a.toNat % 0x10 * 0x1000 + tailBits b * 0x40 + tailBits c)).toNat =
          a.toNat % 0x10 * 0x1000 + b.toNat % 0x40 * 0x40 + c.toNat % 0x40 := by
        refine toNat_ofNat_char ?_
        rw [tailBits, tailBits, Nat.isValidChar]
        omega
      rw [encodeChar, hx, if_neg (by omega), if_neg (by omega), if_pos (by omega)]
      dsimp only
      rw [ofNat_eq (b := a) (by omega), ofNat_eq (b := b) (by omega), ofNat_eq (b := c) (by omega)]
  | @four a b c d width second third fourth =>
      have hw := width?_eq_some.mp width
      have hb := mayFollow_iff.mp second
      have hb' := isTail_iff.mp hb.1
      have hc := isTail_iff.mp third
      have hd := isTail_iff.mp fourth
      have hx : (Char.ofNat (a.toNat % 0x08 * 0x40000 + tailBits b * 0x1000 + tailBits c * 0x40 +
          tailBits d)).toNat = a.toNat % 0x08 * 0x40000 + b.toNat % 0x40 * 0x1000 +
            c.toNat % 0x40 * 0x40 + d.toNat % 0x40 := by
        refine toNat_ofNat_char ?_
        rw [tailBits, tailBits, tailBits, Nat.isValidChar]
        omega
      rw [encodeChar, hx, if_neg (by omega), if_neg (by omega), if_neg (by omega)]
      dsimp only
      rw [ofNat_eq (b := a) (by omega), ofNat_eq (b := b) (by omega), ofNat_eq (b := c) (by omega),
        ofNat_eq (b := d) (by omega)]

/-! ### Texts -/

/-- A spelled character is decoded, whatever follows. -/
lemma Spells.decodeFrom {front : List UInt8} {x : Char} (h : Spells front x) (index : Nat)
    (rest : List UInt8) :
    decodeFrom index (front ++ rest) =
      (x :: ·) <$> Utf8.decodeFrom (index + front.length) rest := by
  cases h with
  | one width =>
      simp only [List.cons_append, List.nil_append, decodeFrom.eq_def index (_ :: _), width]
      rfl
  | two width second =>
      simp only [List.cons_append, List.nil_append, decodeFrom.eq_def index (_ :: _), width,
        second, if_true]
      rfl
  | three width second third =>
      simp only [List.cons_append, List.nil_append, decodeFrom.eq_def index (_ :: _), width,
        second, third, if_true]
      rfl
  | four width second third fourth =>
      simp only [List.cons_append, List.nil_append, decodeFrom.eq_def index (_ :: _), width,
        second, third, fourth, if_true]
      rfl

lemma decodeFrom_flatMap (xs : List Char) (index : Nat) :
    decodeFrom index (xs.flatMap encodeChar) = .ok xs := by
  induction xs generalizing index with
  | nil => rfl
  | cons x xs ih =>
      rw [List.flatMap_cons, (spells_encodeChar x).decodeFrom, ih]
      rfl

/-- A character in front of what was written for the others. -/
lemma Spells.eq_flatMap {front rest : List UInt8} {x : Char} (h : Spells front x) {index : Nat}
    {xs : List Char} (hxs : (do return x :: (← Utf8.decodeFrom index rest)) = Except.ok xs)
    (ih : ∀ {ys}, Utf8.decodeFrom index rest = .ok ys → rest = ys.flatMap encodeChar) :
    front ++ rest = xs.flatMap encodeChar := by
  cases hrest : Utf8.decodeFrom index rest with
  | error fault =>
      rw [hrest] at hxs
      cases hxs
  | ok ys =>
      rw [hrest] at hxs
      cases hxs
      rw [List.flatMap_cons, ← h.eq_encodeChar, ← ih hrest]

/-- Bytes are decoded only to what is written as them. -/
lemma eq_flatMap_of_decodeFrom {index : Nat} {bytes : List UInt8} {xs : List Char}
    (h : decodeFrom index bytes = .ok xs) : bytes = xs.flatMap encodeChar := by
  fun_induction decodeFrom index bytes generalizing xs <;> try cases h
  · rfl
  · next width ih => exact (Spells.one width).eq_flatMap h ih
  · next width _ _ second ih => exact (Spells.two width second).eq_flatMap h ih
  · next width _ second _ _ third ih => exact (Spells.three width second third).eq_flatMap h ih
  · next w h₁ h₂ h₃ width _ second _ third _ _ fourth ih =>
      have hw : w = 4 := by
        obtain ⟨hw, -⟩ | ⟨hw, -⟩ | ⟨hw, -⟩ | ⟨hw, -⟩ := width?_eq_some.mp width
        · exact (h₁ hw).elim
        · exact (h₂ hw).elim
        · exact (h₃ hw).elim
        · exact hw
      subst hw
      exact (Spells.four width second third fourth).eq_flatMap h ih

/-- **What is written for a text is decoded to it.** -/
lemma decode_encode (s : String) : decode (encode s) = .ok s := by
  rw [decode, encode, decodeFrom_flatMap, Except.map, String.ofList_toList]

/-- **Only what is written for a text is decoded to it.** -/
lemma encode_of_decode {bytes : List UInt8} {s : String} (h : decode bytes = .ok s) :
    encode s = bytes := by
  rw [decode] at h
  cases hxs : decodeFrom 0 bytes with
  | error fault =>
      rw [hxs] at h
      cases h
  | ok xs =>
      rw [hxs] at h
      cases h
      rw [encode, String.toList_ofList, ← eq_flatMap_of_decodeFrom hxs]

end Utf8

end MechBattle
