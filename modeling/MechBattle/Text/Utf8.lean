/-
Text as bytes, in UTF-8.

* `Utf8.encode`: the bytes of a text, character by character;
* `Utf8.Fault`: why bytes are no text, and where;
* `Utf8.decode`: the text that bytes stand for. Only the shortest form of
  a character counts, and no surrogates.
-/

namespace MechBattle

namespace Utf8

/-- The bytes of one character. -/
def encodeChar (c : Char) : List UInt8 :=
  let n := c.toNat
  let tail (k : Nat) : UInt8 := .ofNat (0x80 + k % 0x40)
  if n < 0x80 then [.ofNat n]
  else if n < 0x800 then [.ofNat (0xC0 + n / 0x40), tail n]
  else if n < 0x10000 then [.ofNat (0xE0 + n / 0x1000), tail (n / 0x40), tail n]
  else [.ofNat (0xF0 + n / 0x40000), tail (n / 0x1000), tail (n / 0x40), tail n]

/-- The bytes of a text. -/
def encode (s : String) : List UInt8 := s.toList.flatMap encodeChar

/-- Why bytes are no text. -/
inductive Fault where
  /-- From a byte on, so many bytes cannot begin a character. -/
  | invalid (length index : Nat)
  /-- The bytes end within the character that begins at a byte. -/
  | incomplete (index : Nat)
  deriving DecidableEq, Repr

/-- The wording of a fault. -/
def Fault.message : Fault → String
  | .invalid length index => s!"invalid utf-8 sequence of {length} bytes from index {index}"
  | .incomplete index => s!"incomplete utf-8 byte sequence from index {index}"

/-- Whether a byte continues a character. -/
def isTail (b : UInt8) : Bool := decide (0x80 ≤ b.toNat ∧ b.toNat ≤ 0xBF)

/-- How many bytes a character has, by its first byte. -/
def width? (b : UInt8) : Option Nat :=
  let n := b.toNat
  if n < 0x80 then some 1
  else if n < 0xC2 then none
  else if n < 0xE0 then some 2
  else if n < 0xF0 then some 3
  else if n < 0xF5 then some 4
  else none

/-- Whether a second byte may follow a first one. What it rules out are
longer forms than needed, surrogates and numbers beyond the last
character. -/
def mayFollow (first second : UInt8) : Bool :=
  isTail second &&
    (match first.toNat with
    | 0xE0 => decide (0xA0 ≤ second.toNat)
    | 0xED => decide (second.toNat ≤ 0x9F)
    | 0xF0 => decide (0x90 ≤ second.toNat)
    | 0xF4 => decide (second.toNat ≤ 0x8F)
    | _ => true)

/-- The bits that a continuing byte adds. -/
def tailBits (b : UInt8) : Nat := b.toNat % 0x40

/-- The characters that bytes stand for; `index` is where they begin. -/
def decodeFrom : Nat → List UInt8 → Except Fault (List Char)
  | _, [] => .ok []
  | index, a :: rest =>
    match width? a with
    | some 1 => do return Char.ofNat a.toNat :: (← decodeFrom (index + 1) rest)
    | some 2 =>
      match rest with
      | [] => .error (.incomplete index)
      | b :: rest =>
        if isTail b then do
          return Char.ofNat (a.toNat % 0x20 * 0x40 + tailBits b) :: (← decodeFrom (index + 2) rest)
        else .error (.invalid 1 index)
    | some 3 =>
      match rest with
      | [] => .error (.incomplete index)
      | b :: rest =>
        if mayFollow a b then
          match rest with
          | [] => .error (.incomplete index)
          | c :: rest =>
            if isTail c then do
              return Char.ofNat (a.toNat % 0x10 * 0x1000 + tailBits b * 0x40 + tailBits c) ::
                (← decodeFrom (index + 3) rest)
            else .error (.invalid 2 index)
        else .error (.invalid 1 index)
    | some _ =>
      match rest with
      | [] => .error (.incomplete index)
      | b :: rest =>
        if mayFollow a b then
          match rest with
          | [] => .error (.incomplete index)
          | c :: rest =>
            if isTail c then
              match rest with
              | [] => .error (.incomplete index)
              | d :: rest =>
                if isTail d then do
                  return Char.ofNat (a.toNat % 0x08 * 0x40000 + tailBits b * 0x1000 +
                    tailBits c * 0x40 + tailBits d) :: (← decodeFrom (index + 4) rest)
                else .error (.invalid 3 index)
            else .error (.invalid 2 index)
        else .error (.invalid 1 index)
    | none => .error (.invalid 1 index)

/-- The text that bytes stand for. -/
def decode (bytes : List UInt8) : Except Fault String :=
  (decodeFrom 0 bytes).map String.ofList

end Utf8

end MechBattle
