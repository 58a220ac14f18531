/-
Codecs: how values are written as bytes and read back.

Numbers have a fixed width and the low byte first. Texts and lists are
preceded by their length, optional values by a tag, and alternatives by
their index. Nothing stands between the parts of a record.

This form comes from outside and is an assumption of the library: a length
takes eight bytes, an index four, a counter four with the negative ones
behind the others, a flag or a tag one byte that is 0 or 1, a text is
UTF-8, the fields of a record stand in their order and alternatives are
numbered in theirs, and bytes that are not of this form are refused with
the wording of `ReadFault.message`. What is proved of logs is proved of
logs of this form.

* `Codec`: a writer, a reader of the front of some bytes, and which
  values fit into the written form;
* `ReadFault`: why bytes cannot be read;
* `Codec.Lawful`, `Codec.Canonical`: what is written is read back, and
  only what is written is read;
* `word`, `counter`, `flag`, `text`: codecs of single values;
* `pair`, `option`, `list`, `choice`, `oneOf`, `map`: codecs from codecs.
-/
import MechBattle.Counter
import MechBattle.Text.Utf8

namespace MechBattle

/-- Why bytes cannot be read. -/
inductive ReadFault where
  /-- The bytes end within a number, a flag, a tag or a length. -/
  | endOfBytes
  /-- The bytes end within a text. -/
  | textTooLong
  | badFlag (byte : Nat)
  | badTag (byte : Nat)
  /-- There are only `count` alternatives. -/
  | badIndex (index count : Nat)
  | badText (fault : Utf8.Fault)
  deriving DecidableEq, Repr

/-- The wording of a fault. -/
def ReadFault.message : ReadFault → String
  | .endOfBytes => "io error: unexpected end of file"
  | .textTooLong => "io error: "
  | .badFlag byte => s!"invalid u8 while decoding bool, expected 0 or 1, found {byte}"
  | .badTag byte => s!"tag for enum is not valid, found {byte}"
  | .badIndex index count =>
    s!"invalid value: integer `{index}`, expected variant index 0 <= i < {count}"
  | .badText fault => "string is not valid utf8: " ++ fault.message

/-- How values are written as bytes and read back. -/
structure Codec (α : Type) where
  write : α → List UInt8
  read : List UInt8 → Except ReadFault (α × List UInt8)
  /-- The values that the written form has room for. -/
  Fits : α → Prop

namespace Codec

variable {α β : Type}

/-- A value that fits is read back from what is written for it, whatever
follows. -/
def Lawful (c : Codec α) : Prop :=
  ∀ a rest, c.Fits a → c.read (c.write a ++ rest) = .ok (a, rest)

/-- What is read fits, and is preceded by exactly what is written for
it. -/
def Canonical (c : Codec α) : Prop :=
  ∀ bytes a rest, c.read bytes = .ok (a, rest) → c.Fits a ∧ bytes = c.write a ++ rest

/-! ### Single values -/

/-- Nothing at all. -/
def nothing : Codec PUnit where
  write _ := []
  read bytes := .ok (⟨⟩, bytes)
  Fits _ := True

/-- The lowest bytes of a number, the lowest first. -/
def wordBytes : Nat → Nat → List UInt8
  | 0, _ => []
  | width + 1, n => .ofNat (n % 256) :: wordBytes width (n / 256)

/-- A number of so many bytes. -/
def readWord : Nat → List UInt8 → Except ReadFault (Nat × List UInt8)
  | 0, bytes => .ok (0, bytes)
  | _ + 1, [] => .error .endOfBytes
  | width + 1, b :: bytes => do
    let (high, rest) ← readWord width bytes
    return (b.toNat + 256 * high, rest)

/-- A count of so many bytes. -/
def word (width : Nat) : Codec Nat where
  write := wordBytes width
  read := readWord width
  Fits n := n < Nat.pow 256 width

/-- A codec for values that stand for those of another one. -/
def map (c : Codec α) (pack : α → β) (unpack : β → α) : Codec β where
  write b := c.write (unpack b)
  read bytes := do
    let (a, rest) ← c.read bytes
    return (pack a, rest)
  Fits b := c.Fits (unpack b)

/-- The word for a counter; negative ones follow the others. -/
def wordOfCounter (n : Int) : Nat := (n % 4294967296).toNat

/-- The counter that a word stands for. -/
def counterOfWord (n : Nat) : Int := if n < 2147483648 then n else (n : Int) - 4294967296

/-- A counter in four bytes. -/
def counter : Codec Int :=
  { (word 4).map counterOfWord wordOfCounter with Fits := Counter.Mem }

/-- A flag in one byte. -/
def flag : Codec Bool where
  write b := [if b then 1 else 0]
  read
    | [] => .error .endOfBytes
    | b :: rest =>
      match b.toNat with
      | 0 => .ok (false, rest)
      | 1 => .ok (true, rest)
      | n => .error (.badFlag n)
  Fits _ := True

/-- A text, after its length in bytes. -/
def text : Codec String where
  write s := wordBytes 8 (Utf8.encode s).length ++ Utf8.encode s
  read bytes := do
    let (length, rest) ← readWord 8 bytes
    let front := rest.take length
    if front.length < length then .error .textTooLong
    else
      match Utf8.decode front with
      | .ok s => .ok (s, rest.drop length)
      | .error fault => .error (.badText fault)
  Fits s := (Utf8.encode s).length < Nat.pow 256 8

/-! ### Codecs from codecs -/

/-- One value after another. -/
def pair (c : Codec α) (d : Codec β) : Codec (α × β) where
  write p := c.write p.1 ++ d.write p.2
  read bytes := do
    let (a, rest) ← c.read bytes
    let (b, rest) ← d.read rest
    return ((a, b), rest)
  Fits p := c.Fits p.1 ∧ d.Fits p.2

/-- An optional value, after a tag. -/
def option (c : Codec α) : Codec (Option α) where
  write
    | none => [0]
    | some a => 1 :: c.write a
  read
    | [] => .error .endOfBytes
    | b :: bytes =>
      match b.toNat with
      | 0 => .ok (none, bytes)
      | 1 => do
        let (a, rest) ← c.read bytes
        return (some a, rest)
      | n => .error (.badTag n)
  Fits
    | none => True
    | some a => c.Fits a

/-- So many values, one after the other. -/
def readMany (c : Codec α) : Nat → List UInt8 → Except ReadFault (List α × List UInt8)
  | 0, bytes => .ok ([], bytes)
  | n + 1, bytes => do
    let (a, rest) ← c.read bytes
    let (as, rest) ← readMany c n rest
    return (a :: as, rest)

/-- A list, after its length. -/
def list (c : Codec α) : Codec (List α) where
  write as := wordBytes 8 as.length ++ as.flatMap c.write
  read bytes := do
    let (length, rest) ← readWord 8 bytes
    readMany c length rest
  Fits as := as.length < Nat.pow 256 8 ∧ ∀ a ∈ as, c.Fits a

/-- One of some values, by its index among them. -/
def choice [BEq α] (values : List α) : Codec α where
  write a := wordBytes 4 (values.idxOf a)
  read bytes := do
    let (index, rest) ← readWord 4 bytes
    match values[index]? with
    | some a => .ok (a, rest)
    | none => .error (.badIndex index values.length)
  Fits a := a ∈ values

/-- One of the alternatives of a type: what it holds, how that is
written, and which values are of its form. -/
structure Alternative (β : Type) where
  Content : Type
  codec : Codec Content
  make : Content → β
  content? : β → Option Content

/-- What is written for a value of one of the alternatives: the index of
the first that it is of the form of, and what it holds. -/
def writeOneOf (index : Nat) : List (Alternative β) → β → List UInt8
  | [], _ => []
  | alternative :: rest, b =>
    match alternative.content? b with
    | some a => wordBytes 4 index ++ alternative.codec.write a
    | none => writeOneOf (index + 1) rest b

/-- Whether a value is of the form of one of the alternatives, and what
it holds fits. -/
def FitsOneOf : List (Alternative β) → β → Prop
  | [], _ => False
  | alternative :: rest, b =>
    match alternative.content? b with
    | some a => alternative.codec.Fits a
    | none => FitsOneOf rest b

/-- A value of one of the alternatives, after the index of that one. -/
def oneOf (alternatives : List (Alternative β)) : Codec β where
  write := writeOneOf 0 alternatives
  read bytes := do
    let (index, rest) ← readWord 4 bytes
    match alternatives[index]? with
    | some alternative =>
      let (a, rest) ← alternative.codec.read rest
      return (alternative.make a, rest)
    | none => .error (.badIndex index alternatives.length)
  Fits := FitsOneOf alternatives

end Codec

end MechBattle
