/-
Names, numbers and quoted text, as they stand in front of a text.

Each reader takes characters and gives what it read with the characters
left over, or nothing when they do not begin with what it reads.

* `Literal.name?`: names of letters, digits and underscores, or raw names
  after `r#`;
* `Literal.fixed?`: a given word that does not go on as a longer one;
* `Numeral` and `Literal.numeral?`: numbers, with `Literal.whole?` for
  whole ones to base 2, 8, 10 or 16 and `Literal.isDecimal` for
  fractions;
* `Literal.text?`: text in quotes with escapes, or raw text;
* `Literal.character?`: one character between apostrophes.
-/

namespace MechBattle

/-- A number as it is written. -/
inductive Numeral where
  /-- A whole number without a sign. -/
  | plain (n : Nat)
  /-- A whole number with a sign. -/
  | signed (n : Int)
  /-- A fraction, or a whole number too large to be read as one. -/
  | fraction
  deriving DecidableEq, Repr

namespace Literal

/-! ### Names -/

/-- Whether a name can begin with a character. -/
def isNameStart (c : Char) : Bool := c.isAlpha || c == '_'

/-- Whether a name can go on with a character. -/
def isNamePart (c : Char) : Bool := c.isAlphanum || c == '_'

/-- Whether a raw name can hold a character. -/
def isRawNamePart (c : Char) : Bool := isNamePart c || c == '.' || c == '+' || c == '-'

/-- The leading characters of a kind, and the others. -/
def span (p : Char → Bool) (cs : List Char) : List Char × List Char :=
  (cs.takeWhile p, cs.dropWhile p)

/-- A name. What would be a longer raw name is none. -/
def name? : List Char → Option (String × List Char)
  | 'r' :: '#' :: cs =>
    match span isRawNamePart cs with
    | ([], _) => none
    | (name, rest) => some (String.ofList name, rest)
  | 'r' :: '"' :: _ => none
  | cs =>
    match span isNamePart cs, span isRawNamePart cs with
    | (c :: name, rest), (raw, _) =>
      if isNameStart c && raw.length == name.length + 1 then
        some (String.ofList (c :: name), rest)
      else none
    | _, _ => none

/-- The rest of a text that begins with a given word, unless a name goes on
there. -/
def fixed? (word : String) (cs : List Char) : Option (List Char) :=
  if word.toList.isPrefixOf cs then
    match cs.drop word.length with
    | [] => some []
    | c :: rest => if isNamePart c then none else some (c :: rest)
  else none

/-! ### Numbers -/

/-- The value of a digit to base 16. -/
def digitValue? (c : Char) : Option Nat :=
  if '0' ≤ c ∧ c ≤ '9' then some (c.toNat - '0'.toNat)
  else if 'a' ≤ c ∧ c ≤ 'f' then some (c.toNat - 'a'.toNat + 10)
  else if 'A' ≤ c ∧ c ≤ 'F' then some (c.toNat - 'A'.toNat + 10)
  else none

/-- Whether a whole number can hold a character. -/
def isDigitPart (c : Char) : Bool := (digitValue? c).isSome || c == '_'

/-- The number that digits to a base stand for. Underscores between them
do not count. -/
def ofDigits? (base : Nat) (digits : List Char) : Option Nat :=
  digits.foldlM (fun n c =>
    if c = '_' then some n
    else
      match digitValue? c with
      | some d => if d < base then some (n * base + d) else none
      | none => none) 0

/-- The base of a whole number, and its digits. -/
def splitBase : List Char → Nat × List Char
  | '0' :: 'x' :: cs => (16, cs)
  | '0' :: 'b' :: cs => (2, cs)
  | '0' :: 'o' :: cs => (8, cs)
  | cs => (10, cs)

/-- A whole number without a sign. It does not begin with an
underscore. -/
def whole? (cs : List Char) : Option (Nat × List Char) :=
  let (base, cs) := splitBase cs
  match span isDigitPart cs with
  | ([], _) | ('_' :: _, _) => none
  | (digits, rest) => (ofDigits? base digits).map fun n => (n, rest)

/-- Whether a fraction can hold a character. -/
def isFractionPart (c : Char) : Bool :=
  c.isDigit || c == '.' || c == 'e' || c == 'E' || c == '+' || c == '-' || c == '_'

/-- The characters without a leading sign. -/
def dropSign : List Char → List Char
  | '+' :: cs | '-' :: cs => cs
  | cs => cs

/-- Whether the characters are a power of ten behind a fraction, or
none. -/
def isExponent : List Char → Bool
  | [] => true
  | 'e' :: cs | 'E' :: cs => !(dropSign cs).isEmpty && (dropSign cs).all Char.isDigit
  | _ => false

/-- Whether the characters are a decimal fraction: a sign if need be,
digits before or behind a point, and a power of ten. -/
def isDecimal (cs : List Char) : Bool :=
  match span Char.isDigit (dropSign cs) with
  | (whole, '.' :: rest) =>
    let (places, rest) := span Char.isDigit rest
    !(whole.isEmpty && places.isEmpty) && isExponent rest
  | (whole, rest) => !whole.isEmpty && isExponent rest

/-- A fraction. -/
def fraction? (cs : List Char) : Option (Numeral × List Char) :=
  let (digits, rest) := span isFractionPart cs
  if isDecimal digits then some (.fraction, rest) else none

/-- Whether what stands in front, sign apart, goes on as a fraction where
a whole number would end. -/
def goesOnAsFraction (cs : List Char) : Bool :=
  decide ((span isDigitPart (dropSign cs)).1.length <
    (span isFractionPart (dropSign cs)).1.length)

/-- A whole number of 64 bits, with a sign or without. -/
def word? : List Char → Option (Numeral × List Char)
  | '+' :: cs => do
    let (n, rest) ← whole? cs
    if n < 0x8000000000000000 then some (.signed n, rest) else none
  | '-' :: cs => do
    let (n, rest) ← whole? cs
    if n ≤ 0x8000000000000000 then some (.signed (-n), rest) else none
  | cs => do
    let (n, rest) ← whole? cs
    if n < 0x10000000000000000 then some (.plain n, rest) else none

/-- A number. One that is too large for 64 bits is read as a fraction. -/
def numeral? (cs : List Char) : Option (Numeral × List Char) :=
  if goesOnAsFraction cs then fraction? cs else (word? cs).orElse fun _ => fraction? cs

/-! ### Quoted text -/

/-- The character with a number, unless that is no character. -/
def ofNumber? (n : Nat) : Option Char := if n.isValidChar then some (Char.ofNat n) else none

/-- The number that digits to base 16 stand for. -/
def hexNumber? (digits : List Char) : Option Nat :=
  digits.foldlM (fun n c => (digitValue? c).map (n * 16 + ·)) 0

/-- What stands behind a backslash: a character of its own, or one given
by two digits, or by up to six in braces. -/
def escape? : List Char → Option (Char × List Char)
  | '\'' :: cs => some ('\'', cs)
  | '"' :: cs => some ('"', cs)
  | '\\' :: cs => some ('\\', cs)
  | 'n' :: cs => some ('\n', cs)
  | 'r' :: cs => some ('\r', cs)
  | 't' :: cs => some ('\t', cs)
  | '0' :: cs => some ('\x00', cs)
  | 'x' :: a :: b :: cs => do return (← ofNumber? (← hexNumber? [a, b]), cs)
  | 'u' :: '\x7b' :: cs =>
    match span (· != '\x7d') cs with
    | (digits, '\x7d' :: rest) =>
      if 1 ≤ digits.length ∧ digits.length ≤ 6 then do
        return (← ofNumber? (← hexNumber? digits), rest)
      else none
    | _ => none
  | _ => none

/-- Text up to the quote that ends it. -/
def textBody? : List Char → Option (List Char × List Char)
  | [] => none
  | '"' :: cs => some ([], cs)
  | '\\' :: cs =>
    match escape? cs with
    | none => none
    | some (c, rest) =>
      if rest.length < cs.length then (textBody? rest).map fun (text, rest) => (c :: text, rest)
      else none
  | c :: cs => (textBody? cs).map fun (text, rest) => (c :: text, rest)
termination_by cs => cs.length

/-- Raw text up to the first of the given endings. -/
def rawBody? (ending : List Char) : List Char → Option (List Char × List Char)
  | [] => none
  | c :: cs =>
    if ending.isPrefixOf (c :: cs) then some ([], (c :: cs).drop ending.length)
    else (rawBody? ending cs).map fun (text, rest) => (c :: text, rest)

/-- Text in quotes. Raw text has as many number signs before its first
quote as behind its last. -/
def text? : List Char → Option (String × List Char)
  | '"' :: cs => (textBody? cs).map fun (text, rest) => (String.ofList text, rest)
  | 'r' :: cs =>
    match span (· == '#') cs with
    | (signs, '"' :: rest) =>
      (rawBody? ('"' :: signs) rest).map fun (text, rest) => (String.ofList text, rest)
    | _ => none
  | _ => none

/-- A character between apostrophes. -/
def character? : List Char → Option (Char × List Char)
  | '\'' :: '\\' :: cs =>
    match escape? cs with
    | some (c, '\'' :: rest) => some (c, rest)
    | _ => none
  | '\'' :: c :: '\'' :: rest => if c = '\'' then none else some (c, rest)
  | _ => none

end Literal

end MechBattle
