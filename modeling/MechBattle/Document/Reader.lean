/-
Reading documents from text.

Records are written `Kind(name: value, …)` with the kind left out if need
be, lists `[value, …]`, and words as bare names. Commas stand between the
elements, and one more may follow the last. A text may begin with lines
that switch on extensions of this form, `#![enable(…)]`. One of them lets
the brackets behind `Some` be left out; the others change nothing here.

* `Document.separated?`: elements between commas up to a closing
  character;
* `Document.Inside` and `Document.value?`: the value in front of a text,
  with a limit on how deep it goes;
* `Document.header?`: the extensions that are switched on, and the text
  behind that;
* `Document.ofText?`: the document that is a whole text.
-/
import MechBattle.Document
import MechBattle.Text.Blank
import MechBattle.Text.Literal

namespace MechBattle

namespace Document

open Blank (skip?)
open Literal

/-- Reads what stands in front of a text, and gives what is left of it. -/
abbrev Reader (α : Type) := List Char → Option (α × List Char)

/-! ### Elements -/

/-- Elements between commas, up to a closing character. Every element is
read from where blanks end, and has to leave less than there was. -/
def separated? {α : Type} (element? : Reader α) (close : Char) (cs : List Char) :
    Option (List α × List Char) := do
  match ← skip? cs with
  | [] => none
  | c :: rest =>
    if c = close then return ([], rest)
    else
      let (a, left) ← element? (c :: rest)
      match ← skip? left with
      | ',' :: rest =>
        if rest.length < cs.length then
          let (as, left) ← separated? element? close rest
          return (a :: as, left)
        else none
      | c :: rest => if c = close then return ([a], rest) else none
      | [] => none
termination_by cs.length

/-- The rest of a text that begins with a character, blanks apart. -/
def expect? (c : Char) (cs : List Char) : Option (List Char) := do
  match ← skip? cs with
  | d :: rest => if d = c then some rest else none
  | [] => none

/-- A first element, a colon and a second element. -/
def joined? {α β : Type} (first? : Reader α) (second? : Reader β) : Reader (α × β) := fun cs => do
  let (a, rest) ← first? cs
  let rest ← skip? (← expect? ':' rest)
  let (b, rest) ← second? rest
  return ((a, b), rest)

/-! ### Values -/

/-- Whether what stands behind an opening bracket is the name of a
field. -/
def beginsField (cs : List Char) : Bool :=
  match skip? cs with
  | some cs =>
    match name? cs with
    | some (_, rest) => (expect? ':' rest).isSome
    | none => false
  | none => false

/-- How what is inside a value is read. -/
structure Inside where
  /-- The one value behind `Some`, a step further inside. -/
  held? : Reader Document
  /-- Each of the values in brackets: the brackets are a step, and so is
  each way from them to what stands in them. -/
  member? : Reader Document

/-- What stands in brackets: the fields of a record, or values without
names, of which only none at all make a record. -/
def body? (inside : Inside) (kind : String) : Reader Document := fun cs => do
  if beginsField cs then
    let (fields, rest) ← separated? (joined? name? inside.member?) ')' cs
    return (record kind fields, rest)
  else
    let (items, rest) ← separated? inside.member? ')' cs
    return (if items.isEmpty then record kind [] else other, rest)

/-- What stands behind `Some`: one value in brackets, with a comma if need
be. The brackets may be left out if they are `implicit`. -/
def presentValue? (implicit : Bool) (inside : Inside) : Reader Document := fun cs => do
  match ← skip? cs with
  | '(' :: rest =>
    match ← separated? inside.held? ')' rest with
    | ([d], rest) => return (present d, rest)
    | _ => none
  | rest =>
    if implicit then
      let (d, rest) ← inside.held? rest
      return (present d, rest)
    else none

/-- The words that are values by themselves. Raw names are not among
them. -/
def fixedValues : List (String × Document) :=
  [("true", flag true), ("false", flag false), ("None", absent), ("inf", other), ("+inf", other),
    ("-inf", other), ("NaN", other), ("+NaN", other), ("-NaN", other)]

/-- A value that is a word by itself. -/
def fixedValue? : Reader Document := fun cs =>
  fixedValues.findSome? fun (name, d) => (fixed? name cs).map fun rest => (d, rest)

/-- What a name begins: a record, or values in brackets, or only a word. -/
def namedValue? (inside? : Option Inside) (name : String) : Reader Document := fun cs => do
  match ← skip? cs with
  | '(' :: rest => body? (← inside?) name rest
  | rest => return (word name, rest)

/-- The document of a number. -/
def ofNumeral : Numeral → Document
  | .plain n => number n
  | .signed n => signed n
  | .fraction => other

/-- A value that does not begin with a name. An empty pair of round
brackets has no inside. -/
def plainValue? (inside? : Option Inside) : Reader Document := fun cs => do
  match cs with
  | '(' :: ')' :: rest => return (record "" [], rest)
  | '(' :: rest => body? (← inside?) "" rest
  | '[' :: rest =>
    let (items, rest) ← separated? (← inside?).member? ']' rest
    return (list items, rest)
  | '\x7b' :: rest =>
    let member? := (← inside?).member?
    let (_, rest) ← separated? (joined? member? member?) '\x7d' rest
    return (other, rest)
  | '"' :: _ | 'r' :: _ => (text? cs).map fun (s, rest) => (text s, rest)
  | '\'' :: _ => (character? cs).map fun (_, rest) => (other, rest)
  | _ => (numeral? cs).map fun (n, rest) => (ofNumeral n, rest)

/-- The value in front of a text. Without a way to read what is inside, it
can only be one that has no inside. -/
def valueWith? (implicit : Bool) (inside? : Option Inside) : Reader Document := fun cs =>
  match fixedValue? cs with
  | some found => some found
  | none =>
    match fixed? "Some" cs with
    | some rest => inside?.bind fun inside => presentValue? implicit inside rest
    | none =>
      match name? cs with
      | some (name, rest) => namedValue? inside? name rest
      | none => plainValue? inside? cs

/-- The value in front of a text, whose insides are at most so many steps
away. -/
def value? (implicit : Bool) : Nat → Reader Document
  | 0 => valueWith? implicit none
  | 1 => valueWith? implicit (some ⟨value? implicit 0, fun _ => none⟩)
  | n + 2 => valueWith? implicit (some ⟨value? implicit (n + 1), value? implicit n⟩)

/-! ### Texts -/

/-- The extension that lets the brackets behind `Some` be left out. -/
def implicitSome : String := "implicit_some"

/-- The extensions that can be switched on. -/
def extensions : List String := ["unwrap_newtypes", implicitSome, "unwrap_variant_newtypes"]

/-- The rest of a text that begins with each of the given words in turn,
blanks apart. -/
def expectAll? : List String → List Char → Option (List Char)
  | [], cs => some cs
  | w :: words, cs => do
    let cs ← skip? cs
    if w.toList.isPrefixOf cs then expectAll? words (cs.drop w.length) else none

/-- One extension line, which names one extension at least. -/
def extensionLine? : Reader (List String) := fun cs => do
  let (names, rest) ← separated? name? ')' (← expectAll? ["#", "!", "[", "enable", "("] cs)
  if !names.isEmpty && names.all extensions.contains then return (names, ← expect? ']' rest)
  else none

/-- The extensions that leading extension lines switch on, and the text
behind these lines and blanks. -/
def header? (cs : List Char) : Option (List String × List Char) := do
  match ← skip? cs with
  | '#' :: rest =>
    let (names, left) ← extensionLine? ('#' :: rest)
    if left.length < cs.length then
      let (more, left) ← header? left
      return (names ++ more, left)
    else none
  | rest => return ([], rest)
termination_by cs.length

/-- How many steps the insides of values can be away. -/
def depthLimit : Nat := 128

/-- The document that is a whole text. -/
def ofText? (s : String) : Option Document := do
  let (extensions, cs) ← header? s.toList
  let (d, rest) ← value? (extensions.contains implicitSome) depthLimit cs
  if (← skip? rest).isEmpty then return d else none

end Document

end MechBattle
