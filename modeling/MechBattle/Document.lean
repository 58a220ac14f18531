/-
Documents: values as trees of named fields.

What the rules produce is shown and stored as documents, and tables of
rules are read from them. A document knows which names are bare words and
which records have a kind, so that it can be printed in more than one
way.

* `Document`: a tree of numbers, words, lists and records;
* `Documented`: types whose values have a document, and are read back
  from it;
* `entry`, `field?`, `fieldD`, `optional?`: the fields of records;
* `Document.ofWord?`: values that are written as one word each.
-/
import MechBattle.Counter

namespace MechBattle

/-- A value as a tree. -/
inductive Document where
  | number (n : Int)
  /-- A number written with a sign in front. -/
  | signed (n : Int)
  | flag (b : Bool)
  /-- Text in quotes. -/
  | text (s : String)
  /-- A bare name. -/
  | word (s : String)
  | absent
  /-- A value where there might have been none. -/
  | present (d : Document)
  /-- A value with the name of its kind around it. -/
  | wrapped (kind : String) (d : Document)
  | list (items : List Document)
  /-- Named fields, and the name of their kind unless that is empty. -/
  | record (kind : String) (fields : List (String × Document))
  /-- Something that no value of this library is written as. -/
  | other
  deriving Repr, Inhabited

/-- Types whose values have a document. -/
class Documented (α : Type) where
  /-- The document of a value. -/
  toDocument : α → Document
  /-- The value of a document, if it has the right form. -/
  ofDocument? : Document → Option α

export Documented (toDocument ofDocument?)

namespace Document

/-! ### Single values -/

/-- A whole number, with or without a sign. -/
def int? : Document → Option Int
  | number n | signed n => some n
  | _ => none

/-- A count below a bound, written without a sign. The name of its kind may
be around it. -/
def below? (bound : Nat) : Document → Option Nat
  | number n => if 0 ≤ n ∧ n < bound then some n.toNat else none
  | wrapped _ d => d.below? bound
  | _ => none

/-- A count of one byte. -/
def byte? (d : Document) : Option Nat := d.below? 256

instance : Documented Int where
  toDocument := number
  ofDocument? d := d.int?.filter fun n => decide (Counter.Mem n)

instance : Documented Nat where
  toDocument n := number n
  ofDocument? d := d.below? 4294967296

instance : Documented Bool where
  toDocument := flag
  ofDocument?
    | flag b => some b
    | _ => none

instance : Documented String where
  toDocument := text
  ofDocument?
    | text s | word s => some s
    | _ => none

instance {α : Type} [Documented α] : Documented (Option α) where
  toDocument
    | some a => present (toDocument a)
    | none => absent
  ofDocument?
    | absent => some none
    | present d | d => (ofDocument? d).map some

instance {α : Type} [Documented α] : Documented (List α) where
  toDocument as := list (as.map toDocument)
  ofDocument?
    | list items => items.mapM ofDocument?
    | _ => none

/-- The value that a word names. -/
def ofWord? {α : Type} (values : List (String × α)) : Document → Option α
  | word s => values.lookup s
  | _ => none

/-- The word for a value. -/
def ofNamed {α : Type} [BEq α] (values : List (String × α)) (a : α) : Document :=
  match values.find? fun (_, b) => b == a with
  | some (name, _) => word name
  | none => other

/-! ### Records -/

/-- The fields of a record of a kind. It need not say its kind. -/
def fields? (kind : String) : Document → Option (List (String × Document))
  | record k fields => if k = "" ∨ k = kind then some fields else none
  | _ => none

end Document

/-- A field of a record. -/
def entry {α : Type} [Documented α] (name : String) (a : α) : String × Document :=
  (name, toDocument a)

/-- The documents under a name. A record names a field once. -/
def named (fields : List (String × Document)) (name : String) : List Document :=
  (fields.filter fun (k, _) => k == name).map (·.2)

/-- A field that has to be there. -/
def field? {α : Type} [Documented α] (fields : List (String × Document)) (name : String) :
    Option α :=
  match named fields name with
  | [d] => ofDocument? d
  | _ => none

/-- A field with a value for when it is not there. -/
def fieldD {α : Type} [Documented α] (fields : List (String × Document)) (name : String) (a : α) :
    Option α :=
  match named fields name with
  | [] => some a
  | [d] => ofDocument? d
  | _ => none

/-- A field for something that there may be none of. -/
def optional? {α : Type} [Documented α] (fields : List (String × Document)) (name : String) :
    Option (Option α) :=
  fieldD fields name none

end MechBattle
