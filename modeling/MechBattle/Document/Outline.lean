/-
Printing documents, one field to a line.

* `Document.outline`: with the kind of every record, four blanks to a
  level;
* `Document.json`: in JSON, two blanks to a level.
-/
import MechBattle.Document

namespace MechBattle

namespace Document

/-! ### Lines -/

/-- The lines further to the right. -/
def indent (width : Nat) (lines : List String) : List String :=
  lines.map (String.ofList (List.replicate width ' ') ++ ·)

/-- The lines with something in front of the first. -/
def leading (front : String) : List String → List String
  | [] => [front]
  | line :: rest => (front ++ line) :: rest

/-- The lines with something behind the last. -/
def trailing (back : String) : List String → List String
  | [] => [back]
  | [line] => [line ++ back]
  | line :: rest => line :: trailing back rest

/-- Blocks of lines between an opening and a closing one. -/
def enclosed (width : Nat) (start stop : String) (blocks : List (List String)) : List String :=
  if blocks.isEmpty then [start ++ stop] else start :: blocks.flatMap (indent width) ++ [stop]

/-- Blocks of lines, each but the last with a comma behind it. -/
def commaBetween : List (List String) → List (List String)
  | [] => []
  | [block] => [block]
  | block :: rest => trailing "," block :: commaBetween rest

/-! ### Quoted text -/

/-- The digit for a number below sixteen. -/
def hexDigit (n : Nat) : Char := "0123456789abcdef".toList.getD n '0'

/-- A character inside quotes. What has no short form of its own is given
by its number. -/
def quotedChar (c : Char) : List Char :=
  match c with
  | '"' => ['\\', '"']
  | '\\' => ['\\', '\\']
  | '\n' => ['\\', 'n']
  | '\r' => ['\\', 'r']
  | '\t' => ['\\', 't']
  | '\x08' => ['\\', 'b']
  | '\x0c' => ['\\', 'f']
  | c =>
    if c.toNat < 0x20 then
      ['\\', 'u', '0', '0', hexDigit (c.toNat / 16), hexDigit (c.toNat % 16)]
    else [c]

/-- Text in quotes. -/
def quoted (s : String) : String := "\"" ++ String.ofList (s.toList.flatMap quotedChar) ++ "\""

/-- A truth value as a word. -/
def flagWord (b : Bool) : String := if b then "true" else "false"

/-! ### Outlines -/

/-- A block of one value in brackets after a name. -/
def bracketed (name : String) (block : List String) : List String :=
  enclosed 4 (name ++ "(") ")" [trailing "," block]

mutual

/-- The lines of a document, with the kind of every record. -/
def outline : Document → List String
  | number n | signed n => [toString n]
  | flag b => [flagWord b]
  | text s => [quoted s]
  | word s => [s]
  | absent => ["None"]
  | present d => bracketed "Some" (outline d)
  | wrapped kind d => bracketed kind (outline d)
  | list items => enclosed 4 "[" "]" (outlineItems items)
  | record kind fields => enclosed 4 (kind ++ " \x7b") "\x7d" (outlineFields fields)
  | other => ["_"]

/-- The blocks of the elements of a list. -/
def outlineItems : List Document → List (List String)
  | [] => []
  | d :: rest => trailing "," (outline d) :: outlineItems rest

/-- The blocks of the fields of a record. -/
def outlineFields : List (String × Document) → List (List String)
  | [] => []
  | (name, d) :: rest => trailing "," (leading (name ++ ": ") (outline d)) :: outlineFields rest

end

/-! ### JSON -/

mutual

/-- The lines of a document in JSON. -/
def json : Document → List String
  | number n | signed n => [toString n]
  | flag b => [flagWord b]
  | text s | word s => [quoted s]
  | absent | other => ["null"]
  | present d | wrapped _ d => json d
  | list items => enclosed 2 "[" "]" (commaBetween (jsonItems items))
  | record _ fields => enclosed 2 "\x7b" "\x7d" (commaBetween (jsonFields fields))

/-- The blocks of the elements of a list. -/
def jsonItems : List Document → List (List String)
  | [] => []
  | d :: rest => json d :: jsonItems rest

/-- The blocks of the fields of a record. -/
def jsonFields : List (String × Document) → List (List String)
  | [] => []
  | (name, d) :: rest => leading (quoted name ++ ": ") (json d) :: jsonFields rest

end

end Document

end MechBattle
