/-
Blanks and comments between the words of a text.

A comment runs from `//` to the end of the line, or from `/*` to `*/`,
and comments of the second kind may hold others.

* `isBlank`: blanks, tabs and ends of lines, and nothing else;
* `Blank.skip?`: the text behind its leading blanks and comments.
-/

namespace MechBattle

/-- Whether a character separates words. -/
def isBlank (c : Char) : Bool := c == ' ' || c == '\t' || c == '\r' || c == '\n'

namespace Blank

/-- What is being passed over. -/
inductive Mode where
  /-- Blanks. -/
  | blanks
  /-- A comment up to the end of the line. -/
  | line
  /-- A comment with so many others around it. -/
  | block (around : Nat)

/-- The text behind blanks and comments. There is none when a comment
does not end, or when a slash begins none. -/
def skipIn? : Mode → List Char → Option (List Char)
  | .blanks, [] => some []
  | .blanks, '/' :: '/' :: cs => skipIn? .line cs
  | .blanks, '/' :: '*' :: cs => skipIn? (.block 0) cs
  | .blanks, '/' :: _ => none
  | .blanks, c :: cs => if isBlank c then skipIn? .blanks cs else some (c :: cs)
  | .line, [] => some []
  | .line, c :: cs => if c = '\n' then skipIn? .blanks cs else skipIn? .line cs
  | .block _, [] => none
  | .block n, '/' :: '*' :: cs => skipIn? (.block (n + 1)) cs
  | .block 0, '*' :: '/' :: cs => skipIn? .blanks cs
  | .block (n + 1), '*' :: '/' :: cs => skipIn? (.block n) cs
  | .block n, _ :: cs => skipIn? (.block n) cs

/-- The text behind its leading blanks and comments. -/
def skip? (cs : List Char) : Option (List Char) := skipIn? .blanks cs

end Blank

end MechBattle
