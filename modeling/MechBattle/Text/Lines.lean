/-
Lines of output.

* `Lines.printed`: the lines that a text makes when it is printed;
* `Lines.shown`: a message as it is shown, without characters that would
  command a terminal.
-/

namespace MechBattle

namespace Lines

/-- A line without the return in front of its end. -/
def withoutReturn (line : String) : String :=
  if line.toList.getLast? = some '\r' then String.ofList line.toList.dropLast else line

/-- The lines that a text makes when it is printed with a line end behind
it. -/
def printed (text : String) : List String := (text.splitOn "\n").map withoutReturn

/-- The two digits to base sixteen of a number below 256. -/
def hexPair (n : Nat) : List Char := [Nat.digitChar (n / 16), Nat.digitChar (n % 16)]

/-- Whether a character commands a terminal: escape, bell, backspace, form
feed and delete do. -/
def isCommand (c : Char) : Bool := ['\x1b', '\x07', '\x08', '\x0c', '\x7f'].contains c

/-- Whether a character is one of the upper control characters. -/
def isUpperControl (c : Char) : Bool := 0x80 ≤ c.toNat && c.toNat ≤ 0x9f

/-- A character of a message as it is shown. -/
def shownChar (c : Char) : List Char :=
  if isCommand c then ['\\', 'x'] ++ hexPair c.toNat
  else if isUpperControl c then ['\\', 'u', '\x7b'] ++ hexPair c.toNat ++ ['\x7d']
  else [c]

/-- A message as it is shown: characters that command a terminal are
written by their numbers. -/
def shown (message : String) : String := String.ofList (message.toList.flatMap shownChar)

end Lines

end MechBattle
