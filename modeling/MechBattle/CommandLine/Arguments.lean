/-
Taking apart the arguments of a command.

An argument is a switch, an option with a value (behind it, or after an
equals sign), or a plain word. Behind `--` all arguments are words.

* `ArgumentForm`: the switches, options and words that a command takes,
  and which values are right for them;
* `Arguments`: what was given;
* `Arguments.scan`: the arguments taken apart, up to the first mistake;
* `Usage`: why a command is not carried out;
* `readInt?`, `readWord?`: numbers as arguments.
-/
import MechBattle.Counter

namespace MechBattle

/-- Why a command is not carried out. -/
inductive Usage where
  /-- Help was asked for. -/
  | help
  /-- The arguments are not those of a command. -/
  | wrong
  deriving DecidableEq, Repr

/-- What a command takes. -/
structure ArgumentForm where
  switches : List String := []
  /-- Options, each with the values that are right for it. -/
  options : List (String × (String → Bool)) := []
  /-- Words in order, each with what is right for it. -/
  words : List (String → Bool) := []

/-- What was given to a command. -/
structure Arguments where
  switches : List String := []
  options : List (String × String) := []
  words : List String := []
  deriving DecidableEq, Repr

namespace Arguments

/-- Whether a switch was given. -/
def has (a : Arguments) (name : String) : Bool := a.switches.contains name

/-- The value of an option, if it was given. -/
def value? (a : Arguments) (name : String) : Option String := a.options.lookup name

/-- Whether an argument is a word wherever it stands. -/
def isWord (argument : String) : Bool :=
  argument == "-" || argument.toList.head? != some '-'

/-- An argument up to its first equals sign, and what is behind that. -/
def splitValue (argument : String) : String × Option String :=
  let name := String.ofList (argument.toList.takeWhile (· != '='))
  match argument.toList.dropWhile (· != '=') with
  | [] => (name, none)
  | _ :: value => (name, some (String.ofList value))

/-- One more word, if there is one to come and it is right. -/
def addWord (form : ArgumentForm) (a : Arguments) (word : String) : Except Usage Arguments :=
  match form.words[a.words.length]? with
  | some isRight =>
    if isRight word then .ok { a with words := a.words ++ [word] } else .error .wrong
  | none => .error .wrong

/-- One more switch, which is given once and has no value. -/
def addSwitch (a : Arguments) (name : String) (value : Option String) : Except Usage Arguments :=
  if value.isNone && !a.has name then .ok { a with switches := a.switches ++ [name] }
  else .error .wrong

/-- One more option, which is given once. -/
def addOption (a : Arguments) (isRight : String → Bool) (name value : String) :
    Except Usage Arguments :=
  if (a.value? name).isNone && isRight value then
    .ok { a with options := a.options ++ [(name, value)] }
  else .error .wrong

/-- Arguments of which all are words. -/
def scanWords (form : ArgumentForm) (a : Arguments) (arguments : List String) :
    Except Usage Arguments :=
  arguments.foldlM (addWord form) a

/-- The arguments taken apart. -/
def scan (form : ArgumentForm) (a : Arguments) : List String → Except Usage Arguments
  | [] => .ok a
  | argument :: rest =>
    if argument == "--" then scanWords form a rest
    else if argument == "--help" || argument == "-h" then .error .help
    else if isWord argument then do scan form (← addWord form a argument) rest
    else
      let (name, value) := splitValue argument
      if form.switches.contains name then do scan form (← addSwitch a name value) rest
      else
        match form.options.lookup name with
        | none => .error .wrong
        | some isRight =>
          match value with
          | some value => do scan form (← addOption a isRight name value) rest
          | none =>
            match rest with
            | [] => .error .wrong
            | value :: rest =>
              if isWord value then do scan form (← addOption a isRight name value) rest
              else .error .wrong

end Arguments

/-! ### Numbers -/

/-- A number given by decimal digits. -/
def readDigits? (digits : List Char) : Option Nat :=
  if !digits.isEmpty && digits.all Char.isDigit then
    some (digits.foldl (fun n c => n * 10 + (c.toNat - '0'.toNat)) 0)
  else none

/-- A whole number, with a sign if need be. -/
def readInt? (s : String) : Option Int :=
  match s.toList with
  | '-' :: digits => (readDigits? digits).map fun n => -(n : Int)
  | '+' :: digits => (readDigits? digits).map fun n => (n : Int)
  | digits => (readDigits? digits).map fun n => (n : Int)

/-- A counter. -/
def readCounter? (s : String) : Option Int := (readInt? s).filter fun n => decide (Counter.Mem n)

/-- A count of 32 bits. -/
def readCount? (s : String) : Option Nat :=
  (readInt? s).bind fun n => if 0 ≤ n ∧ n < 0x100000000 then some n.toNat else none

/-- A count of 64 bits. It has no minus sign, not even at zero. -/
def readWord? (s : String) : Option Nat :=
  if s.toList.head? = some '-' then none
  else (readInt? s).bind fun n => if n < 0x10000000000000000 then some n.toNat else none

end MechBattle
