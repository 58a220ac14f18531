/-
Rules from text and from files.

* `RulesFault`: why rules cannot be used, with `RulesFault.message`;
* `Rules.check`: rules without a flaw;
* `Rules.ofText`: the rules that a text describes;
* `Rules.load`: the rules in a file.
-/
import MechBattle.Document.Reader
import MechBattle.Files
import MechBattle.Rules.Document
import MechBattle.Rules.Flaw

namespace MechBattle

/-- Why rules cannot be used. -/
inductive RulesFault where
  | unreadable (path : String) (cause : FileFault)
  /-- The text at the path describes no rules. -/
  | malformed (path : String)
  | flawed (flaws : List Flaw)

/-- The wording of a fault. -/
def RulesFault.message : RulesFault → String
  | .unreadable path cause => s!"Failed to read rules file '{path}': {cause.message}"
  | .malformed path => s!"Failed to parse rules file '{path}'"
  | .flawed flaws => "Invalid rules: " ++ "; ".intercalate (flaws.map Flaw.message)

namespace Rules

/-- The rules, if they have no flaw. -/
def check (rules : Rules) : Except RulesFault Rules :=
  if rules.Sound then .ok rules else .error (.flawed rules.flaws)

/-- The rules that the text at a path describes. -/
def ofText (path text : String) : Except RulesFault Rules :=
  match (Document.ofText? text).bind ofDocument? with
  | some rules => check rules
  | none => .error (.malformed path)

/-- The rules in what was found at a path. -/
def ofFound (path : String) (found : Except FileFault FileEntry) : Except RulesFault Rules :=
  match found.bind FileEntry.text with
  | .ok text => ofText path text
  | .error cause => .error (.unreadable path cause)

/-- The rules in a file. -/
def load {m : Type → Type} [Monad m] (look : FileLookup m) (path : String) :
    m (Except RulesFault Rules) := do
  return ofFound path (← look path)

end Rules

end MechBattle
