/-
Checking files of rules.

* `FileCheck`: a file and what is wrong with it;
* `isRulesFile`: which files in a folder are checked;
* `checkFiles`: a file checked, or every file of rules in a folder in the
  order of their names.
-/
import MechBattle.Rules.Source

namespace MechBattle

/-- A file of rules and what is wrong with it, if anything is. -/
structure FileCheck where
  path : String
  fault : Option RulesFault

/-- Whether nothing is wrong with the file. -/
def FileCheck.passed (c : FileCheck) : Bool := c.fault.isNone

/-- What a file of rules is called at its end. -/
def rulesEnding : String := ".ron"

/-- Whether a file in a folder is a file of rules: its name ends that way
and has something in front. -/
def isRulesFile (name : String) : Bool :=
  rulesEnding.toList.isSuffixOf name.toList && decide (rulesEnding.length < name.length)

/-- The files of rules among the names in a folder, in order. -/
def rulesFiles (names : List String) : List String :=
  (names.filter isRulesFile).mergeSort fun a b => decide (a ≤ b)

/-- What is wrong with the rules found at a path. -/
def checkFound (path : String) (found : Except FileFault FileEntry) : FileCheck where
  path
  fault :=
    match Rules.ofFound path found with
    | .ok _ => none
    | .error fault => some fault

/-- A file checked, or every file of rules in a folder. -/
def checkFiles {m : Type → Type} [Monad m] (look : FileLookup m) (path : String) :
    m (List FileCheck) := do
  match ← look path with
  | .ok (.folder names) =>
    (rulesFiles names).mapM fun name => do
      let path := joinPath path name
      return checkFound path (← look path)
  | found => return [checkFound path found]

end MechBattle
