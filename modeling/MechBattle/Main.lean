/-
The program `mechbattle`: commands for authors of rules, on the files of
the system.
-/
import MechBattle.CommandLine

namespace MechBattle

/-- Why the system did not give a file. -/
def FileFault.ofSystem : IO.Error → FileFault
  | .permissionDenied .. => .denied
  | .inappropriateType .. => .notAFolder
  | .invalidArgument _ 36 _ => .tooLong
  | _ => .missing

/-- What is in the folder at a path, if there is one. -/
def folderInSystem? (path : String) : IO (Option FileEntry) := do
  try
    let place ← IO.FS.realPath path
    if ← place.isDir then
      return some (.folder ((← place.readDir).toList.map (·.fileName)))
    else return none
  catch _ => return none

/-- What the system has at a path. -/
def lookInSystem : FileLookup IO := fun path => do
  try return .ok (.file (← IO.FS.readBinFile path).toList)
  catch fault =>
    match ← folderInSystem? path with
    | some folder => return .ok folder
    | none => return .error (.ofSystem fault)

end MechBattle

/-- Runs a command: its output goes to standard output, with what went
wrong behind it. -/
def main (arguments : List String) : IO UInt32 := do
  let outcome ← MechBattle.runCommand MechBattle.lookInSystem arguments
  for text in outcome.output do IO.println text
  for message in outcome.errors do IO.println ("ERROR " ++ MechBattle.Lines.shown message)
  return .ofNat outcome.exitCode
