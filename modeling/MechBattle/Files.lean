/-
What is found at the paths of a file system.

The library asks for files through a function, so that it works on a file
system as well as on files held in memory.

* `FileEntry`: a file or a folder;
* `FileFault`: why nothing can be read, with `FileFault.message`;
* `FileEntry.text`: the text of a file;
* `joinPath`: the path of what is in a folder.
-/
import MechBattle.Text.Utf8

namespace MechBattle

/-- What is found at a path. -/
inductive FileEntry where
  | file (bytes : List UInt8)
  /-- A folder, with the names of what is in it. -/
  | folder (names : List String)

/-- Why nothing can be read at a path. -/
inductive FileFault where
  | missing
  | denied
  /-- A file is used as a folder. -/
  | notAFolder
  /-- A folder is used as a file. -/
  | isAFolder
  /-- The path, or a part of it, is longer than any can be. -/
  | tooLong
  /-- The path holds a character that no path can hold. -/
  | zeroInPath
  /-- The bytes are no text. -/
  | notText
  deriving DecidableEq, Repr

/-- The wording of a fault. -/
def FileFault.message : FileFault → String
  | .missing => "No such file or directory (os error 2)"
  | .denied => "Permission denied (os error 13)"
  | .notAFolder => "Not a directory (os error 20)"
  | .isAFolder => "Is a directory (os error 21)"
  | .tooLong => "File name too long (os error 36)"
  | .zeroInPath => "file name contained an unexpected NUL byte"
  | .notText => "stream did not contain valid UTF-8"

/-- The text of a file. -/
def FileEntry.text : FileEntry → Except FileFault String
  | .folder _ => .error .isAFolder
  | .file bytes =>
    match Utf8.decode bytes with
    | .ok s => .ok s
    | .error _ => .error .notText

/-- How paths are looked up. -/
abbrev FileLookup (m : Type → Type) := String → m (Except FileFault FileEntry)

/-- The path of something in a folder. A folder without a name is where
paths begin. -/
def joinPath (folder name : String) : String :=
  if folder.isEmpty then name
  else if folder.toList.getLast? = some '/' then folder ++ name
  else folder ++ "/" ++ name

end MechBattle
