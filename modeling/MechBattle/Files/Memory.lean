/-
Files held in memory.

A path is followed part by part: each folder on the way has to exist
before anything in it is looked for. Outside the folder where paths begin
nothing is known to be.

* `MemoryFiles`: files and folders by the parts of their paths;
* `MemoryFiles.write` and `MemoryFiles.ofPaths`: files written one after
  the other, with the folders on the way to them;
* `MemoryFiles.follow`: where the parts of a path lead;
* `MemoryFiles.look`: what is found at a path.
-/
import MechBattle.Files

namespace MechBattle

/-- Files and folders by the parts of their paths. Of several files at one
place the first counts. The folder where paths begin is always there. -/
structure MemoryFiles where
  files : List (List String × List UInt8) := []
  folders : List (List String) := []

/-- Where a part of a path leads from a folder. -/
inductive PathStep where
  /-- Nowhere else: the part has no name, or is a single dot. -/
  | stay
  /-- Out of the folder: the part is two dots. -/
  | out
  /-- To something in the folder. -/
  | into (name : String)

/-- Where a part of a path leads. -/
def PathStep.ofPart (part : String) : PathStep :=
  if part == "" || part == "." then .stay
  else if part == ".." then .out
  else .into part

namespace MemoryFiles

/-- The largest number of bytes of a part of a path. -/
def partLimit : Nat := 255

/-- The largest number of bytes of a path. -/
def pathLimit : Nat := 4095

/-! ### Writing files -/

/-- A file written where the parts of a path lead from a folder. The
folders on the way are made, and a file that was there is replaced. -/
def write (bytes : List UInt8) (held : MemoryFiles) (place : List String) :
    List String → MemoryFiles
  | [] => held
  | part :: rest =>
    match PathStep.ofPart part with
    | .stay => write bytes held place rest
    | .out => write bytes held place.dropLast rest
    | .into name =>
      let place := place ++ [name]
      if rest.isEmpty then { held with files := (place, bytes) :: held.files }
      else write bytes { held with folders := place :: held.folders } place rest

/-- Files by their whole paths, written in this order. -/
def ofPaths (files : List (String × List UInt8)) : MemoryFiles :=
  files.foldl (fun held (path, bytes) => held.write bytes [] (path.splitOn "/")) {}

/-! ### Looking for files -/

/-- The names of what is in a folder. -/
def names (held : MemoryFiles) (folder : List String) : List String :=
  ((held.folders ++ held.files.map (·.1)).filterMap fun place =>
    if place.dropLast = folder then place.getLast? else none).eraseDups

/-- What is at a place, which is `none` outside the folder where paths
begin. -/
def find (held : MemoryFiles) : Option (List String) → Except FileFault FileEntry
  | none => .ok (.folder [])
  | some place =>
    match held.files.lookup place with
    | some bytes => .ok (.file bytes)
    | none =>
      if place.isEmpty || held.folders.contains place then .ok (.folder (held.names place))
      else .error .missing

/-- The place outside a folder. -/
def outside? (place : List String) : Option (List String) :=
  if place.isEmpty then none else some place.dropLast

/-- Where the parts of a path lead from a place. -/
def follow (held : MemoryFiles) (place : Option (List String)) :
    List String → Except FileFault (Option (List String))
  | [] => .ok place
  | part :: rest =>
    match held.find place with
    | .error fault => .error fault
    | .ok (.file _) => .error .notAFolder
    | .ok (.folder _) =>
      match PathStep.ofPart part with
      | .stay => follow held place rest
      | .out => follow held (place.bind outside?) rest
      | .into name =>
        if partLimit < name.utf8ByteSize then .error .tooLong
        else
          match place with
          | some place => follow held (some (place ++ [name])) rest
          | none => .error .missing

/-- What is found at a path. A path without characters leads nowhere, and
one that begins with `/` begins outside. -/
def look (held : MemoryFiles) : FileLookup Id := fun path =>
  if path.toList.contains '\x00' then .error .zeroInPath
  else if path.isEmpty then .error .missing
  else if pathLimit < path.utf8ByteSize then .error .tooLong
  else
    let start := if path.toList.head? = some '/' then none else some []
    (held.follow start (path.splitOn "/")).bind held.find

end MemoryFiles

end MechBattle
