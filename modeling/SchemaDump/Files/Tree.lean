/-
**Trees of directories and files.**

A directory lists its entries by name, in any order. `filesBelow` are all files at any depth, each with
the names that lead to it; `FileSystem.ofTree` finds entries by following paths. That needs a directory
for every step behind an entry, also for an empty step such as the one behind a final slash. A name has at
most 255 bytes, which shows only once the directory is reached, and a path at most 4095. A file may be
found and yet not be read, such as one without permission.
-/

import SchemaDump.Failure
import SchemaDump.Files.Path

namespace SchemaDump

/-- A file with its content, or a directory with its entries. -/
inductive FileEntry where
  | file (content : List UInt8)
  | directory (entries : List (String × FileEntry))

namespace FileEntry

mutual

/-- The files at or below an entry, each with the names that lead to it from there. -/
def filesBelow : FileEntry → List (List String × List UInt8)
  | file content => [([], content)]
  | directory entries => filesAmong entries

/-- The files at or below the entries of a directory. -/
def filesAmong : List (String × FileEntry) → List (List String × List UInt8)
  | [] => []
  | (name, entry) :: rest =>
    (filesBelow entry).map (fun (names, content) => (name :: names, content)) ++ filesAmong rest

end

/-- The directory without entries. -/
def emptyDirectory : FileEntry := directory []

/-- The entry of a directory with the given name. -/
def entry? (entries : List (String × FileEntry)) (name : String) : Option FileEntry :=
  (entries.find? fun entry => entry.1 == name).map Prod.snd

/-- The number of bytes that a name may have. -/
def nameLimit : Nat := 255

/-- Follows steps from an entry; `above` are the directories on the way to it, the nearest first. The
directory above the top is the top itself. -/
def follow (here : FileEntry) (above : List FileEntry) : List String → Except Reason FileEntry
  | [] => .ok here
  | step :: rest =>
    match here with
    | file _ => .error .notADirectory
    | directory entries =>
      if step = "" ∨ step = "." then follow here above rest
      else if step = ".." then follow (above.headD here) above.tail rest
      else if nameLimit < step.utf8ByteSize then .error .nameTooLong
      else match entry? entries step with
        | some entry => follow entry (here :: above) rest
        | none => .error .fileMissing

end FileEntry

/-- The number of bytes that a path may have. -/
def pathLimit : Nat := 4095

/-- Why a path leads nowhere, whatever the directories hold: a character 0, no text, or too many bytes. -/
def Path.fault? (path : Path) : Option Reason :=
  if path.text.toList.contains '\x00' then some .zeroInName
  else if path.text.isEmpty then some .fileMissing
  else if pathLimit < path.text.utf8ByteSize then some .nameTooLong
  else none

/-- What stands at each path, and which files cannot be read there, and why. -/
structure FileSystem where
  find : Path → Except Reason FileEntry
  withheld : Path → Option Reason := fun _ => none

namespace FileSystem

/-- The file system of two trees: one that relative paths start from, and one that absolute paths
start from. -/
def ofTree (working top : FileEntry) : FileSystem where
  find path :=
    match path.fault? with
    | some reason => .error reason
    | none => (if path.isAbsolute then top else working).follow [] path.steps

/-- The file system that knows the entry at one path, and the files below it. -/
def ofEntry (known : Path) (entry : FileEntry) : FileSystem where
  find path :=
    if path = known then .ok entry
    else match entry.filesBelow.find? fun file => known.below file.1 == path with
      | some (_, content) => .ok (.file content)
      | none => .error .fileMissing

/-- The content of the file at a path. -/
def content (files : FileSystem) (path : Path) : Except Reason (List UInt8) :=
  match files.find path with
  | .ok (.file content) => (files.withheld path).elim (.ok content) .error
  | .ok (.directory _) => .error .isADirectory
  | .error reason => .error reason

end FileSystem

end SchemaDump
