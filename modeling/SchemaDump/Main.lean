/-
**The program.**

Reads what stands at the input path, runs the request, and prints its outcome. A file that cannot be read
is reported only if it is asked for, and a directory that cannot be read is taken as empty.
-/

import SchemaDump.CommandLine

namespace SchemaDump

/-- What stands at and below a path: the entry, and the files in it that cannot be read. -/
structure Found where
  entry : FileEntry
  withheld : List (List String × Reason) := []

/-- The reason that the operating system gives. -/
def reasonOf : IO.Error → Reason
  | .permissionDenied _ code details | .resourceExhausted _ code details
  | .hardwareFault code details | .otherError code details =>
    .told (details ++ " (os error " ++ toString code ++ ")") []
  | other => .told (toString other) []

/-- Reads a file, which is there even if it cannot be read; `names` lead to it. -/
def readFile (names : List String) (place : IO.FS.DirEntry) : IO Found := do
  try
    let content ← IO.FS.readBinFile place.path
    pure { entry := .file content.toList }
  catch failure => pure { entry := .file [], withheld := [(names, reasonOf failure)] }

/-- Reads an entry of the given kind with everything below it. What is neither a file nor a directory is
left out, and so is what a directory does not tell. -/
partial def readEntry (names : List String) (kind : IO.FS.FileType) (place : IO.FS.DirEntry) :
    IO (Option Found) := do
  match kind with
  | .file => some <$> readFile names place
  | .dir =>
    let listed ← try place.path.readDir catch _ => pure #[]
    let read ← listed.toList.filterMapM fun entry => do
      try
        let kind := (← entry.path.symlinkMetadata).type
        let below ← readEntry (names ++ [entry.fileName]) kind entry
        pure (below.map (entry.fileName, ·))
      catch _ => pure none
    pure (some
      { entry := .directory (read.map fun (name, below) => (name, below.entry))
        withheld := read.flatMap fun (_, below) => below.withheld })
  | _ => pure none

/-- The files that stand at and below a path. -/
def Found.files (path : Path) (found : Found) : FileSystem :=
  { FileSystem.ofEntry path found.entry with
    withheld := fun asked => (found.withheld.find? fun (names, _) =>
      asked == if names.isEmpty then path else path.below names).map Prod.snd }

/-- The file system where nothing stands. -/
def noFiles : FileSystem := { find := fun _ => .error .fileMissing }

/-- Reads what stands at a path. -/
def readPath (path : Path) : IO FileSystem := do
  let place : IO.FS.DirEntry := ⟨← IO.currentDir, path.text⟩
  let found ← try readEntry [] (← place.path.metadata).type place catch _ => pure none
  pure ((found.map (Found.files path)).getD noFiles)

/-- Prints an outcome, and answers its code. -/
def Outcome.print (outcome : Outcome) : IO UInt32 := do
  (← IO.getStdout).putStr outcome.output
  if let some failure := outcome.failure then
    (← IO.getStderr).putStr failure
  pure (UInt32.ofNat outcome.code)

end SchemaDump

open SchemaDump

/-- Runs the program with its arguments. -/
def main (arguments : List String) : IO UInt32 := do
  let files ← match Request.ofArguments? arguments with
    | some (.inspect inspection _) => readPath inspection.input
    | _ => pure noFiles
  (runCommand files arguments).print
