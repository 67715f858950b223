/-
**Finding statement files.**

A path to a file stands for that file alone. A path to a directory stands for all files below it, at any
depth, with the extension `sql` and, if there is a pattern, with a relative path that it admits. They are
ordered name by name from the directory on. Finding none is a failure, and so is a faulty pattern, which
is read only if the path is to no file.
-/

import SchemaDump.Files.Matching
import SchemaDump.Files.Tree

namespace SchemaDump

/-- The names that lead to statement files below an entry that is a directory. -/
def statementFiles (entry : FileEntry) (admits : String → Bool) : List (List String) :=
  let names := (entry.filesBelow.map Prod.fst).filter fun names =>
    names.getLast?.any (hasExtension "sql") && admits ("/".intercalate names)
  names.mergeSort fun first second => !second.lex first fun name other => decide (name < other)

/-- Reads the pattern of file names, if there is one, as a test. -/
def includeTest (pattern : Option String) : Except PatternFault (String → Bool) :=
  match pattern with
  | none => .ok fun _ => true
  | some text => (Pattern.ofText text).map Pattern.admits

/-- The statement files that a path and a pattern stand for, in order. -/
def findStatements (files : FileSystem) (path : Path) (pattern : Option String) :
    Except RunFailure (List Path) :=
  match files.find path with
  | .ok (.file _) => .ok [path]
  | found => do
    let admits ← (includeTest pattern).mapError .pattern
    let names := match found with
      | .ok entry => statementFiles entry admits
      | .error _ => []
    if names.isEmpty then .error (.files (.noFiles path.text))
    else .ok (names.map path.below)

end SchemaDump
