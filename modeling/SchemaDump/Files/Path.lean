/-
**Paths.**

A path is kept as it is written, since messages show it so. Its steps are the texts between slashes; a
step that is empty or a single point stays where it is.
-/

namespace SchemaDump

/-- A path as written. -/
structure Path where
  text : String
  deriving DecidableEq, Repr

namespace Path

/-- The texts between the slashes of the path. -/
def steps (path : Path) : List String :=
  (path.text.toList.splitOn '/').map String.ofList

/-- Does the path start with a slash? -/
def isAbsolute (path : Path) : Bool := path.text.toList.head? == some '/'

/-- The path of an entry below a directory, given by its names from there. -/
def below (path : Path) (names : List String) : Path :=
  let slash := if path.text.toList.getLast? == some '/' then "" else "/"
  ⟨path.text ++ slash ++ "/".intercalate names⟩

/-- The last step that stays nowhere, if it is a name and does not lead upwards. -/
def name? (path : Path) : Option String :=
  (path.steps.filter fun step => step != "" && step != ".").getLast?.filter (· != "..")

end Path

/-! ### Names of files -/

/-- The parts of a file name before and behind its last point; a point at the front counts as part of
the first part. -/
def cutExtension (name : List Char) : List Char × Option (List Char) :=
  match name.reverse.dropWhile (· != '.') with
  | [] => (name, none)
  | _ :: [] => (name, none)
  | _ :: stem => (stem.reverse, some (name.reverse.takeWhile (· != '.')).reverse)

/-- The name of a file without its extension. -/
def fileStem (name : String) : String := String.ofList (cutExtension name.toList).1

/-- Does the name of a file have exactly the extension? -/
def hasExtension (extension name : String) : Bool :=
  (cutExtension name.toList).2 == some extension.toList

end SchemaDump
