/-
**Loading every table of a path.**

The files that a path stands for are read in order and registered in one catalog, each under the name in
its statement or else under its file name without extension. An unreadable file and a repeated name stop
the run there and then. After that the tables are loaded in the same order, and the first one that fails
stops the run.
-/

import SchemaDump.Catalog
import SchemaDump.Files.Decoding
import SchemaDump.Files.Discovery
import SchemaDump.Loader

namespace SchemaDump

/-- What to load, and how. -/
structure Inspection where
  input : Path
  pattern : Option String := none
  choices : LoadChoices := {}

/-- The name under which a statement file is registered. -/
def registeredName (path : Path) (text : String) : String :=
  ((Statement.ofText text).tableName).getD ((path.name?.map fileStem).getD "table")

/-- The catalog of the files with their names in order, after those that are registered already. -/
def registerFiles (files : FileSystem) (catalog : Catalog) :
    List Path → Except RunFailure (Catalog × List String)
  | [] => .ok (catalog, [])
  | path :: rest => do
    let text ← (readStatement files path).mapError .files
    let name := registeredName path text
    if catalog.contains name then .error (.repeatedTable name)
    else do
      let (full, names) ← registerFiles files (catalog.register name text) rest
      pure (full, name :: names)

/-- Loads one table for a run. -/
def loadFor (loader : Loader) (name : String) : Except RunFailure Table :=
  (loader.load name).mapError (.table name)

/-- Loads every table that the input stands for. -/
def Inspection.run (inspection : Inspection) (files : FileSystem) :
    Except RunFailure (List Table) := do
  let paths ← findStatements files inspection.input inspection.pattern
  let (catalog, names) ← registerFiles files .empty paths
  names.mapM (loadFor { source := catalog.source, choices := inspection.choices })

end SchemaDump
