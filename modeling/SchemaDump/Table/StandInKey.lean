/-
**Stand-in primary keys.**

A policy turns a table without a primary key into one that has one. `Table.withFirstColumnKey` takes the
first column and notes that it did; a table without columns stays as it is.
-/

import SchemaDump.Table

namespace SchemaDump

/-- Chooses a stand-in primary key for a table that has none. -/
abbrev KeyPolicy := Table → Table

/-- The note on a column that stands in as the primary key. -/
def standInNote (table column : String) : String :=
  "table `" ++ table ++ "` has no primary key defined, using column `" ++ column ++
    "` at position 1"

/-- The table with its first column as the primary key. -/
def Table.withFirstColumnKey (table : Table) : Table :=
  match table.columns with
  | [] => table
  | first :: rest =>
    { table with
      columns :=
        { first with isPrimaryKey := true }.addNote (standInNote table.name first.name) :: rest
      primaryKey := [first.index] }

end SchemaDump
