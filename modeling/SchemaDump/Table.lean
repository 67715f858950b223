/-
**Tables as loaded.**

A table lists its columns in the order in which the source reports them. Its keys hold positions in
that list: the primary key in key order, each unique index in index order. Reading a key back drops
positions outside the list.
-/

import SchemaDump.NameMap
import SchemaDump.Text.Blank

namespace SchemaDump

open SchemaDump.Text

/-- A column of a table. -/
structure Column where
  index : Nat := 0
  name : String := ""
  nullable : Bool := false
  /-- The type as the source names it. -/
  nativeType : String := ""
  /-- The name used for the type. -/
  typeName : String := ""
  length : Option Nat := none
  isPrimaryKey : Bool := false
  isAutoIncrement : Bool := false
  isUnsigned : Bool := false
  defaultValue : String := ""
  comment : String := ""
  notes : String := ""
  /-- The clause that declares the column in the statement. -/
  clause : String := ""
  deriving DecidableEq, Repr

/-- The column with one more note, trimmed and set off by a space. -/
def Column.addNote (column : Column) (note : String) : Column :=
  { column with
    notes := (if column.notes.isEmpty then "" else column.notes ++ " ") ++
      String.ofList (trim note.toList) }

/-- A table. -/
structure Table where
  name : String := ""
  /-- The text of the statement that declares the table. -/
  statement : String := ""
  columns : List Column := []
  primaryKey : List Nat := []
  uniqueIndexes : NameMap (List Nat) := {}
  deriving DecidableEq

namespace Table

/-- The first column of the given name. -/
def column? (table : Table) (name : String) : Option Column :=
  table.columns.find? fun column => column.name == name

/-- The columns at the positions, in their order; positions outside the table are dropped. -/
def columnsAt (table : Table) (positions : List Nat) : List Column :=
  positions.filterMap fun position => table.columns[position]?

/-- The columns of the primary key, in key order. -/
def primaryKeyColumns (table : Table) : List Column := table.columnsAt table.primaryKey

/-- The columns of a unique index, in index order. -/
def uniqueIndex? (table : Table) (name : String) : Option (List Column) :=
  (table.uniqueIndexes.get? name).map table.columnsAt

/-- The unique indexes with their columns, in order of index names. -/
def uniqueIndexColumns (table : Table) : List (String × List Column) :=
  table.uniqueIndexes.entries.map fun (name, positions) => (name, table.columnsAt positions)

end Table

end SchemaDump
