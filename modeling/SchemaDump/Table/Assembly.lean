/-
**A table from what its source reports and what its statement declares.**

The reported list fixes the columns, their order and their positions. The statement adds clause, marks
and keys; a key member that names no reported column is dropped, and an index that loses all members
stays. Where a name is reported more than once, a key member means the last such column.
-/

import SchemaDump.NativeType
import SchemaDump.Source
import SchemaDump.Statement
import SchemaDump.Statement.ColumnMarks
import SchemaDump.Table

namespace SchemaDump

/-- Choices in loading a table. -/
structure LoadChoices where
  /-- What is put in front of the type name of an unsigned column. -/
  unsignedPrefix : String := "u"
  /-- Whether the source is asked for the length of character columns. -/
  refineLength : Bool := true
  /-- Whether a table without a primary key gets a stand-in. -/
  standInKey : Bool := true
  deriving DecidableEq, Repr

/-- Gives the name used for a server's type name. -/
abbrev TypeMapper := String → TypeName

/-- The note on an unsigned column. -/
def unsignedNote : String := "column is set for unsigned"

namespace Column

/-- The column as reported and declared, before its type is adjusted. -/
def ofReport (table : String) (statement : Statement) (source : Source) (types : TypeMapper)
    (index : Nat) (report : ReportedColumn) : Column :=
  let clause := (statement.columns.clause? report.name).getD ""
  let marks := ColumnMarks.ofClause clause
  let type := types report.nativeType
  { index := index
    name := report.name
    nullable := report.nullable.getD false
    nativeType := report.nativeType
    typeName := type.canonical
    length := type.length
    isPrimaryKey := statement.primaryKey.contains report.name
    isAutoIncrement := marks.autoIncrement
    isUnsigned := marks.unsigned
    defaultValue := ((source.rawDefault table report.name).map source.cleanDefault).getD ""
    comment := marks.comment
    clause := clause }

/-- The column with its type marked, if it is unsigned. -/
def markUnsigned (choices : LoadChoices) (column : Column) : Column :=
  if column.isUnsigned then
    { column with typeName := choices.unsignedPrefix ++ column.typeName }.addNote unsignedNote
  else column

/-- The column with the length that the source knows, if it is a character column; a failed lookup
leaves the length as it is. -/
def refineLength (table : String) (source : Source) (choices : LoadChoices)
    (column : Column) : Column :=
  if choices.refineLength && isTextType column.typeName then
    match source.charLength table column.name with
    | .ok length => { column with length := some length }
    | .error _ => column
  else column

end Column

namespace Table

/-- The position of the last column of the given name. -/
def lastPosition? (columns : List Column) (name : String) : Option Nat :=
  (columns.reverse.find? fun column => column.name == name).map Column.index

/-- The positions of the named columns, in order; names of no column are dropped. -/
def positionsOf (columns : List Column) (names : List String) : List Nat :=
  names.filterMap (lastPosition? columns)

/-- The columns of a table, one for each reported column. -/
def assembleColumns (table : String) (statement : Statement) (reports : List ReportedColumn)
    (source : Source) (types : TypeMapper) (choices : LoadChoices) : List Column :=
  reports.zipIdx.map fun (report, index) =>
    ((Column.ofReport table statement source types index report).markUnsigned choices).refineLength
      table source choices

/-- The table that the reported columns and the statement make. -/
def assemble (table : String) (text : String) (statement : Statement)
    (reports : List ReportedColumn) (source : Source) (types : TypeMapper)
    (choices : LoadChoices) : Table :=
  let columns := assembleColumns table statement reports source types choices
  { name := table
    statement := text
    columns := columns
    primaryKey := positionsOf columns statement.primaryKey
    uniqueIndexes := statement.uniqueIndexes.mapValues (positionsOf columns) }

end Table

end SchemaDump
