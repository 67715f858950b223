/-
**What a table statement declares.**

A statement is read line by line, and each line adds what its role says:

* the first head line with a quoted name names the table;
* a column line declares its column, in place of an earlier clause of the same name;
* a primary key line appends its columns to the key;
* a unique key line sets the columns of its index, in place of an earlier index of the same name;
* a malformed key line is skipped and kept, with its number, as such.
-/

import SchemaDump.NameMap
import SchemaDump.Statement.ColumnLine
import SchemaDump.Statement.KeyLine
import SchemaDump.Statement.Line

namespace SchemaDump

/-- A key line that could not be read. -/
structure MalformedLine where
  number : Nat
  text : String
  deriving DecidableEq, Repr

/-- What a table statement declares. -/
structure Statement where
  tableName : Option String := none
  columns : ClauseTable := .empty
  primaryKey : List String := []
  uniqueIndexes : NameMap (List String) := .empty
  skipped : List MalformedLine := []
  deriving DecidableEq

namespace Statement

/-- The statement with a key line skipped. -/
def skip (statement : Statement) (line : Line) : Statement :=
  { statement with skipped := statement.skipped ++ [⟨line.number, String.ofList line.text⟩] }

/-- The table name that a line gives, if it is the head of the statement. -/
def headName? (line : List Char) : Option String :=
  if createTable.isPrefixOf line then (cutQuotedName? line).map fun cut => String.ofList cut.name
  else none

/-- The statement with what one more line adds. -/
def addLine (statement : Statement) (line : Line) : Statement :=
  match line.role with
  | .ignorable => { statement with tableName := statement.tableName <|> headName? line.text }
  | .column =>
    match DeclaredColumn.ofLine? line.text with
    | some column => { statement with columns := statement.columns.declare column.name column.clause }
    | none => statement
  | .primaryKey =>
    match primaryKeyColumns? line.text with
    | some columns => { statement with primaryKey := statement.primaryKey ++ columns }
    | none => statement.skip line
  | .uniqueKey =>
    match UniqueKey.ofLine? line.text with
    | some key => { statement with uniqueIndexes := statement.uniqueIndexes.put key.name key.columns }
    | none => statement.skip line
  | .other => statement

/-- What the text of a statement declares. -/
def ofText (text : String) : Statement := (Line.ofStatement text).foldl addLine {}

end Statement

end SchemaDump
