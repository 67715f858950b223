/-
**Catalogs: statements as a source.**

A catalog keeps one statement for each table name, with what the statement says, so that it is read once
and not for each question. As a source it reports the columns that the statement declares, with type,
nullability and default read from the clauses; it knows no lengths.
-/

import SchemaDump.Source
import SchemaDump.Statement
import SchemaDump.Statement.Declaration
import SchemaDump.Text.Utf8

namespace SchemaDump

open SchemaDump.Text

/-- The text of a statement, and what it says. -/
structure StatementEntry where
  text : String
  content : Statement := .ofText text
  content_eq : content = .ofText text := by rfl
  deriving DecidableEq

/-- Statements by table name. -/
structure Catalog where
  statements : NameMap StatementEntry := {}
  deriving DecidableEq

namespace Catalog

/-- The catalog without statements. -/
def empty : Catalog := {}

/-- The catalog with the statement registered under the name. -/
def register (catalog : Catalog) (table statement : String) : Catalog :=
  ⟨catalog.statements.put table { text := statement }⟩

/-- The text of the statement registered under the name, if there is one. -/
def text? (catalog : Catalog) (table : String) : Option String :=
  (catalog.statements.get? table).map StatementEntry.text

/-- Registers a statement under a name, and tells the statement that was replaced. -/
def insert (catalog : Catalog) (table statement : String) : Option String × Catalog :=
  (catalog.text? table, catalog.register table statement)

/-- Registers a statement under the name that it gives its table, and tells that name; a statement
without one is not registered. -/
def insertStatement (catalog : Catalog) (statement : String) : Option String × Catalog :=
  match (Statement.ofText statement).tableName with
  | some table => (some table, catalog.register table statement)
  | none => (none, catalog)

/-- Is a statement registered under the name? -/
def contains (catalog : Catalog) (table : String) : Bool := catalog.statements.contains table

/-- The names with a statement, in increasing order. -/
def tableNames (catalog : Catalog) : List String := catalog.statements.names

/-! ### As a source -/

/-- What is registered under the name. -/
def entry (catalog : Catalog) (table : String) : Except Reason StatementEntry :=
  match catalog.statements.get? table with
  | some entry => .ok entry
  | none => .error (.noStatement table)

/-- The text of the statement registered under the name. -/
def statement (catalog : Catalog) (table : String) : Except Reason String :=
  (catalog.entry table).map StatementEntry.text

/-- The column that a statement declares, as a report. -/
def reportOf (column : DeclaredColumn) : Except Reason ReportedColumn :=
  match Declaration.ofClause? column.clause with
  | some definition => .ok ⟨column.name, some definition.nullable, definition.nativeType⟩
  | none => .error (.unreadableType column.name)

/-- The columns that the statement registered under the name declares. -/
def columns (catalog : Catalog) (table : String) : Except Reason (List ReportedColumn) := do
  let entry ← catalog.entry table
  entry.content.columns.entries.mapM reportOf

/-- The bytes of the default that a clause defines. -/
def rawDefaultOf (clause : String) : Option (List UInt8) := do
  let definition ← Declaration.ofClause? clause
  let value ← definition.defaultValue
  pure (Utf8.encode value.toList)

/-- The bytes of the default of a column, if its clause defines one. -/
def rawDefault (catalog : Catalog) (table column : String) : Option (List UInt8) := do
  let entry ← catalog.statements.get? table
  let clause ← entry.content.columns.clause? column
  rawDefaultOf clause

/-- The catalog as a source of schemas. -/
def source (catalog : Catalog) : Source where
  statement := catalog.statement
  columns := catalog.columns
  charLength table column := .error (.noLength table column)
  rawDefault := catalog.rawDefault

end Catalog

end SchemaDump
