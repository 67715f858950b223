/-
**Reports as JSON, read back.**

`readReport?` reads a report without looking at how it was printed: as JSON, then as an array of objects
with the members of tables and columns under their names.

* `readColumn?_json`: a column is read back with all its fields;
* `readTable?_json`: a table is read back as what its report tells, `Table.reported`;
* **`readReport?_jsonReport`**: the report of any tables tells all this of each of them, in order.
-/

import SchemaDump.Proofs.Json.Reader
import SchemaDump.Proofs.NameMap
import SchemaDump.Proofs.Table.Coherence
import SchemaDump.Report.Json

namespace SchemaDump

/-! ### What a report tells -/

/-- What a report tells of a table. -/
structure ReportedTable where
  name : String
  columns : List Column
  /-- The names of the columns of the primary key, in key order. -/
  primaryKey : List String
  /-- Each unique index with the names of its columns, in key order. -/
  uniqueIndexes : List (String × List String)
  deriving DecidableEq

namespace Table

variable (table : Table)

/-- The names of the columns at the positions, in their order; a position outside the table names none. -/
def namesAt (positions : List Nat) : List String :=
  positions.filterMap fun position => (table.columns.map Column.name)[position]?

/-- What the report of a table tells. -/
def reported : ReportedTable where
  name := table.name
  columns := table.columns
  primaryKey := table.namesAt table.primaryKey
  uniqueIndexes := table.uniqueIndexes.entries.map fun (name, positions) => (name, table.namesAt positions)

/-- **Exactly the unique indexes of the table are told, each once.** -/
theorem names_reported :
    table.reported.uniqueIndexes.map Prod.fst = table.uniqueIndexes.names ∧
      (table.reported.uniqueIndexes.map Prod.fst).Nodup := by
  have names : table.reported.uniqueIndexes.map Prod.fst = table.uniqueIndexes.names := by
    rw [reported, List.map_map]
    rfl
  exact ⟨names, names ▸ table.uniqueIndexes.nodup_names⟩

end Table

/-! ### Reading values as what they stand for -/

namespace Json

/-- The member of an object with the name. -/
def member? (name : String) : Json → Option Json
  | object members => (members.find? fun member => member.1 == name).map Prod.snd
  | _ => none

/-- The text of a string. -/
def string? : Json → Option String
  | string text => some text
  | _ => none

/-- The value of a truth value. -/
def bool? : Json → Option Bool
  | bool value => some value
  | _ => none

/-- The value of a number. -/
def number? : Json → Option Nat
  | number value => some value
  | _ => none

/-- The value of a number that may be absent. -/
def length? : Json → Option (Option Nat)
  | null => some none
  | number value => some (some value)
  | _ => none

/-- The items of an array, each read. -/
def items? {α : Type} (read : Json → Option α) : Json → Option (List α)
  | array items => items.mapM read
  | _ => none

/-- The members of an object, each read behind its name. -/
def members? {α : Type} (read : Json → Option α) : Json → Option (List (String × α))
  | object members => members.mapM fun member => (read member.2).map (member.1, ·)
  | _ => none

end Json

open Json

/-- Reads a column. -/
def readColumn? (value : Json) : Option Column := do
  some
    { index := ← (← value.member? "index").number?
      name := ← (← value.member? "name").string?
      nullable := ← (← value.member? "nullable").bool?
      nativeType := ← (← value.member? "database_type_name").string?
      typeName := ← (← value.member? "column_type").string?
      length := ← (← value.member? "column_len").length?
      isPrimaryKey := ← (← value.member? "is_primary_key").bool?
      isAutoIncrement := ← (← value.member? "is_auto_increment").bool?
      isUnsigned := ← (← value.member? "is_unsigned").bool?
      defaultValue := ← (← value.member? "default_value").string?
      comment := ← (← value.member? "comment").string?
      notes := ← (← value.member? "notes").string?
      clause := ← (← value.member? "column_ddl").string? }

/-- Reads a table. -/
def readTable? (value : Json) : Option ReportedTable := do
  some
    { name := ← (← value.member? "table").string?
      columns := ← (← value.member? "columns").items? readColumn?
      primaryKey := ← (← value.member? "primary_key").items? string?
      uniqueIndexes := ← (← value.member? "unique_indexes").members? (items? string?) }

/-- Reads a report. -/
def readReport? (text : String) : Option (List ReportedTable) :=
  (Json.ofText? text).bind (items? readTable?)

/-! ### Reading what was printed -/

theorem mapM_map_of_readBack {α β γ : Type} {read : β → Option γ} {write : α → β} {value : α → γ}
    (readBack : ∀ item, read (write item) = some (value item)) (items : List α) :
    (items.map write).mapM read = some (items.map value) := by
  induction items with
  | nil => rfl
  | cons item rest ih => simp [List.mapM_cons, readBack, ih]

/-- **A column is read back with all its fields.** -/
theorem readColumn?_json (column : Column) : readColumn? column.json = some column := by
  obtain ⟨_, _, _, _, _, length, _, _, _, _, _, _, _⟩ := column
  cases length <;> rfl

theorem items?_columnNames (columns : List Column) :
    items? string? (columnNames columns) = some (columns.map Column.name) := by
  rw [columnNames, items?]
  exact mapM_map_of_readBack (fun column => string?.eq_1 column.name) columns

/-- **A table is read back as what its report tells.** -/
theorem readTable?_json (table : Table) : readTable? table.json = some table.reported := by
  have columns : items? readColumn? (.array (table.columns.map Column.json)) = some table.columns := by
    rw [items?, mapM_map_of_readBack readColumn?_json, List.map_id']
  have primaryKey : items? string? (columnNames table.primaryKeyColumns) = some table.reported.primaryKey := by
    rw [items?_columnNames, Table.primaryKeyColumns, Table.map_name_columnsAt]
    rfl
  have indexes : members? (items? string?)
      (.object (table.uniqueIndexColumns.map fun index => (index.1, columnNames index.2))) =
        some table.reported.uniqueIndexes := by
    have index : ∀ entry : String × List Nat,
        (items? string? (columnNames (table.columnsAt entry.2))).map (entry.1, ·) =
          some (entry.1, table.namesAt entry.2) := by
      intro entry
      rw [items?_columnNames, Table.map_name_columnsAt, Option.map_some]
      rfl
    rw [members?, Table.uniqueIndexColumns, List.map_map]
    exact mapM_map_of_readBack index table.uniqueIndexes.entries
  calc readTable? table.json
      = (do
          let columns ← items? readColumn? (.array (table.columns.map Column.json))
          let primaryKey ← items? string? (columnNames table.primaryKeyColumns)
          let uniqueIndexes ← members? (items? string?)
            (.object (table.uniqueIndexColumns.map fun index => (index.1, columnNames index.2)))
          some { name := table.name, columns, primaryKey, uniqueIndexes }) := rfl
    _ = some table.reported := by
      rw [columns, primaryKey, indexes]
      rfl

/-- **A report loses nothing.** It is well-formed JSON, and reading it gives one object for each table, in
order, with the name, with all columns and all their fields, with the names of the columns of the primary
key in key order, and with exactly the unique indexes, each once and with the names of its columns in key
order. So reports that are the same tell the same. -/
theorem readReport?_jsonReport (tables : List Table) :
    readReport? (jsonReport tables) = some (tables.map Table.reported) ∧
      (∀ table ∈ tables, table.reported.uniqueIndexes.map Prod.fst = table.uniqueIndexes.names ∧
        (table.reported.uniqueIndexes.map Prod.fst).Nodup) ∧
      ∀ others : List Table, jsonReport others = jsonReport tables →
        others.map Table.reported = tables.map Table.reported := by
  refine ⟨?_, fun table _ => table.names_reported, fun others same => Option.some.inj ?_⟩
  · rw [readReport?, jsonReport, Json.ofText?_text, Option.bind_some]
    exact mapM_map_of_readBack readTable?_json tables
  · have values : others.map Table.json = tables.map Table.json := Json.array.inj (Json.text_injective same)
    rw [← mapM_map_of_readBack readTable?_json others, values, mapM_map_of_readBack readTable?_json tables]

end SchemaDump
