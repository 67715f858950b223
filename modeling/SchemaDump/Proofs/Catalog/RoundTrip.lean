/-
**A written table is loaded as it was written.**

A table is written as a statement, the statement is registered in a catalog, and the table is loaded from
there. What a column line says goes a long way: its clause is cut off the line, read by tokens, and its
default is quoted, encoded, decoded and unquoted again.

* `reportOf_declared`: the catalog reports each column as it was written.
* `rawDefaultOf_clause`: the bytes of its default are those of the default that was written.
* **`load_written`**: the load succeeds, and each column has its type, nullability and default.
-/

import Mathlib.Data.List.Forall2
import SchemaDump.Proofs.Catalog.Loading
import SchemaDump.Proofs.DefaultText
import SchemaDump.Proofs.Statement.RoundTrip
import SchemaDump.Proofs.Statement.WrittenColumn

namespace SchemaDump

open SchemaDump.Text SchemaDump.Sql

/-! ### One column -/

namespace WrittenColumn

/-- The column as a catalog reports it. -/
def report (column : WrittenColumn) : ReportedColumn :=
  ⟨column.name, some !column.notNull, column.typeText⟩

/-- The column as it is loaded. -/
def facts (column : WrittenColumn) : ReportedFacts :=
  ⟨column.name, column.typeText, !column.notNull, column.defaultText⟩

theorem reportOf_declared (column : WrittenColumn) :
    Catalog.reportOf column.declared = .ok column.report := by
  have read : Declaration.ofClause? column.declared.clause = _ := column.ofClause?_clause
  rw [Catalog.reportOf_of_some read]
  rfl

theorem rawDefaultOf_clause (column : WrittenColumn) :
    Catalog.rawDefaultOf column.clause =
      (column.default.bind WrittenDefault.literal?).map fun value => Utf8.encode value.toList :=
  Catalog.rawDefaultOf_of_some column.ofClause?_clause

/-- **The text of the default is what was written.** -/
theorem cleanDefault_rawDefaultOf (column : WrittenColumn) :
    ((Catalog.rawDefaultOf column.clause).map SchemaDump.defaultText).getD "" = column.defaultText := by
  rw [rawDefaultOf_clause, defaultText]
  cases column.default with
  | none => rfl
  | some value =>
    cases value with
    | null => rfl
    | currentTimestamp => exact defaultText_currentTimestamp
    | string content => exact defaultText_quotedString content

end WrittenColumn

theorem mapM_reportOf (columns : List WrittenColumn) :
    (columns.map WrittenColumn.declared).mapM Catalog.reportOf = .ok (columns.map WrittenColumn.report) := by
  rw [mapM_eq_ok_iff, List.map_map, List.map_map]
  exact List.map_congr_left fun column _ => column.reportOf_declared

/-! ### What a catalog answers about a registered statement -/

namespace Catalog

variable (catalog : Catalog) (table text : String)

theorem statement_register : (catalog.register table text).source.statement table = .ok text :=
  statement_of_text? (catalog.text?_register table text)

theorem columns_register {columns : List WrittenColumn}
    (entries : (Statement.ofText text).columns.entries = columns.map WrittenColumn.declared) :
    (catalog.register table text).source.columns table = .ok (columns.map WrittenColumn.report) := by
  rw [columns_of_text? (catalog.text?_register table text), entries, mapM_reportOf]

/-- The facts about a listed column are those that were written. -/
theorem factsOf_register {columns : List WrittenColumn}
    (entries : (Statement.ofText text).columns.entries = columns.map WrittenColumn.declared)
    {column : WrittenColumn} (listed : column ∈ columns) :
    (catalog.register table text).source.factsOf table column.report = column.facts := by
  have declared : column.declared ∈ (Statement.ofText text).columns.entries := by
    rw [entries]
    exact List.mem_map_of_mem listed
  have raw : (catalog.register table text).source.rawDefault table column.name =
      rawDefaultOf column.clause := rawDefault_of_text? (catalog.text?_register table text) declared
  show ReportedFacts.mk column.name column.typeText (!column.notNull)
    (((catalog.register table text).source.rawDefault table column.name).map
      SchemaDump.defaultText |>.getD "") = column.facts
  rw [raw, column.cleanDefault_rawDefaultOf, WrittenColumn.facts]

/-- A load from the catalog, with any types and choices. -/
def loader (types : TypeMapper) (choices : LoadChoices) : Loader where
  source := catalog.source
  types := types
  choices := choices

end Catalog

/-! ### The whole table -/

/-- The body lines declare the columns; its other lines are well formed. -/
structure BodyLine.Columns (body : List BodyLine) (columns : List WrittenColumn) : Prop where
  declared : body.filterMap column? = columns.map WrittenColumn.declared
  others : ∀ line ∈ body, line.column? = none → line.WellFormed

theorem BodyLine.Columns.wellFormed {body : List BodyLine} {columns : List WrittenColumn}
    (declare : Columns body columns) : ∀ line ∈ body, line.WellFormed := by
  intro line listed
  cases found : line.column? with
  | none => exact declare.others line listed found
  | some column =>
    have named : column ∈ columns.map WrittenColumn.declared := by
      rw [← declare.declared]
      exact List.mem_filterMap.mpr ⟨line, listed, found⟩
    obtain ⟨written, -, rfl⟩ := List.mem_map.mp named
    cases line with
    | column declared =>
      obtain rfl := Option.some.inj found
      exact ⟨written.quotable, written.isClause_clause⟩
    | _ => exact absurd found nofun

/-- A loaded column is as it was written. -/
structure WrittenColumn.LoadedAs (written : WrittenColumn) (column : Column) : Prop where
  name : column.name = written.name
  nativeType : column.nativeType = written.typeText
  nullable : column.nullable = !written.notNull
  defaultValue : column.defaultValue = written.defaultText

theorem WrittenColumn.loadedAs_of_facts {written : WrittenColumn} {column : Column}
    (same : column.facts = written.facts) : written.LoadedAs column := by
  rw [Column.facts, facts, ReportedFacts.mk.injEq] at same
  obtain ⟨name, nativeType, nullable, defaultValue⟩ := same
  exact ⟨name, nativeType, nullable, defaultValue⟩

/-- **A written table is loaded with the columns that were written.** Whatever the catalog held before,
the statement is registered under the name it gives its table, or under any other name, and a load under
that name succeeds; its columns are the written ones in order, each with its type, its nullability and
its default. -/
theorem load_written (layout : Layout) {name : String} {columns : List WrittenColumn}
    {body : List BodyLine} (quotable : Quotable name) (declare : BodyLine.Columns body columns)
    (distinct : (columns.map WrittenColumn.name).Nodup) (catalog : Catalog) (types : TypeMapper)
    (choices : LoadChoices) :
    catalog.insertStatement (layout.write name body) =
      (some name, catalog.register name (layout.write name body)) ∧
    ∀ registered, ∃ loaded,
      ((catalog.register registered (layout.write name body)).loader types choices).load registered =
        .ok loaded ∧
      List.Forall₂ WrittenColumn.LoadedAs columns loaded.columns := by
  have content := Statement.ofText_write_eq layout quotable declare.wellFormed
  have entries : (Statement.ofText (layout.write name body)).columns.entries =
      columns.map WrittenColumn.declared := by
    have distinctDeclared : ((columns.map WrittenColumn.declared).map DeclaredColumn.name).Nodup := by
      rw [List.map_map]
      exact distinct
    rw [content, Statement.ofBody, declare.declared]
    exact ClauseTable.entries_ofList distinctDeclared
  constructor
  · rw [Catalog.insertStatement, content]
    rfl
  · intro registered
    obtain ⟨loaded, succeeds, facts⟩ :=
      ((catalog.register registered (layout.write name body)).loader types choices).load_facts
        Table.facts_withFirstColumnKey (catalog.columns_register registered _ entries)
        (catalog.statement_register registered _)
    refine ⟨loaded, succeeds, ?_⟩
    have same : columns.map WrittenColumn.facts = loaded.columns.map Column.facts := by
      rw [facts, List.map_map]
      exact List.map_congr_left fun column listed =>
        (catalog.factsOf_register registered _ entries listed).symm
    rw [← List.forall₂_eq_eq_eq, List.forall₂_map_left_iff, List.forall₂_map_right_iff] at same
    exact same.imp fun _ _ equal => WrittenColumn.loadedAs_of_facts equal.symm

/-- A key column, and a column whose default and comment hold marks and keywords. -/
def orderColumns : List WrittenColumn :=
  [{ name := "id"
     type := ⟨⟨'i', "nt".toList, by decide, List.all_iff_forall_prop.mp (by decide +kernel)⟩,
       [⟨'1', ['0'], List.all_iff_forall_prop.mp (by decide)⟩]⟩
     unsigned := true
     notNull := true
     default := none
     autoIncrement := true
     comment := none
     quotable := by decide },
   { name := "note, (x)"
     type := ⟨⟨'t', "ext".toList, by decide, List.all_iff_forall_prop.mp (by decide +kernel)⟩, []⟩
     unsigned := false
     notNull := false
     default := some (.string "it's \\ ''")
     autoIncrement := false
     comment := some "NOT NULL DEFAULT 'x',"
     quotable := by decide }]

/-- The lines of a table of these columns. -/
def orderColumnLines : List BodyLine :=
  (orderColumns.map fun column => .column column.declared) ++ [.primaryKey ["id"]]

theorem load_written_orderColumns :
    ∃ loaded, ((Catalog.empty.register "orders"
        ((Layout.ofDump .lf).write "orders" orderColumnLines)).loader TypeName.ofNative {}).load
          "orders" = .ok loaded ∧
      List.Forall₂ WrittenColumn.LoadedAs orderColumns loaded.columns := by
  have quotable : Quotable "orders" := by decide
  have declare : BodyLine.Columns orderColumnLines orderColumns := ⟨rfl, by decide⟩
  exact (load_written (Layout.ofDump .lf) quotable declare (by decide) Catalog.empty
    TypeName.ofNative {}).2 "orders"

end SchemaDump
