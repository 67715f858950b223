/-
**The text report of a loaded table.**

What a load from a catalog prints comes from lines of a statement, from the choices and from the name of
the table. Scanning drops, lowers and rejoins parts of a line, but only the value of a default can get a
line feed that way.

* `Table.oneLine_assemble`, `Table.OneLine.withFirstColumnKey`: what a table is assembled from decides what
  its report prints;
* `Loader.exists_declared_of_load`: each loaded column is declared by the statement, as it is loaded;
* **`load_textReport`**: so the report has one line for each item and one more for each line feed in a
  default.
-/

import SchemaDump.Proofs.Catalog.Loading
import SchemaDump.Proofs.NativeType
import SchemaDump.Proofs.Report.Text
import SchemaDump.Proofs.Statement.Comment
import SchemaDump.Proofs.Statement.LineFeeds
import SchemaDump.Proofs.Table.StandInKey

namespace SchemaDump

open SchemaDump.Text SchemaDump.Sql

/-! ### Columns -/

theorem TypeName.lineFeeds_ofNative (native : String) : lineFeeds (TypeName.ofNative native).canonical = 0 := by
  rw [lineFeeds_eq_zero]
  intro listed
  exact absurd (eq_space_of_mem_ofNative listed (by decide)) (by decide)

/-- A comment ends in front of the first line feed. -/
theorem ColumnMarks.lineFeeds_comment (clause : String) : lineFeeds (ofClause clause).comment = 0 := by
  rw [lineFeeds_eq_zero]
  show lineFeed ∉ (String.ofList ((comment? clause.toList).getD [])).toList
  rw [String.toList_ofList]
  cases found : comment? clause.toList with
  | none => exact List.not_mem_nil
  | some comment =>
    obtain ⟨cut, -, rfl⟩ := exists_first_of_comment? found
    exact cut.unbroken

namespace Column

/-- A note has the line feeds of what is noted. -/
theorem lineFeeds_addNote {column : Column} {note : String} (noted : lineFeeds column.notes = 0)
    (plain : lineFeeds note = 0) : lineFeeds (column.addNote note).notes = 0 := by
  have added : lineFeeds (String.ofList (trim note.toList)) = 0 := by
    rw [lineFeeds_eq_zero] at plain ⊢
    rw [String.toList_ofList]
    exact fun listed => plain ((trim_sublist _).subset listed)
  have space : lineFeeds " " = 0 := by decide
  rw [addNote, lineFeeds_append, added, Nat.add_zero]
  split
  · rfl
  · rw [lineFeeds_append, noted, space]

variable {types : TypeMapper} (plainTypes : ∀ native, lineFeeds (types native).canonical = 0)
  {choices : LoadChoices} (plainPrefix : lineFeeds choices.unsignedPrefix = 0)

include plainTypes plainPrefix

/-- **A reported column prints no line feed but in its default** if its name has none. -/
theorem oneLine_adjusted {report : ReportedColumn} (name : lineFeeds report.name = 0) (table : String)
    (statement : Statement) (source : Source) (index : Nat) :
    ((ofReport table statement source types index report).adjusted table source choices).OneLine where
  name := name
  typeName := by
    have base : lineFeeds (ofReport table statement source types index report).typeName = 0 :=
      plainTypes report.nativeType
    show lineFeeds (markedName choices _) = 0
    unfold markedName
    split
    · rw [lineFeeds_append, plainPrefix, base]
    · exact base
  comment := ColumnMarks.lineFeeds_comment _
  notes := by
    have note : lineFeeds unsignedNote = 0 := by decide
    rw [adjusted]
    dsimp only
    split
    · exact note
    · rfl

end Column

/-! ### Tables -/

namespace Table

theorem oneLine_assemble {table text : String} {statement : Statement} {reports : List ReportedColumn}
    {source : Source} {types : TypeMapper} {choices : LoadChoices} (plainName : lineFeeds table = 0)
    (plainTypes : ∀ native, lineFeeds (types native).canonical = 0)
    (plainPrefix : lineFeeds choices.unsignedPrefix = 0)
    (columns : ∀ report ∈ reports, lineFeeds report.name = 0)
    (indexes : ∀ name ∈ statement.uniqueIndexes.names, lineFeeds name = 0) :
    (assemble table text statement reports source types choices).OneLine where
  name := plainName
  columns := forall_columns_assemble.mpr fun entry listed =>
    Column.oneLine_adjusted plainTypes plainPrefix (columns entry.1 (List.fst_mem_of_mem_zipIdx listed)) ..
  indexes := by
    show ∀ name ∈ (statement.uniqueIndexes.mapValues _).names, lineFeeds name = 0
    rwa [NameMap.names_mapValues]

theorem lineFeeds_standInNote {table column : String} (plainTable : lineFeeds table = 0)
    (plainColumn : lineFeeds column = 0) : lineFeeds (standInNote table column) = 0 := by
  have marks : lineFeeds "table `" = 0 ∧ lineFeeds "` has no primary key defined, using column `" = 0 ∧
    lineFeeds "` at position 1" = 0 := by decide
  simp only [standInNote, lineFeeds_append, plainTable, plainColumn, marks]

/-- A stand-in key adds no line feed. -/
theorem OneLine.withFirstColumnKey {table : Table} (plain : table.OneLine) :
    table.withFirstColumnKey.OneLine := by
  unfold Table.withFirstColumnKey
  split
  · exact plain
  · next first rest columns =>
    have each := plain.columns
    rw [columns, List.forall_mem_cons] at each
    obtain ⟨own, others⟩ := each
    have note := lineFeeds_standInNote plain.name own.name
    have noted : ({ first with isPrimaryKey := true }.addNote (standInNote table.name first.name)).OneLine :=
      ⟨own.name, own.typeName, own.comment, Column.lineFeeds_addNote own.notes note⟩
    exact ⟨plain.name, List.forall_mem_cons.mpr ⟨noted, others⟩, plain.indexes⟩

end Table

/-! ### Loads -/

namespace Loader

variable {loader : Loader} {catalog : Catalog} (sourced : loader.source = catalog.source) {name : String}
  {loaded : Table} (succeeds : loader.load name = .ok loaded)

include sourced succeeds

/-- **A table loaded from a catalog prints no line feed but in its defaults.** -/
theorem oneLine_load (plainTypes : ∀ native, lineFeeds (loader.types native).canonical = 0)
    (keepsPlain : ∀ table : Table, table.OneLine → (loader.policy table).OneLine)
    (plainName : lineFeeds name = 0) (plainPrefix : lineFeeds loader.choices.unsignedPrefix = 0) :
    loaded.OneLine := by
  obtain ⟨reports, text, answered, told, rfl⟩ := loader.load_eq_ok_iff.mp succeeds
  rw [sourced] at answered told
  have registered : catalog.text? name = some text := by
    cases found : catalog.text? name with
    | none => exact nomatch (Catalog.columns_of_unregistered found).symm.trans answered
    | some other => rw [Except.ok.inj ((Catalog.statement_of_text? found).symm.trans told)]
  have columns : ∀ report ∈ reports, lineFeeds report.name = 0 := by
    intro report listed
    have known : report.name ∈ (Statement.ofText text).columns.names :=
      Catalog.names_of_columns registered answered ▸ List.mem_map_of_mem listed
    obtain ⟨column, declared, same⟩ := List.mem_map.mp known
    exact same ▸ lineFeeds_eq_zero.mpr (Statement.lineFeed_not_mem_declared declared).1
  have assembled : (Table.assemble name text (.ofText text) reports loader.source loader.types
      loader.choices).OneLine :=
    Table.oneLine_assemble plainName plainTypes plainPrefix columns fun _ listed =>
      lineFeeds_eq_zero.mpr (Statement.lineFeed_not_mem_index listed)
  unfold standIn
  split
  · exact keepsPlain _ assembled
  · exact assembled

/-- **Each loaded column is declared by the statement,** and is what its clause says. -/
theorem exists_declared_of_load
    (keeps : ∀ table, (loader.policy table).columns.map Column.reading = table.columns.map Column.reading) :
    ∃ text, catalog.text? name = some text ∧ ∀ column ∈ loaded.columns,
      ∃ declared ∈ (Statement.ofText text).columns.entries, declared.reading? = some column.reading := by
  have readable : ¬ catalog.Unreadable name := fun unreadable => by
    obtain ⟨_, fails⟩ := load_fails sourced unreadable
    exact nomatch fails.symm.trans succeeds
  rw [Catalog.Unreadable, not_or] at readable
  obtain ⟨text, registered⟩ := Option.ne_none_iff_exists'.mp readable.1
  refine ⟨text, registered, fun column listed => ?_⟩
  obtain ⟨_, again, readings, -⟩ := load_readable sourced keeps registered fun declared known none =>
    readable.2 ⟨text, registered, declared, known, none⟩
  obtain rfl := Except.ok.inj (succeeds.symm.trans again)
  exact List.mem_map.mp (readings ▸ List.mem_map_of_mem listed)

end Loader

/-- **A clause without a line feed** has one in its default only for a carriage return or a backslash. -/
theorem DeclaredColumn.return_or_backslash_mem_clause {declared : DeclaredColumn}
    (unbroken : lineFeed ∉ declared.clause.toList) {reading : ColumnReading}
    (read : declared.reading? = some reading) (broken : lineFeed ∈ reading.defaultValue.toList) :
    '\r' ∈ reading.clause.toList ∨ '\\' ∈ reading.clause.toList := by
  obtain ⟨definition, found, rfl⟩ := Option.map_eq_some_iff.mp read
  by_contra plain
  rw [not_or] at plain
  have flat : IsFlat declared.clause.toList := by
    intro c listed mark
    simp only [List.mem_cons, List.not_mem_nil, or_false] at mark
    rcases mark with rfl | rfl | rfl
    · exact unbroken listed
    · exact plain.1 listed
    · exact plain.2 listed
  cases given : definition.defaultValue with
  | none =>
    rw [given] at broken
    exact absurd broken List.not_mem_nil
  | some value =>
    rw [given] at broken
    have value := isFlat_defaultValue flat found given
    exact value.lineFeed_not_mem ((defaultText_sublist _).subset broken)

/-! ### Reports -/

/-- **The report of a loaded table has one line for each item,** and one more for each line feed in a
default. Nothing else that is printed has a line feed, and a default has one only if there is a carriage
return or a backslash in the clause of its column. -/
theorem load_textReport {catalog : Catalog} {name : String} {choices : LoadChoices} {table : Table}
    (plainName : lineFeed ∉ name.toList) (plainPrefix : lineFeed ∉ choices.unsignedPrefix.toList)
    (succeeds : Loader.load { source := catalog.source, choices := choices } name = .ok table) :
    (lines table.textReport.toList).length =
        table.reportItems + (table.columns.map fun column => lineFeeds column.defaultValue).sum ∧
      (lines table.textReport.toList).flatMap (· ++ [lineFeed]) = table.textReport.toList ∧
      table.OneLine ∧
      ∀ column ∈ table.columns, lineFeed ∈ column.defaultValue.toList →
        '\r' ∈ column.clause.toList ∨ '\\' ∈ column.clause.toList := by
  have plain : table.OneLine := Loader.oneLine_load rfl succeeds TypeName.lineFeeds_ofNative
    (fun _ => Table.OneLine.withFirstColumnKey) (lineFeeds_eq_zero.mpr plainName)
    (lineFeeds_eq_zero.mpr plainPrefix)
  refine ⟨plain.length_lines, table.lines_textReport.2, plain, fun column listed broken => ?_⟩
  obtain ⟨text, -, declares⟩ := Loader.exists_declared_of_load rfl succeeds Table.reading_withFirstColumnKey
  obtain ⟨declared, known, read⟩ := declares column listed
  exact declared.return_or_backslash_mem_clause (Statement.lineFeed_not_mem_declared known).2 read broken

/-- A statement with a default that is written on one line and holds two. -/
def escapedDefault : String :=
  "CREATE TABLE \x60t\x60 (\n  \x60a\x60 varchar(9) DEFAULT 'x\\ny',\n  PRIMARY KEY (\x60a\x60)\n)"

theorem load_escapedDefault : ∃ table,
    Loader.load { source := (Catalog.empty.register "t" escapedDefault).source } "t" = .ok table ∧
      table.reportItems = 8 ∧ (table.columns.map fun column => lineFeeds column.defaultValue) = [1] ∧
      (lines table.textReport.toList).length = 9 := by
  have run : (Loader.load { source := (Catalog.empty.register "t" escapedDefault).source } "t").toOption.map
      (fun table => (table.reportItems, table.columns.map fun column => lineFeeds column.defaultValue,
        (lines table.textReport.toList).length)) = some (8, [1], 9) := by decide +kernel
  obtain ⟨table, succeeds, facts⟩ := exists_ok_of_map_toOption run
  obtain ⟨items, rest⟩ := Prod.mk.inj facts
  exact ⟨table, succeeds, items, Prod.mk.inj rest⟩

theorem load_textReport_escapedDefault : ∃ table,
    Loader.load { source := (Catalog.empty.register "t" escapedDefault).source } "t" = .ok table ∧
      table.OneLine ∧ (lines table.textReport.toList).length = 8 + 1 := by
  obtain ⟨table, succeeds, items, broken, -⟩ := load_escapedDefault
  obtain ⟨length, -, plain, -⟩ := load_textReport (by decide) (by decide) succeeds
  rw [items, broken] at length
  exact ⟨table, succeeds, plain, length⟩

/-- **A default can add a line.** -/
theorem escapedDefault_adds_line :
    lineFeed ∉ "t".toList ∧ lineFeed ∉ ({} : LoadChoices).unsignedPrefix.toList ∧ ∃ table,
      Loader.load { source := (Catalog.empty.register "t" escapedDefault).source } "t" = .ok table ∧
        (lines table.textReport.toList).length ≠ table.reportItems := by
  obtain ⟨table, succeeds, items, -, length⟩ := load_escapedDefault
  refine ⟨by decide, by decide, table, succeeds, ?_⟩
  rw [items, length]
  decide

end SchemaDump
