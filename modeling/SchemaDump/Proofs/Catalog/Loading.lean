/-
**Loading from a catalog.**

A catalog answers every question about a table out of the statement registered under its name: the
columns with their types, the default of each, and the text that the table is assembled from. The same
clauses are read for each of these, so the answers fit together, whatever the statement says.

* `columns_of_text?`, `statement_of_text?`, `rawDefault_of_text?`: the answers about a registered
  statement.
* `mapM_reportOf_eq_error`, `mapM_reportOf_eq_ok`: the report stops at the first clause that cannot be
  read.
* `DeclaredColumn.reading?`, `reading_of_reportOf`: what the clause of a column says of it, and that all
  answers say the same.
* **`loadsBy_load`**: so a load gives the columns that the statement declares, each as its clause says,
  or fails for the one reason there can be.
-/

import SchemaDump.Catalog
import SchemaDump.Proofs.Loader
import SchemaDump.Proofs.Statement.ClauseTable

namespace SchemaDump

open SchemaDump.Text

/-! ### What a catalog answers -/

namespace Catalog

theorem entry_register (catalog : Catalog) (table text : String) :
    (catalog.register table text).statements.get? table = some { text := text } := by
  rw [register, NameMap.get?_put, if_pos rfl]

theorem text?_register (catalog : Catalog) (table text : String) :
    (catalog.register table text).text? table = some text := by
  rw [text?, entry_register, Option.map_some]

variable {catalog : Catalog} {table text : String} (registered : catalog.text? table = some text)

include registered

theorem entry_of_text? : ∃ entry, catalog.statements.get? table = some entry ∧ entry.text = text ∧
    entry.content = .ofText text := by
  obtain ⟨entry, found, rfl⟩ := Option.map_eq_some_iff.mp registered
  exact ⟨entry, found, rfl, entry.content_eq⟩

theorem statement_of_text? : catalog.source.statement table = .ok text := by
  obtain ⟨_, found, rfl, -⟩ := entry_of_text? registered
  show catalog.statement table = _
  rw [statement, entry, found]
  rfl

theorem columns_of_text? :
    catalog.source.columns table = (Statement.ofText text).columns.entries.mapM reportOf := by
  obtain ⟨_, found, -, content⟩ := entry_of_text? registered
  show catalog.columns table = _
  rw [columns, entry, found, ← content]
  rfl

/-- The default of a listed column is read off the clause that it is listed with. -/
theorem rawDefault_of_text? {column : DeclaredColumn}
    (listed : column ∈ (Statement.ofText text).columns.entries) :
    catalog.source.rawDefault table column.name = rawDefaultOf column.clause := by
  obtain ⟨entry, found, -, content⟩ := entry_of_text? registered
  show catalog.rawDefault table column.name = _
  rw [rawDefault, found]
  show (entry.content.columns.clause? column.name).bind rawDefaultOf = _
  rw [content, ClauseTable.clause?_of_mem _ listed, Option.bind_some]

omit registered in
theorem columns_of_unregistered (missing : catalog.text? table = none) :
    catalog.source.columns table = .error (.noStatement table) := by
  show catalog.columns table = _
  rw [columns, entry, Option.map_eq_none_iff.mp missing]
  rfl

end Catalog

/-! ### Reports -/

/-- The first listed column whose clause does not define it. -/
def Statement.firstUnreadable? (statement : Statement) : Option DeclaredColumn :=
  statement.columns.entries.find? fun column => (Declaration.ofClause? column.clause).isNone

namespace Catalog

theorem reportOf_of_none {column : DeclaredColumn}
    (unreadable : Declaration.ofClause? column.clause = none) :
    reportOf column = .error (.unreadableType column.name) := by
  rw [reportOf, unreadable]

theorem reportOf_of_some {column : DeclaredColumn} {definition : Declaration}
    (read : Declaration.ofClause? column.clause = some definition) :
    reportOf column = .ok ⟨column.name, some definition.nullable, definition.nativeType⟩ := by
  rw [reportOf, read]

theorem name_of_reportOf {column : DeclaredColumn} {report : ReportedColumn}
    (found : reportOf column = .ok report) : report.name = column.name := by
  unfold reportOf at found
  split at found
  · obtain rfl := Except.ok.inj found
    rfl
  · exact nomatch found

theorem rawDefaultOf_of_some {clause : String} {definition : Declaration}
    (read : Declaration.ofClause? clause = some definition) :
    rawDefaultOf clause = definition.defaultValue.map fun value => Utf8.encode value.toList := by
  rw [rawDefaultOf, read]
  show (definition.defaultValue.bind fun value => some (Utf8.encode value.toList)) = _
  cases definition.defaultValue <;> rfl

/-- **The report stops at the first clause that cannot be read.** -/
theorem mapM_reportOf_eq_error {statement : Statement} {column : DeclaredColumn}
    (first : statement.firstUnreadable? = some column) :
    statement.columns.entries.mapM reportOf = .error (.unreadableType column.name) := by
  obtain ⟨unreadable, before, after, entries, earlier⟩ := List.find?_eq_some_iff_append.mp first
  refine mapM_eq_error_iff.mpr ⟨before, column, after, entries, fun other listed => ?_,
    reportOf_of_none (Option.isNone_iff_eq_none.mp unreadable)⟩
  have readable := earlier other listed
  obtain ⟨definition, read⟩ : ∃ definition, Declaration.ofClause? other.clause = some definition := by
    rwa [Bool.not_eq_true', Option.isNone_eq_false_iff, Option.isSome_iff_exists] at readable
  exact ⟨_, reportOf_of_some read⟩

theorem mapM_reportOf_eq_ok {entries : List DeclaredColumn}
    (readable : ∀ column ∈ entries, Declaration.ofClause? column.clause ≠ none) :
    ∃ reports, entries.mapM reportOf = .ok reports := by
  cases run : entries.mapM reportOf with
  | ok reports => exact ⟨reports, rfl⟩
  | error reason =>
    obtain ⟨before, column, after, rfl, -, fails⟩ := mapM_eq_error_iff.mp run
    have listed : column ∈ before ++ column :: after := List.mem_append_right before List.mem_cons_self
    obtain ⟨definition, read⟩ := Option.ne_none_iff_exists'.mp (readable column listed)
    rw [reportOf_of_some read] at fails
    exact nomatch fails

end Catalog

/-! ### What a clause says of its column -/

/-- What the clause of a column says of it, and the clause itself. -/
structure ColumnReading extends ReportedFacts where
  clause : String
  deriving DecidableEq, Repr

/-- The column as its clause defines it, if the clause can be read. -/
def DeclaredColumn.reading? (column : DeclaredColumn) : Option ColumnReading :=
  (Declaration.ofClause? column.clause).map fun definition =>
    { name := column.name
      nativeType := definition.nativeType
      nullable := definition.nullable
      defaultValue :=
        (definition.defaultValue.map fun value => defaultText (Utf8.encode value.toList)).getD ""
      clause := column.clause }

/-- The column as it is loaded. -/
def Column.reading (column : Column) : ColumnReading := { column.facts with clause := column.clause }

/-- What the answers about a reported column say, and the clause that the statement has for it. -/
def Source.readingOf (source : Source) (table : String) (statement : Statement)
    (report : ReportedColumn) : ColumnReading :=
  { source.factsOf table report with clause := (statement.columns.clause? report.name).getD "" }

namespace Catalog

variable {catalog : Catalog} {table text : String} (registered : catalog.text? table = some text)

include registered

/-- **All answers about a column say what its clause says.** -/
theorem reading_of_reportOf {column : DeclaredColumn}
    (listed : column ∈ (Statement.ofText text).columns.entries) {report : ReportedColumn}
    (reported : reportOf column = .ok report) :
    some (catalog.source.readingOf table (.ofText text) report) = column.reading? := by
  cases read : Declaration.ofClause? column.clause with
  | none =>
    rw [reportOf_of_none read] at reported
    exact nomatch reported
  | some definition =>
    rw [reportOf_of_some read] at reported
    obtain rfl := Except.ok.inj reported
    have clause := ClauseTable.clause?_of_mem _ listed
    have raw := (rawDefault_of_text? registered listed).trans (rawDefaultOf_of_some read)
    simp only [Source.readingOf, Source.factsOf, DeclaredColumn.reading?, clause, raw, read,
      Option.map_map]
    rfl

variable {reports : List ReportedColumn} (answered : catalog.source.columns table = .ok reports)

include answered

/-- A catalog reports the columns that the statement lists. -/
theorem names_of_columns :
    reports.map ReportedColumn.name = (Statement.ofText text).columns.names := by
  rw [columns_of_text? registered] at answered
  exact map_eq_of_mapM_eq_ok (fun _ _ _ => name_of_reportOf) answered

theorem readings_of_columns :
    reports.map (fun report => some (catalog.source.readingOf table (.ofText text) report)) =
      (Statement.ofText text).columns.entries.map DeclaredColumn.reading? := by
  have run := answered
  rw [columns_of_text? registered] at run
  exact map_eq_of_mapM_eq_ok
    (fun _ listed _ reported => reading_of_reportOf registered listed reported) run

end Catalog

/-! ### What a load comes to -/

namespace Catalog

/-- There is no statement of the table, or one with a clause that does not define its column. -/
def Unreadable (catalog : Catalog) (table : String) : Prop :=
  catalog.text? table = none ∨ ∃ text, catalog.text? table = some text ∧
    ∃ column ∈ (Statement.ofText text).columns.entries, Declaration.ofClause? column.clause = none

/-- **What a load of a table from a catalog comes to.** -/
structure LoadsBy (catalog : Catalog) (table : String) (outcome : Except Failure Table) : Prop where
  /-- Where the columns were reported, there is a statement to fetch. -/
  neverFetch : ∀ named reason, outcome ≠ .error (.fetch named reason)
  /-- The load fails exactly if it has nothing to read or cannot read it. -/
  fails_iff : (∃ named reason, outcome = .error (.introspection named reason)) ↔
    catalog.Unreadable table
  unregistered : catalog.text? table = none →
    outcome = .error (.introspection table (.noStatement table))
  /-- The cause names the first column whose clause cannot be read. -/
  firstUnreadable : ∀ text column, catalog.text? table = some text →
    (Statement.ofText text).firstUnreadable? = some column →
      outcome = .error (.introspection table (.unreadableType column.name))
  /-- If all clauses can be read, the columns are those that the statement lists, in order, each once and
  as its clause says. -/
  loads : ∀ text, catalog.text? table = some text →
    (∀ column ∈ (Statement.ofText text).columns.entries, Declaration.ofClause? column.clause ≠ none) →
      ∃ loaded, outcome = .ok loaded ∧
        loaded.columns.map (fun column => some column.reading) =
          (Statement.ofText text).columns.entries.map DeclaredColumn.reading? ∧
        (loaded.columns.map Column.name).Nodup

end Catalog

namespace Loader

variable {loader : Loader} {catalog : Catalog} {table text : String}

section Sourced

variable (sourced : loader.source = catalog.source)

include sourced

theorem load_unregistered (missing : catalog.text? table = none) :
    loader.load table = .error (.introspection table (.noStatement table)) := by
  apply loader.load_of_columns_error
  rw [sourced, Catalog.columns_of_unregistered missing]

theorem load_unreadable (registered : catalog.text? table = some text) {column : DeclaredColumn}
    (first : (Statement.ofText text).firstUnreadable? = some column) :
    loader.load table = .error (.introspection table (.unreadableType column.name)) := by
  apply loader.load_of_columns_error
  rw [sourced, Catalog.columns_of_text? registered, Catalog.mapM_reportOf_eq_error first]

/-- **If all clauses can be read, a load gives the columns as their clauses say.** -/
theorem load_readable
    (keeps : ∀ table, (loader.policy table).columns.map Column.reading = table.columns.map Column.reading)
    (registered : catalog.text? table = some text)
    (readable : ∀ column ∈ (Statement.ofText text).columns.entries,
      Declaration.ofClause? column.clause ≠ none) :
    ∃ loaded, loader.load table = .ok loaded ∧
      loaded.columns.map (fun column => some column.reading) =
        (Statement.ofText text).columns.entries.map DeclaredColumn.reading? ∧
      (loaded.columns.map Column.name).Nodup := by
  obtain ⟨reports, run⟩ := Catalog.mapM_reportOf_eq_ok readable
  have answered : catalog.source.columns table = .ok reports := by
    rw [Catalog.columns_of_text? registered, run]
  have shown : ∀ index report,
      (Column.ofReport table (.ofText text) loader.source loader.types index report).reading =
        catalog.source.readingOf table (.ofText text) report := fun _ _ => sourced ▸ rfl
  obtain ⟨loaded, succeeds, readings⟩ := loader.load_view (fun _ _ _ _ => rfl) keeps
    (sourced ▸ answered) (sourced ▸ Catalog.statement_of_text? registered) shown
  refine ⟨loaded, succeeds, ?_, ?_⟩
  · have wrapped := congrArg (List.map some) readings
    rw [List.map_map, List.map_map] at wrapped
    exact wrapped.trans (Catalog.readings_of_columns registered answered)
  · have names := congrArg (List.map fun reading => reading.name) readings
    rw [List.map_map, List.map_map] at names
    have listed := names.trans (Catalog.names_of_columns registered answered)
    exact listed ▸ (Statement.ofText text).columns.distinct

theorem load_fails (unreadable : catalog.Unreadable table) :
    ∃ reason, loader.load table = .error (.introspection table reason) := by
  rcases unreadable with missing | ⟨text, registered, column, listed, unreadable⟩
  · exact ⟨_, load_unregistered sourced missing⟩
  · obtain ⟨first, found⟩ : ∃ first, (Statement.ofText text).firstUnreadable? = some first := by
      rw [← Option.isSome_iff_exists, Statement.firstUnreadable?, List.find?_isSome]
      exact ⟨column, listed, Option.isNone_iff_eq_none.mpr unreadable⟩
    exact ⟨_, load_unreadable sourced registered found⟩

theorem load_succeeds
    (keeps : ∀ table, (loader.policy table).columns.map Column.reading = table.columns.map Column.reading)
    (readable : ¬ catalog.Unreadable table) : ∃ loaded, loader.load table = .ok loaded := by
  cases registered : catalog.text? table with
  | none => exact absurd (.inl registered) readable
  | some text =>
    have each : ∀ column ∈ (Statement.ofText text).columns.entries,
        Declaration.ofClause? column.clause ≠ none := fun column listed unreadable =>
      readable (.inr ⟨text, registered, column, listed, unreadable⟩)
    obtain ⟨loaded, succeeds, -⟩ := load_readable sourced keeps registered each
    exact ⟨loaded, succeeds⟩

end Sourced

end Loader

/-- The stand-in key of the first column leaves what the clauses say. -/
theorem Table.reading_withFirstColumnKey (table : Table) :
    table.withFirstColumnKey.columns.map Column.reading = table.columns.map Column.reading :=
  table.map_withFirstColumnKey fun _ _ _ => rfl

/-- **A load from a catalog fails only for want of readable clauses, and otherwise gives what they say.**
This holds for any types and choices, and for any policy that leaves names, clauses, types, nullability
and defaults of columns as they are. -/
theorem loadsBy_load {loader : Loader} {catalog : Catalog} (sourced : loader.source = catalog.source)
    (keeps : ∀ table, (loader.policy table).columns.map Column.reading = table.columns.map Column.reading)
    (table : String) : catalog.LoadsBy table (loader.load table) where
  neverFetch named reason fetch := by
    by_cases unreadable : catalog.Unreadable table
    · obtain ⟨_, fails⟩ := Loader.load_fails sourced unreadable
      exact nomatch fails.symm.trans fetch
    · obtain ⟨_, succeeds⟩ := Loader.load_succeeds sourced keeps unreadable
      exact nomatch succeeds.symm.trans fetch
  fails_iff := by
    constructor
    · rintro ⟨named, reason, fails⟩
      by_contra readable
      obtain ⟨_, succeeds⟩ := Loader.load_succeeds sourced keeps readable
      exact nomatch succeeds.symm.trans fails
    · intro unreadable
      exact ⟨table, Loader.load_fails sourced unreadable⟩
  unregistered := Loader.load_unregistered sourced
  firstUnreadable _ _ registered first := Loader.load_unreadable sourced registered first
  loads _ := Loader.load_readable sourced keeps

/-- A statement with a column declared twice, a broken key line and one column without a type. -/
def unevenStatement : String := "`a` int\n`b`\nPRIMARY KEY\n`a` text"

theorem loadsBy_load_unevenStatement :
    (Catalog.empty.register "t" unevenStatement).LoadsBy "t"
      (Loader.load { source := (Catalog.empty.register "t" unevenStatement).source } "t") :=
  loadsBy_load rfl Table.reading_withFirstColumnKey "t"

end SchemaDump
