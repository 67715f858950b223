/-
**What a load keeps of what the source reports.**

Between the reports of a source and the loaded table, columns get marks, notes, a length and perhaps a
stand-in key. Whatever a view shows besides, it shows as reported: `map_withFirstColumnKey` and, for the
load, **`load_view`**. Their names, types as reported, nullability and defaults are such: `load_facts`.

* `load_eq_ok_iff`: a load succeeds exactly if the source answers columns and statement.
* `load_both`: two loads that get the same of these fail alike or assemble the same.
* `load_congr`: a load asks its source about one table, and about nothing else.
-/

import SchemaDump.Loader
import SchemaDump.Proofs.Table.Assembly
import SchemaDump.Proofs.Traversal

namespace SchemaDump

/-- What a column is loaded with and keeps: name, type, nullability and default. -/
structure ReportedFacts where
  name : String
  nativeType : String
  nullable : Bool
  defaultValue : String
  deriving DecidableEq, Repr

namespace Column

def facts (column : Column) : ReportedFacts :=
  ⟨column.name, column.nativeType, column.nullable, column.defaultValue⟩

end Column

/-- The facts that a source answers about a column. -/
def Source.factsOf (source : Source) (table : String) (report : ReportedColumn) : ReportedFacts :=
  ⟨report.name, report.nativeType, report.nullable.getD false,
    ((source.rawDefault table report.name).map source.cleanDefault).getD ""⟩

namespace Table

/-- A stand-in key changes the mark and the notes of a column, and nothing else. -/
theorem map_withFirstColumnKey {α : Type} {view : Column → α}
    (unmarked : ∀ (column : Column) (mark : Bool) (notes : String),
      view { column with isPrimaryKey := mark, notes := notes } = view column) (table : Table) :
    table.withFirstColumnKey.columns.map view = table.columns.map view := by
  unfold withFirstColumnKey
  split
  · rfl
  · next first rest found =>
    rw [found, List.map_cons, List.map_cons]
    exact congrArg (· :: rest.map view) (unmarked first true _)

theorem facts_withFirstColumnKey (table : Table) :
    table.withFirstColumnKey.columns.map Column.facts = table.columns.map Column.facts :=
  table.map_withFirstColumnKey fun _ _ _ => rfl

end Table

namespace Loader

variable (loader : Loader)

/-- A load succeeds exactly on what the source answers, and what it gives is the assembled table, perhaps
with a stand-in key. -/
theorem load_eq_ok_iff {table : String} {loaded : Table} :
    loader.load table = .ok loaded ↔
      ∃ reports text, loader.source.columns table = .ok reports ∧
        loader.source.statement table = .ok text ∧
        loader.standIn (.assemble table text (.ofText text) reports loader.source loader.types
          loader.choices) = loaded := by
  simp only [load, bind_eq_ok_iff, mapError_eq_ok_iff]
  constructor
  · rintro ⟨reports, columns, text, statement, same⟩
    exact ⟨reports, text, columns, statement, Except.ok.inj same⟩
  · rintro ⟨reports, text, columns, statement, rfl⟩
    exact ⟨reports, columns, text, statement, rfl⟩

/-- A load that gets no columns fails on that. -/
theorem load_of_columns_error {table : String} {reason : Reason}
    (columns : loader.source.columns table = .error reason) :
    loader.load table = .error (.introspection table reason) := by
  rw [load, columns]
  rfl

/-- A load that gets columns and no statement fails on that. -/
theorem load_of_statement_error {table : String} {reports : List ReportedColumn} {reason : Reason}
    (columns : loader.source.columns table = .ok reports)
    (statement : loader.source.statement table = .error reason) :
    loader.load table = .error (.fetch table reason) := by
  rw [load, columns, statement]
  rfl

/-- **Two loads that get the same columns and the same statement** fail alike, or assemble their tables
from the same reports. -/
theorem load_both (first second : Loader) (table : String)
    (columns : first.source.columns table = second.source.columns table)
    (statement : first.source.statement table = second.source.statement table) :
    (∃ failure, first.load table = .error failure ∧ second.load table = .error failure) ∨
    ∃ reports text,
      first.load table = .ok (first.standIn
        (.assemble table text (.ofText text) reports first.source first.types first.choices)) ∧
      second.load table = .ok (second.standIn
        (.assemble table text (.ofText text) reports second.source second.types second.choices)) := by
  cases answered : second.source.columns table with
  | error reason =>
    exact .inl ⟨_, first.load_of_columns_error (columns.trans answered),
      second.load_of_columns_error answered⟩
  | ok reports =>
    have alsoAnswered := columns.trans answered
    cases told : second.source.statement table with
    | error reason =>
      exact .inl ⟨_, first.load_of_statement_error alsoAnswered (statement.trans told),
        second.load_of_statement_error answered told⟩
    | ok text =>
      exact .inr ⟨reports, text,
        first.load_eq_ok_iff.mpr ⟨reports, text, alsoAnswered, statement.trans told, rfl⟩,
        second.load_eq_ok_iff.mpr ⟨reports, text, answered, told, rfl⟩⟩

/-- **A load succeeds on what the source answers.** What it does not adjust, it shows as reported. -/
theorem load_view {α : Type} {view : Column → α} (unadjusted : Column.Unadjusted view)
    (keeps : ∀ table, (loader.policy table).columns.map view = table.columns.map view)
    {table text : String} {reports : List ReportedColumn}
    (columns : loader.source.columns table = .ok reports)
    (statement : loader.source.statement table = .ok text) {shown : ReportedColumn → α}
    (same : ∀ index report, view (.ofReport table (.ofText text) loader.source loader.types index report) =
      shown report) :
    ∃ loaded, loader.load table = .ok loaded ∧ loaded.columns.map view = reports.map shown := by
  have assembled := Table.map_assembleColumns_eq table (.ofText text) reports loader.source loader.types
    loader.choices unadjusted same
  refine ⟨_, loader.load_eq_ok_iff.mpr ⟨reports, text, columns, statement, rfl⟩, ?_⟩
  rw [standIn]
  split
  · rw [keeps]
    exact assembled
  · exact assembled

theorem load_facts
    (keeps : ∀ table, (loader.policy table).columns.map Column.facts = table.columns.map Column.facts)
    {table text : String} {reports : List ReportedColumn}
    (columns : loader.source.columns table = .ok reports)
    (statement : loader.source.statement table = .ok text) :
    ∃ loaded, loader.load table = .ok loaded ∧
      loaded.columns.map Column.facts = reports.map (loader.source.factsOf table) :=
  loader.load_view (fun _ _ _ _ => rfl) keeps columns statement fun _ _ => rfl

end Loader

end SchemaDump
