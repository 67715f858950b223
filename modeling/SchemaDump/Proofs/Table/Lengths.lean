/-
**A length lookup affects lengths only.**

The source is asked for the length of every text column, one by one, and may fail on any of them. Neither
an answer nor a failure reaches another column, a key, a note or the stand-in key.

* `Column.withoutTextLength_adjusted`: two sources show in the length of a text column;
* `Table.lengthsFrom_assemble`: the length of each column is the one that its lookup tells;
* `Loader.withoutTextLength_standIn`: a stand-in key is chosen without a look at lengths;
* **`load_lengths`**: two loads whose sources differ in the length lookup.
-/

import SchemaDump.Proofs.Loader
import SchemaDump.Proofs.Table.Adjustment

namespace SchemaDump

/-! ### Columns -/

namespace Column

/-- The column without its length, if its type is a text type. -/
def withoutTextLength (column : Column) : Column :=
  { column with length := if isTextType column.typeName then none else column.length }

variable (table : String) (first second : Source) {choices : LoadChoices} (column : Column)

/-- Unless lengths are asked for, a source does not show in a column. -/
theorem adjusted_of_unrefined (unrefined : choices.refineLength = false) :
    column.adjusted table first choices = column.adjusted table second choices := by
  rw [adjusted, adjusted, refinedLength_of_unasked (.inl unrefined),
    refinedLength_of_unasked (.inl unrefined)]

/-- **A source shows in the length of a text column**, and nowhere else. -/
theorem withoutTextLength_adjusted :
    (column.adjusted table first choices).withoutTextLength =
      (column.adjusted table second choices).withoutTextLength := by
  cases text : isTextType (column.markedName choices) with
  | true => simp only [adjusted, withoutTextLength, text, if_true]
  | false => simp only [adjusted, refinedLength_of_unasked (.inr text)]

end Column

/-! ### Tables -/

namespace Table

section Assembled

variable (table text : String) (statement : Statement) (reports : List ReportedColumn) (source : Source)
  (lookup : (table column : String) → Except Reason Nat) (types : TypeMapper)

theorem withoutTextLength_assemble (choices : LoadChoices) :
    (assemble table text statement reports source types choices).mapColumns Column.withoutTextLength =
      (assemble table text statement reports { source with charLength := lookup } types
        choices).mapColumns Column.withoutTextLength :=
  (mapColumns_assemble_eq_iff ..).mpr fun _ _ => Column.withoutTextLength_adjusted ..

theorem assemble_of_unrefined {choices : LoadChoices} (unrefined : choices.refineLength = false) :
    assemble table text statement reports source types choices =
      assemble table text statement reports { source with charLength := lookup } types choices := by
  have columns := mapColumns_assemble_eq_iff table text statement reports source
    { source with charLength := lookup } types choices choices id
  rw [mapColumns_id, mapColumns_id] at columns
  exact columns.mpr fun _ _ => Column.adjusted_of_unrefined table source _ _ unrefined

end Assembled

/-- **The lengths of the columns are those that a lookup tells**, and where it tells none, those of their
types. -/
structure LengthsFrom (table : Table) (lookup : String → Except Reason Nat) (types : TypeMapper)
    (asked : Bool) : Prop where
  told : ∀ column ∈ table.columns, asked = true → isTextType column.typeName = true →
    ∀ length, lookup column.name = .ok length → column.length = some length
  untold : ∀ column ∈ table.columns, ∀ reason, lookup column.name = .error reason →
    column.length = (types column.nativeType).length
  unasked : ∀ column ∈ table.columns, asked = false ∨ isTextType column.typeName = false →
    column.length = (types column.nativeType).length

theorem lengthsFrom_assemble (table text : String) (statement : Statement)
    (reports : List ReportedColumn) (source : Source) (types : TypeMapper) (choices : LoadChoices) :
    (assemble table text statement reports source types choices).LengthsFrom (source.charLength table)
      types choices.refineLength := by
  refine ⟨?_, ?_, ?_⟩
  · exact forall_columns_assemble.mpr fun _ _ asked text _ told =>
      Column.refinedLength_of_ok asked text told
  · exact forall_columns_assemble.mpr fun _ _ _ untold => Column.refinedLength_of_error untold
  · exact forall_columns_assemble.mpr fun _ _ unasked => Column.refinedLength_of_unasked unasked

/-! ### Stand-in keys -/

/-- A stand-in key is chosen without a look at lengths. -/
theorem withoutTextLength_withFirstColumnKey (table : Table) :
    table.withFirstColumnKey.mapColumns Column.withoutTextLength =
      (table.mapColumns Column.withoutTextLength).withFirstColumnKey := by
  obtain ⟨name, text, columns, primaryKey, uniqueIndexes⟩ := table
  cases columns <;> rfl

/-- What holds of columns whatever their marks and notes, a stand-in key keeps. -/
theorem forall_withFirstColumnKey {holds : Column → Prop}
    (unmarked : ∀ (column : Column) (mark : Bool) (notes : String),
      holds { column with isPrimaryKey := mark, notes := notes } ↔ holds column) {table : Table}
    (all : ∀ column ∈ table.columns, holds column) :
    ∀ column ∈ table.withFirstColumnKey.columns, holds column := by
  unfold withFirstColumnKey
  split
  · exact all
  · next first rest columns =>
    rw [columns, List.forall_mem_cons] at all
    exact List.forall_mem_cons.mpr ⟨(unmarked first true _).mpr all.1, all.2⟩

/-- A stand-in key leaves the lengths as they are. -/
theorem LengthsFrom.withFirstColumnKey {table : Table} {lookup : String → Except Reason Nat}
    {types : TypeMapper} {asked : Bool} (lengths : table.LengthsFrom lookup types asked) :
    table.withFirstColumnKey.LengthsFrom lookup types asked where
  told := forall_withFirstColumnKey (fun _ _ _ => Iff.rfl) lengths.told
  untold := forall_withFirstColumnKey (fun _ _ _ => Iff.rfl) lengths.untold
  unasked := forall_withFirstColumnKey (fun _ _ _ => Iff.rfl) lengths.unasked

end Table

/-! ### Loads -/

namespace Loader

section StandIn

variable {loader : Loader} (first : loader.policy = Table.withFirstColumnKey)

include first

theorem withoutTextLength_standIn (table : Table) :
    (loader.standIn table).mapColumns Column.withoutTextLength =
      loader.standIn (table.mapColumns Column.withoutTextLength) := by
  have samePolicy := table.withoutTextLength_withFirstColumnKey
  rw [standIn, standIn, first]
  split
  · next asked => exact samePolicy.trans (if_pos asked).symm
  · next unasked => exact (if_neg unasked).symm

theorem lengthsFrom_standIn {table : Table} {lookup : String → Except Reason Nat} {types : TypeMapper}
    {asked : Bool} (lengths : table.LengthsFrom lookup types asked) :
    (loader.standIn table).LengthsFrom lookup types asked := by
  rw [standIn, first]
  split
  · exact lengths.withFirstColumnKey
  · exact lengths

end StandIn

/-- **A length lookup affects lengths only.** Two loads from sources that differ in their length lookups
fail alike, or succeed with tables that are the same but for the lengths of text columns. Each of these is
what the lookup answers, or, where it fails, what the type gives. If no lengths are asked for, the tables
are the same. -/
theorem load_lengths (source : Source) (lookup : (table column : String) → Except Reason Nat)
    (types : TypeMapper) (choices : LoadChoices) (table : String) :
    let load (source : Source) : Except Failure Table :=
      { source := source, types := types, choices := choices : Loader }.load table
    (∃ failure, load source = .error failure ∧
      load { source with charLength := lookup } = .error failure) ∨
    ∃ first second, load source = .ok first ∧ load { source with charLength := lookup } = .ok second ∧
      first.mapColumns Column.withoutTextLength = second.mapColumns Column.withoutTextLength ∧
      first.LengthsFrom (source.charLength table) types choices.refineLength ∧
      second.LengthsFrom (lookup table) types choices.refineLength ∧
      (choices.refineLength = false → first = second) := by
  intro load
  let other : Source := { source with charLength := lookup }
  let loader : Loader := { source := source, types := types, choices := choices }
  obtain fails | ⟨reports, text, one, two⟩ :=
    load_both loader { loader with source := other } table rfl rfl
  · exact .inl fails
  · refine .inr ⟨_, _, one, two, ?_, ?_, ?_, ?_⟩
    · rw [withoutTextLength_standIn rfl, withoutTextLength_standIn rfl]
      exact congrArg loader.standIn (Table.withoutTextLength_assemble ..)
    · exact lengthsFrom_standIn rfl (Table.lengthsFrom_assemble ..)
    · exact lengthsFrom_standIn rfl (Table.lengthsFrom_assemble ..)
    · intro unrefined
      have same := Table.assemble_of_unrefined table text (.ofText text) reports source lookup types unrefined
      exact congrArg loader.standIn same

/-- A source with a text column and a number that tells no lengths. -/
def unmeasuredSource : Source where
  statement _ := .ok "CREATE TABLE `t` (\n  `c` varchar(9),\n  `n` int\n)"
  columns _ := .ok [⟨"c", none, "varchar(9)"⟩, ⟨"n", none, "int"⟩]
  charLength table column := .error (.noLength table column)
  rawDefault _ _ := none

/-- A length that is told takes the place of the one in the type. -/
theorem load_lengths_measured :
    ∃ first second,
      ({ source := unmeasuredSource } : Loader).load "t" = .ok first ∧
      ({ source := { unmeasuredSource with charLength := fun _ _ => .ok 40 } } : Loader).load "t" =
        .ok second ∧
      first.mapColumns Column.withoutTextLength = second.mapColumns Column.withoutTextLength ∧
      (∃ column ∈ first.columns, column.name = "c" ∧ column.length = some 9) ∧
      ∃ column ∈ second.columns, column.name = "c" ∧ column.length = some 40 := by
  obtain ⟨failure, fails, -⟩ | ⟨first, second, one, two, same, fromTypes, fromLookup, -⟩ :=
    load_lengths unmeasuredSource (fun _ _ => .ok 40) TypeName.ofNative {} "t"
  · exact nomatch fails
  · refine ⟨first, second, one, two, same, ?_, ?_⟩
    · obtain ⟨column, listed, name, native⟩ :
          ∃ column ∈ first.columns, column.name = "c" ∧ column.nativeType = "varchar(9)" := by
        cases one
        exact ⟨_, List.mem_cons_self, rfl, rfl⟩
      refine ⟨column, listed, name, (fromTypes.untold column listed _ rfl).trans ?_⟩
      rw [native]
      rfl
    · obtain ⟨column, listed, name, text⟩ :
          ∃ column ∈ second.columns, column.name = "c" ∧ isTextType column.typeName = true := by
        cases two
        exact ⟨_, List.mem_cons_self, rfl, rfl⟩
      exact ⟨column, listed, name, fromLookup.told column listed rfl text 40 rfl⟩

end Loader

end SchemaDump
