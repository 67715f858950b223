/-
**The prefix of unsigned types.**

A prefix is put in front of the type names of unsigned columns. It comes there before the name is tested
for a text type, so it is part of what is tested: a prefix such as `char` makes a text type of every
unsigned one, and the source is asked for lengths.

* `isTextType_append`: the test does not see a prefix without the letters `c` and `t`;
* `Column.withoutMarkedName_assembled_iff`: when two prefixes give a column the same length;
* **`assemble_unsignedPrefix`**: what a table owes to its prefix;
* `unsignedPrefix_changes_length`: it can be a length.
-/

import SchemaDump.Proofs.Table.Adjustment
import SchemaDump.Proofs.Text.Occurrence

namespace SchemaDump

open SchemaDump.Text

/-! ### The test for text types -/

/-- A prefix in which no name of a text type starts. -/
def PlainPrefix (unsignedPrefix : String) : Prop :=
  'c' ∉ lowercase unsignedPrefix.toList ∧ 't' ∉ lowercase unsignedPrefix.toList

/-- **The test does not see a plain prefix.** -/
theorem isTextType_append {unsignedPrefix : String} (plain : PlainPrefix unsignedPrefix)
    (typeName : String) : isTextType (unsignedPrefix ++ typeName) = isTextType typeName := by
  have absent {pattern : List Char} {c : Char} (free : c ∉ lowercase unsignedPrefix.toList) :
      occursIn (c :: pattern) (lowercase (unsignedPrefix ++ typeName).toList) =
        occursIn (c :: pattern) (lowercase typeName.toList) := by
    rw [Bool.eq_iff_iff, occursIn_iff_infix, occursIn_iff_infix, String.toList_append, lowercase,
      List.map_append]
    exact infix_append_iff_of_not_mem free _
  exact congrArg₂ or (absent plain.1) (absent plain.2)

/-! ### Columns -/

namespace Column

theorem markedName_eq (choices : LoadChoices) (column : Column) :
    column.markedName choices =
      (if column.isUnsigned then choices.unsignedPrefix else "") ++ column.typeName := by
  unfold markedName
  split
  · rfl
  · exact String.empty_append.symm

/-- The column without the name of its type, if it is unsigned. -/
def withoutMarkedName (column : Column) : Column :=
  { column with typeName := if column.isUnsigned then "" else column.typeName }

/-- The column without the name of its type and its length, if it is unsigned. -/
def withoutMarkedType (column : Column) : Column :=
  { column with
    typeName := if column.isUnsigned then "" else column.typeName
    length := if column.isUnsigned then none else column.length }

/-- **Under two names a column gets the same length** exactly if both or neither are text types, unless
the source knows no other length than the column has. -/
theorem refinedLength_eq_iff {table : String} {source : Source} {choices : LoadChoices} {column : Column}
    {first second : String} :
    column.refinedLength table source choices first = column.refinedLength table source choices second ↔
      (choices.refineLength = true → ∀ length, source.charLength table column.name = .ok length →
        column.length ≠ some length → isTextType first = isTextType second) := by
  unfold refinedLength
  cases choices.refineLength with
  | false => simp
  | true =>
    cases source.charLength table column.name with
    | error reason => simp [Except.toOption]
    | ok length =>
      cases isTextType first <;> cases isTextType second <;> simp [Except.toOption, eq_comm]

variable (table : String) (source : Source) (choices : LoadChoices) (first second : String)
  (column : Column)

/-- A prefix shows in the name and the length of an unsigned column, and nowhere else. -/
theorem withoutMarkedType_adjusted :
    (column.adjusted table source { choices with unsignedPrefix := first }).withoutMarkedType =
      (column.adjusted table source { choices with unsignedPrefix := second }).withoutMarkedType := by
  simp only [adjusted, withoutMarkedType, markedName]
  split
  · rfl
  · rfl

/-- It shows in the length exactly if the column gets another one under the other name. -/
theorem withoutMarkedName_adjusted_iff :
    (column.adjusted table source { choices with unsignedPrefix := first }).withoutMarkedName =
      (column.adjusted table source { choices with unsignedPrefix := second }).withoutMarkedName ↔
    (column.isUnsigned = true →
      column.refinedLength table source choices (first ++ column.typeName) =
        column.refinedLength table source choices (second ++ column.typeName)) := by
  simp only [adjusted, withoutMarkedName, markedName]
  split
  · next unsigned =>
    simp only [mk.injEq, unsigned, true_and, and_true, forall_const]
    rfl
  · next signed => exact ⟨fun _ unsigned => absurd unsigned signed, fun _ => rfl⟩

end Column

/-! ### Tables -/

/-- **What a table owes to the prefix of unsigned types.** The prefix stands in front of the type names of
its unsigned columns. Beside these names it may change lengths of unsigned columns, and nothing else. Two
prefixes change none exactly if they make text types of the same unsigned columns, as far as the source
knows another length of the column than its type gives; plain prefixes never change one. -/
theorem assemble_unsignedPrefix (table text : String) (statement : Statement)
    (reports : List ReportedColumn) (source : Source) (types : TypeMapper) (choices : LoadChoices)
    (first second : String) :
    let assembled (unsignedPrefix : String) : Table := .assemble table text statement reports source
      types { choices with unsignedPrefix := unsignedPrefix }
    (∀ column ∈ (assembled first).columns, column.typeName =
      (if column.isUnsigned then first else "") ++ (types column.nativeType).canonical) ∧
    (assembled first).mapColumns Column.withoutMarkedType =
      (assembled second).mapColumns Column.withoutMarkedType ∧
    ((assembled first).mapColumns Column.withoutMarkedName =
        (assembled second).mapColumns Column.withoutMarkedName ↔
      ∀ column ∈ (assembled first).columns, column.isUnsigned = true → choices.refineLength = true →
        ∀ length, source.charLength table column.name = .ok length →
          (types column.nativeType).length ≠ some length →
            isTextType (first ++ (types column.nativeType).canonical) =
              isTextType (second ++ (types column.nativeType).canonical)) ∧
    (PlainPrefix first → PlainPrefix second →
      (assembled first).mapColumns Column.withoutMarkedName =
        (assembled second).mapColumns Column.withoutMarkedName) := by
  intro assembled
  have same : (assembled first).mapColumns Column.withoutMarkedName =
      (assembled second).mapColumns Column.withoutMarkedName ↔ _ :=
    Table.mapColumns_assemble_eq_iff table text statement reports source source types
      { choices with unsignedPrefix := first } { choices with unsignedPrefix := second }
      Column.withoutMarkedName
  simp only [Column.withoutMarkedName_adjusted_iff, Column.refinedLength_eq_iff] at same
  refine ⟨?_, ?_, ?_, ?_⟩
  · exact Table.forall_columns_assemble.mpr fun _ _ => Column.markedName_eq ..
  · exact (Table.mapColumns_assemble_eq_iff ..).mpr fun _ _ => Column.withoutMarkedType_adjusted ..
  · rw [same, Table.forall_columns_assemble]
    rfl
  · intro plain alsoPlain
    rw [same]
    intro entry _ _ _ _ _ _
    rw [isTextType_append plain, isTextType_append alsoPlain]

/-- The statement of a table with one column, which is an unsigned number. -/
def countStatement : String := "CREATE TABLE `t` (\n  `n` int unsigned\n)"

/-- A source that knows a length for it. -/
def countSource : Source where
  statement _ := .ok countStatement
  columns _ := .ok [⟨"n", some true, "int unsigned"⟩]
  charLength _ _ := .ok 7
  rawDefault _ _ := none

/-- The table as it is with a prefix. -/
def countTable (unsignedPrefix : String) : Table :=
  .assemble "t" countStatement (.ofText countStatement) [⟨"n", some true, "int unsigned"⟩] countSource
    .ofNative { unsignedPrefix := unsignedPrefix }

/-- With `char` for a prefix, an unsigned number gets a length. -/
theorem unsignedPrefix_changes_length :
    (countTable "u").columns.map (fun column => (column.typeName, column.length)) = [("uint", none)] ∧
    (countTable "char").columns.map (fun column => (column.typeName, column.length)) =
      [("charint", some 7)] ∧
    ¬ ∀ (table text : String) (statement : Statement) (reports : List ReportedColumn) (source : Source)
      (types : TypeMapper) (choices : LoadChoices) (first second : String),
      (Table.assemble table text statement reports source types
        { choices with unsignedPrefix := first }).mapColumns Column.withoutMarkedName =
      (Table.assemble table text statement reports source types
        { choices with unsignedPrefix := second }).mapColumns Column.withoutMarkedName := by
  refine ⟨by decide +kernel, by decide +kernel, fun same => ?_⟩
  have tables : (countTable "u").mapColumns Column.withoutMarkedName =
      (countTable "char").mapColumns Column.withoutMarkedName :=
    same "t" countStatement (.ofText countStatement) [⟨"n", some true, "int unsigned"⟩] countSource
      .ofNative {} "u" "char"
  have lengths := congrArg (fun table : Table => table.columns.map Column.length) tables
  exact absurd lengths (by decide +kernel)

end SchemaDump
