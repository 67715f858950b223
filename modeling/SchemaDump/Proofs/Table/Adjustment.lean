/-
**What assembly adjusts in a column, and on what it depends.**

Assembly puts a prefix in front of the type name of an unsigned column, asks the source for the length of
a text column, and notes that a column is unsigned.

* `Column.adjusted_eq`: these three are all that is adjusted;
* **`Table.mapColumns_assemble_eq_iff`**: two assemblies of the same reports, with whatever sources and
  choices, make tables that look the same exactly if the columns look the same one by one.
-/

import SchemaDump.Proofs.Table.Assembly

namespace SchemaDump

namespace Column

/-- The name of the type, with the prefix in front of it if the column is unsigned. -/
def markedName (choices : LoadChoices) (column : Column) : String :=
  if column.isUnsigned then choices.unsignedPrefix ++ column.typeName else column.typeName

/-- The length of the column under the given type name. -/
def refinedLength (table : String) (source : Source) (choices : LoadChoices) (column : Column)
    (typeName : String) : Option Nat :=
  if choices.refineLength && isTextType typeName then
    (source.charLength table column.name).toOption.or column.length
  else column.length

section RefinedLength

variable {table : String} {source : Source} {choices : LoadChoices} {column : Column} {typeName : String}

theorem refinedLength_of_unasked (unasked : choices.refineLength = false ∨ isTextType typeName = false) :
    column.refinedLength table source choices typeName = column.length := by
  rw [← Bool.and_eq_false_iff] at unasked
  rw [refinedLength, if_neg (Bool.eq_false_iff.mp unasked)]

theorem refinedLength_of_error {reason : Reason}
    (untold : source.charLength table column.name = .error reason) :
    column.refinedLength table source choices typeName = column.length := by
  rw [refinedLength, untold]
  exact ite_self _

theorem refinedLength_of_ok (asked : choices.refineLength = true) (text : isTextType typeName = true)
    {length : Nat} (told : source.charLength table column.name = .ok length) :
    column.refinedLength table source choices typeName = some length := by
  rw [refinedLength, asked, text, told]
  rfl

end RefinedLength

/-- The column with type name, length and notes adjusted. -/
def adjusted (table : String) (source : Source) (choices : LoadChoices) (column : Column) : Column :=
  { column with
    typeName := column.markedName choices
    length := column.refinedLength table source choices (column.markedName choices)
    notes := if column.isUnsigned then unsignedNote else "" }

theorem markUnsigned_eq {column : Column} (noteless : column.notes = "") (choices : LoadChoices) :
    column.markUnsigned choices =
      { column with
        typeName := column.markedName choices
        notes := if column.isUnsigned then unsignedNote else "" } := by
  unfold markUnsigned markedName
  split
  · rw [addNote, noteless]
    rfl
  · rw [← noteless]

theorem refineLength_eq (table : String) (source : Source) (choices : LoadChoices) (column : Column) :
    column.refineLength table source choices =
      { column with length := column.refinedLength table source choices column.typeName } := by
  unfold refineLength refinedLength
  split
  · cases source.charLength table column.name <;> rfl
  · rfl

/-- **Type name, length and notes are all that is adjusted.** -/
theorem adjusted_eq (table : String) (source : Source) (choices : LoadChoices) {column : Column}
    (noteless : column.notes = "") :
    (column.markUnsigned choices).refineLength table source choices =
      column.adjusted table source choices := by
  rw [markUnsigned_eq noteless, refineLength_eq]
  rfl

end Column

namespace Table

/-- The table with every column seen through a view. -/
def mapColumns (view : Column → Column) (table : Table) : Table :=
  { table with columns := table.columns.map view }

theorem mapColumns_id (table : Table) : table.mapColumns id = table := by
  rw [mapColumns, List.map_id]

/-- Positions depend on the names and the numbers of the columns. -/
theorem positionsOf_congr {first second : List Column}
    (same : first.map (fun column => (column.name, column.index)) =
      second.map fun column => (column.name, column.index)) (names : List String) :
    positionsOf first names = positionsOf second names := by
  have shown (columns : List Column) (name : String) : lastPosition? columns name =
      ((columns.map fun column => (column.name, column.index)).reverse.find?
        fun entry => entry.1 == name).map Prod.snd := by
    rw [lastPosition?, ← List.map_reverse, List.find?_map, Option.map_map]
    rfl
  rw [positionsOf, positionsOf]
  refine List.filterMap_congr fun name _ => ?_
  rw [shown, shown, same]

variable (table text : String) (statement : Statement) (reports : List ReportedColumn)
  (first second : Source) (types : TypeMapper) (choices others : LoadChoices)

theorem assembleColumns_eq : assembleColumns table statement reports first types choices =
    reports.zipIdx.map fun (report, index) =>
      (Column.ofReport table statement first types index report).adjusted table first choices :=
  List.map_congr_left fun _ _ => Column.adjusted_eq table first choices rfl

variable {table text statement reports first types choices} in
theorem forall_columns_assemble {holds : Column → Prop} :
    (∀ column ∈ (assemble table text statement reports first types choices).columns, holds column) ↔
      ∀ entry ∈ reports.zipIdx, holds
        ((Column.ofReport table statement first types entry.2 entry.1).adjusted table first choices) := by
  simp only [assemble, assembleColumns_eq, List.forall_mem_map]

/-- The positions of names depend on the reports alone. -/
theorem positionsOf_assembleColumns (names : List String) :
    positionsOf (assembleColumns table statement reports first types choices) names =
      positionsOf (assembleColumns table statement reports second types others) names := by
  have unadjusted : Column.Unadjusted fun column => (column.name, column.index) := fun _ _ _ _ => rfl
  have reported (source : Source) (choices : LoadChoices) :=
    map_assembleColumns table statement reports source types choices unadjusted
  exact positionsOf_congr ((reported first choices).trans (reported second others).symm) names

/-- **Assembled tables look the same exactly if their columns do, one by one,** as name, text and keys
depend on neither the source nor the choices. -/
theorem mapColumns_assemble_eq_iff (view : Column → Column) :
    (assemble table text statement reports first types choices).mapColumns view =
      (assemble table text statement reports second types others).mapColumns view ↔
    ∀ entry ∈ reports.zipIdx,
      view ((Column.ofReport table statement first types entry.2 entry.1).adjusted table first choices) =
      view ((Column.ofReport table statement second types entry.2 entry.1).adjusted table second others) := by
  have positions := positionsOf_assembleColumns table statement reports first second types choices others
  have columns : (assemble table text statement reports first types choices).mapColumns view =
        (assemble table text statement reports second types others).mapColumns view ↔
      (assembleColumns table statement reports first types choices).map view =
        (assembleColumns table statement reports second types others).map view := by
    simp only [mapColumns, assemble, funext positions, mk.injEq, true_and, and_true]
  rw [columns, assembleColumns_eq, assembleColumns_eq, List.map_map, List.map_map, List.map_inj_left]
  rfl

end Table

end SchemaDump
