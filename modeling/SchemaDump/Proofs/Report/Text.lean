/-
**Lines of a text report.**

A report is printed item by item, so it has one line for each item, and one more for each line feed in what
it prints.

* `Table.lines_textReport`: the lines of a report, whatever is printed;
* `Column.lineFeeds_reportLine`: the line of a column prints the line feeds of name, type, default and
  comment, and no others;
* **`Table.OneLine.length_lines`**: where nothing but defaults has a line feed, every item has one line and
  one more for each line feed in a default.
-/

import Mathlib.Algebra.GroupWithZero.Nat
import SchemaDump.Proofs.Table.Coherence
import SchemaDump.Proofs.Text.Lines
import SchemaDump.Report.Text

namespace SchemaDump

open SchemaDump.Text

/-! ### Counting line feeds -/

/-- The number of line feeds in a text. -/
def lineFeeds (text : String) : Nat := text.toList.count lineFeed

theorem lineFeeds_eq_zero {text : String} : lineFeeds text = 0 ↔ lineFeed ∉ text.toList := List.count_eq_zero

theorem lineFeeds_append (first second : String) :
    lineFeeds (first ++ second) = lineFeeds first + lineFeeds second := by
  rw [lineFeeds, String.toList_append, List.count_append]
  rfl

theorem lineFeeds_toString (value : Nat) : lineFeeds (toString value) = 0 := by
  rw [lineFeeds_eq_zero, Nat.toString_eq_ofList_toDigits, String.toList_ofList]
  intro listed
  exact absurd (Nat.isDigit_of_mem_toDigits (by decide) (by decide) listed) (by decide)

theorem lineFeeds_spaces (width : Nat) : lineFeeds (String.ofList (List.replicate width ' ')) = 0 := by
  rw [lineFeeds, String.toList_ofList, List.count_replicate]
  rfl

theorem lineFeeds_padLeft (width : Nat) (text : String) : lineFeeds (padLeft width text) = lineFeeds text := by
  rw [padLeft, lineFeeds_append, lineFeeds_spaces, Nat.zero_add]

theorem lineFeeds_padRight (width : Nat) (text : String) : lineFeeds (padRight width text) = lineFeeds text := by
  rw [padRight, lineFeeds_append, lineFeeds_spaces, Nat.add_zero]

theorem lineFeeds_framed {lead final : String} (plainLead : lineFeeds lead = 0)
    (plainFinal : lineFeeds final = 0) (text : String) :
    lineFeeds (framed lead text final) = lineFeeds text := by
  unfold framed
  split
  · next empty =>
    rw [String.isEmpty_iff] at empty
    rw [empty]
  · rw [lineFeeds_append, lineFeeds_append, plainLead, plainFinal, Nat.zero_add, Nat.add_zero]

theorem lineFeeds_intercalate {between : String} (plain : lineFeeds between = 0) {texts : List String}
    (free : ∀ text ∈ texts, lineFeeds text = 0) : lineFeeds (between.intercalate texts) = 0 := by
  rw [lineFeeds_eq_zero, String.toList_intercalate]
  refine not_mem_intercalate (lineFeeds_eq_zero.mp plain) ?_
  rw [List.forall_mem_map]
  exact fun text listed => lineFeeds_eq_zero.mp (free text listed)

namespace Column

theorem lineFeeds_flags (column : Column) : lineFeeds column.flags = 0 := by
  unfold flags
  cases column.isPrimaryKey <;> cases column.isAutoIncrement <;> cases column.nullable <;> decide

/-- **The line of a column prints the line feeds of name, type, default and comment.** -/
theorem lineFeeds_reportLine (column : Column) :
    lineFeeds column.reportLine = lineFeeds column.name + lineFeeds column.typeName +
      lineFeeds column.defaultValue + lineFeeds column.comment := by
  have length : lineFeeds ((column.length.map toString).getD "") = 0 := by
    cases column.length with
    | none => rfl
    | some value => exact lineFeeds_toString value
  have spaces : lineFeeds "  " = 0 ∧ lineFeeds " " = 0 := by decide
  rw [reportLine]
  simp only [lineFeeds_append, lineFeeds_padLeft, lineFeeds_padRight, lineFeeds_toString]
  rw [lineFeeds_framed (by decide) (by decide), lineFeeds_framed (by decide) (by decide),
    lineFeeds_framed (by decide) (by decide), lineFeeds_framed (by decide) (by decide), length,
    lineFeeds_flags, spaces.1, spaces.2]
  omega

end Column

/-! ### Counting lines -/

/-- The number of lines that texts make, printed one behind the other. -/
def lineCount (texts : List String) : Nat := (texts.map fun text => lineFeeds text + 1).sum

theorem lineCount_append (first second : List String) :
    lineCount (first ++ second) = lineCount first + lineCount second := by
  rw [lineCount, List.map_append, List.sum_append]
  rfl

/-- Texts without line feeds make one line each. -/
theorem lineCount_of_free {texts : List String} (free : ∀ text ∈ texts, lineFeeds text = 0) :
    lineCount texts = texts.length := by
  have each : texts.map (fun text => lineFeeds text + 1) = texts.map fun _ => 1 :=
    List.map_congr_left fun text listed => by rw [free text listed]
  rw [lineCount, each]
  simp

theorem lineCount_orNone (texts : List String) : lineCount (orNone texts) = max 1 (lineCount texts) := by
  unfold orNone
  split
  · next none =>
    rw [List.isEmpty_iff.mp none]
    decide
  · next some =>
    obtain ⟨text, rest, rfl⟩ := List.exists_cons_of_ne_nil (mt List.isEmpty_iff.mpr some)
    have first : 1 ≤ lineCount (text :: rest) := by
      rw [lineCount, List.map_cons, List.sum_cons]
      omega
    omega

namespace Table

theorem toList_textReport (table : Table) :
    table.textReport.toList = (table.reportLines.map String.toList).flatMap (· ++ [lineFeed]) := by
  rw [textReport, String.toList_join, List.flatMap_map, List.flatMap_map]
  simp only [String.toList_append]
  rfl

/-- **The lines of a report**, whatever is printed: each ends in a line feed, and there is one for each item
and one more for each line feed in an item. -/
theorem lines_textReport (table : Table) :
    (lines table.textReport.toList).length = lineCount table.reportLines ∧
      (lines table.textReport.toList).flatMap (· ++ [lineFeed]) = table.textReport.toList := by
  rw [toList_textReport, lines_flatMap]
  constructor
  · rw [List.length_flatMap, List.map_map, lineCount]
    congr 1
    refine List.map_congr_left fun text _ => ?_
    exact length_lines text.toList
  · rw [List.flatMap_assoc]
    congr 1
    funext text
    exact flatMap_lines text

end Table

/-! ### Tables with line feeds in defaults only -/

/-- What the lines of a column print has no line feed, its default apart. -/
structure Column.OneLine (column : Column) : Prop where
  name : lineFeeds column.name = 0
  typeName : lineFeeds column.typeName = 0
  comment : lineFeeds column.comment = 0
  notes : lineFeeds column.notes = 0

/-- What the report of a table prints has no line feed, the defaults of its columns apart. -/
structure Table.OneLine (table : Table) : Prop where
  name : lineFeeds table.name = 0
  columns : ∀ column ∈ table.columns, column.OneLine
  indexes : ∀ name ∈ table.uniqueIndexes.names, lineFeeds name = 0

/-- The number of items in the report of a table: six that every report has, the columns, their notes, and
the unique indexes. Where there are no columns or no indexes, that is an item as well. -/
def Table.reportItems (table : Table) : Nat :=
  6 + max 1 table.columns.length + table.columns.countP (fun column => column.notes ≠ "") +
    max 1 table.uniqueIndexes.size

theorem Column.OneLine.lineCount_reportLines {column : Column} (plain : column.OneLine) :
    lineCount column.reportLines =
      1 + (if column.notes ≠ "" then 1 else 0) + lineFeeds column.defaultValue := by
  have own : lineFeeds column.reportLine = lineFeeds column.defaultValue := by
    rw [column.lineFeeds_reportLine, plain.name, plain.typeName, plain.comment]
    omega
  unfold reportLines
  by_cases noteless : column.notes = ""
  · simp [lineCount, own, noteless]
    omega
  · have label : lineFeeds "       note: " = 0 := by decide
    have note : lineFeeds ("       note: " ++ column.notes) = 0 := by
      rw [lineFeeds_append, label, plain.notes]
    simp [lineCount, own, noteless, note]
    omega

theorem lineCount_columns {columns : List Column} (plain : ∀ column ∈ columns, column.OneLine) :
    lineCount (columns.flatMap Column.reportLines) =
      columns.length + columns.countP (fun column => column.notes ≠ "") +
        (columns.map fun column => lineFeeds column.defaultValue).sum := by
  induction columns with
  | nil => rfl
  | cons column rest ih =>
    rw [List.forall_mem_cons] at plain
    rw [List.flatMap_cons, lineCount_append, plain.1.lineCount_reportLines, ih plain.2, List.length_cons,
      List.countP_cons, List.map_cons, List.sum_cons]
    simp only [decide_eq_true_eq]
    omega

namespace Table.OneLine

variable {table : Table} (plain : table.OneLine)

include plain

theorem lineFeeds_nameList (positions : List Nat) : lineFeeds (nameList (table.columnsAt positions)) = 0 := by
  refine lineFeeds_intercalate (by decide) ?_
  rw [List.forall_mem_map]
  exact fun column read => (plain.columns column (mem_of_mem_columnsAt read)).name

theorem lineFeeds_primaryKeyLine : lineFeeds table.primaryKeyLine = 0 := by
  have marks : lineFeeds "Primary key: (" = 0 ∧ lineFeeds ")" = 0 := by decide
  unfold primaryKeyLine
  split
  · decide
  · rw [lineFeeds_append, lineFeeds_append, marks.1, marks.2, primaryKeyColumns,
      plain.lineFeeds_nameList]

theorem lineFeeds_indexLine {index : String × List Column} (listed : index ∈ table.uniqueIndexColumns) :
    lineFeeds (indexLine index) = 0 := by
  have marks : lineFeeds "  " = 0 ∧ lineFeeds " (" = 0 ∧ lineFeeds ")" = 0 := by decide
  obtain ⟨entry, known, rfl⟩ := List.mem_map.mp listed
  have name := plain.indexes entry.1 (List.mem_map_of_mem known)
  rw [indexLine, lineFeeds_append, lineFeeds_append, lineFeeds_append, lineFeeds_append, marks.1, marks.2.1,
    marks.2.2, name, plain.lineFeeds_nameList]

/-- **Every item of the report has one line,** and one more for each line feed in a default. -/
theorem length_lines :
    (lines table.textReport.toList).length =
      table.reportItems + (table.columns.map fun column => lineFeeds column.defaultValue).sum := by
  have head : lineCount ["=== Table `" ++ table.name ++ "` ===", "",
      "Columns (" ++ toString table.columns.length ++ "):"] = 3 := by
    have marks : lineFeeds "=== Table `" = 0 ∧ lineFeeds "` ===" = 0 ∧ lineFeeds "Columns (" = 0 ∧
      lineFeeds "):" = 0 ∧ lineFeeds "" = 0 := by decide
    simp only [lineCount, List.map_cons, List.map_nil, List.sum_cons, List.sum_nil, lineFeeds_append,
      lineFeeds_toString, plain.name, marks]
    rfl
  have middle : lineCount ["", table.primaryKeyLine,
      "Unique indexes (" ++ toString table.uniqueIndexes.size ++ "):"] = 3 := by
    have marks : lineFeeds "Unique indexes (" = 0 ∧ lineFeeds "):" = 0 ∧ lineFeeds "" = 0 := by decide
    simp only [lineCount, List.map_cons, List.map_nil, List.sum_cons, List.sum_nil, lineFeeds_append,
      lineFeeds_toString, plain.lineFeeds_primaryKeyLine, marks]
    rfl
  have indexes : lineCount (table.uniqueIndexColumns.map indexLine) = table.uniqueIndexes.size := by
    rw [lineCount_of_free (List.forall_mem_map.mpr fun _ => plain.lineFeeds_indexLine), List.length_map,
      uniqueIndexColumns, List.length_map]
    rfl
  rw [table.lines_textReport.1, reportLines, reportItems, lineCount_append, lineCount_append,
    lineCount_append, head, lineCount_orNone, middle, lineCount_orNone, lineCount_columns plain.columns,
    indexes]
  rcases Nat.eq_zero_or_pos table.columns.length with none | some
  · simp [List.length_eq_zero_iff.mp none]
  · omega

end Table.OneLine

end SchemaDump
