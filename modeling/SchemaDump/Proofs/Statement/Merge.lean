/-
**A statement that is cut at a line feed.**

The two parts of a text can be read apart and then merged: the second statement is laid over the first,
and the numbers of its lines count on.

* `Statement.merge`: one statement laid over another, container by container.
* `merge_addLine`: what a line adds to the second statement, it adds to the merged one.
* **`ofText_append_lineFeed`**: so reading two texts apart comes to the same as reading them together.
  The line feed closes the last line of the first text; if that line is empty, it says nothing.
-/

import SchemaDump.Proofs.Statement.Accounting
import SchemaDump.Proofs.Text.Lines

namespace SchemaDump

open SchemaDump.Text

/-! ### Lines that stand further down -/

namespace Line

/-- The line, so many lines further down. -/
def moved (shift : Nat) (line : Line) : Line := { line with number := line.number + shift }

theorem numbered_add (start shift : Nat) (texts : List (List Char)) :
    numbered (start + shift) texts = (numbered start texts).map (moved shift) := by
  rw [numbered, numbered, List.map_map, List.zipIdx_eq_map_add, List.zipIdx_eq_map_add (i := start),
    List.map_map, List.map_map]
  refine List.map_congr_left fun entry _ => ?_
  simp only [Function.comp_apply, moved, Nat.add_right_comm]

end Line

/-- The skipped line, so many lines further down. -/
def MalformedLine.moved (shift : Nat) (line : MalformedLine) : MalformedLine :=
  { line with number := line.number + shift }

namespace Statement

/-! ### One statement over another -/

/-- The second statement laid over the first, where so many lines stand in front of its own. -/
def merge (shift : Nat) (first second : Statement) : Statement where
  tableName := first.tableName <|> second.tableName
  columns := first.columns.merge second.columns
  primaryKey := first.primaryKey ++ second.primaryKey
  uniqueIndexes := first.uniqueIndexes.merge second.uniqueIndexes
  skipped := first.skipped ++ second.skipped.map (MalformedLine.moved shift)

theorem merge_none (shift : Nat) (statement : Statement) : statement.merge shift {} = statement := by
  apply eq_of_containers
  · cases found : statement.tableName <;> simp [merge, found]
  · exact ClauseTable.merge_empty statement.columns
  · exact List.append_nil statement.primaryKey
  · exact NameMap.merge_empty statement.uniqueIndexes
  · exact List.append_nil statement.skipped

/-- **What a line adds to the second statement, it adds to the merged one.** -/
theorem merge_addLine (shift : Nat) (first second : Statement) (line : Line) :
    first.merge shift (second.addLine line) =
      (first.merge shift second).addLine (line.moved shift) := by
  apply eq_of_containers
  · have said : (line.moved shift).headName? = line.headName? := rfl
    simp only [merge, tableName_addLine, said]
    cases first.tableName <;> simp
  · have said : (line.moved shift).column? = line.column? := rfl
    simp only [merge, columns_addLine, said]
    cases line.column? with
    | none => rfl
    | some column => exact ClauseTable.merge_declare first.columns _ column.name column.clause
  · have said : (line.moved shift).primaryKey? = line.primaryKey? := rfl
    simp only [merge, primaryKey_addLine, said, List.append_assoc]
  · have said : (line.moved shift).uniqueKey? = line.uniqueKey? := rfl
    simp only [merge, uniqueIndexes_addLine, said]
    cases line.uniqueKey? with
    | none => rfl
    | some key => exact NameMap.merge_put first.uniqueIndexes _ key.name key.columns
  · have said : (line.moved shift).isMalformed = line.isMalformed := rfl
    have kept : (line.moved shift).kept = line.kept.moved shift := rfl
    simp only [merge, skipped_addLine, said, kept, List.map_append, List.append_assoc]
    cases line.isMalformed <;> rfl

/-- **Lines further down are read on from a statement as they are read from none, and then merged.** -/
theorem foldl_addLine_moved (shift : Nat) (first : Statement) (lines : List Line) :
    (lines.map (Line.moved shift)).foldl addLine first =
      first.merge shift (lines.foldl addLine {}) := by
  induction lines using List.reverseRecOn with
  | nil => exact (merge_none shift first).symm
  | append_singleton lines line ih =>
    rw [List.map_append, List.foldl_append, List.foldl_append, ih]
    exact (merge_addLine shift first _ line).symm

/-! ### Cutting the text -/

/-- A line feed at the end of a text adds nothing. -/
theorem ofText_lineFeed (text : String) :
    (Line.numbered 1 (lines (text.toList ++ [lineFeed]))).foldl addLine {} = ofText text := by
  rcases lines_lineFeed text.toList with same | more
  · rw [same]
    rfl
  · rw [more, Line.numbered_append, List.foldl_append]
    have silent : Line.speaks ⟨1 + (lines text.toList).length, []⟩ = false := rfl
    exact addLine_of_silent _ silent

end Statement

/-- **Reading is compositional at line feeds.** A text, a line feed and another text read as the second
text's statement laid over the first's: the first table name counts; the columns of the second are
declared one by one in the table of the first; the key members follow those of the first; the indexes of
the second replace those of the first; and its skipped lines follow, numbered on from the line feeds of
the first text and the one between. -/
theorem ofText_append_lineFeed (first second : String) :
    Statement.ofText (first ++ "\n" ++ second) =
      (Statement.ofText first).merge (1 + first.toList.count lineFeed) (Statement.ofText second) := by
  have cut : lines (first ++ "\n" ++ second).toList =
      lines (first.toList ++ [lineFeed]) ++ lines second.toList := by
    rw [String.toList_append, String.toList_append, List.append_assoc]
    exact lines_append first.toList second.toList
  have before : (lines (first.toList ++ [lineFeed])).length = 1 + first.toList.count lineFeed := by
    rw [length_lines, Nat.add_comm]
  rw [Statement.ofText, Line.ofStatement, cut, Line.numbered_append, List.foldl_append,
    Statement.ofText_lineFeed, before, Line.numbered_add, Statement.foldl_addLine_moved]
  rfl

end SchemaDump
