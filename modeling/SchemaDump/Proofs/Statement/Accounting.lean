/-
**Every line of a statement is accounted for.**

Reading a statement is one pass over its lines, and each container of the result follows a rule of its
own: the first head line counts, the last clause counts in the place of the first, key members are
appended, the last index of a name counts, malformed key lines are kept.

* `Line.headName?`, `Line.column?`, `Line.primaryKey?`, `Line.uniqueKey?`, `Line.isMalformed`: what a
  single line says by itself, names and clauses by their places in the line. The pass reads the first two
  as cuts of the line, and `Line.headName?_eq` and `Line.column?_eq` say that this is the same.
* `Statement.collect`: the containers, each made from what all lines say.
* **`foldl_addLine`**: the pass gives exactly that. One line changes each container by its rule
  (`collect_concat`), and the rest is induction on the lines.
* **`ofText_accountsFor`**: so every line of a text is accounted for, and no other line counts.
-/

import SchemaDump.Proofs.NameMap
import SchemaDump.Proofs.Statement.ClauseTable
import SchemaDump.Proofs.Statement.Delimiter
import SchemaDump.Statement

namespace SchemaDump

open SchemaDump.Text

/-! ### What one line says -/

namespace Line

/-- The first quoted name of a line that starts as the head of a statement does. -/
def headName? (line : Line) : Option String :=
  if "CREATE TABLE".toList <+: line.text then (quotedNameAt (String.ofList line.text) 0).map Prod.fst
  else none

/-- The column that the line declares, if it is a column line with a complete quoted name: the name, and
all that stands behind it, less one comma at the end. -/
def column? (line : Line) : Option DeclaredColumn :=
  if line.role = .column then do
    let (name, behind) ← quotedNameAt (String.ofList line.text) 0
    let rest ← dropBytes? behind line.text
    pure ⟨name, String.ofList (dropFinalComma rest)⟩
  else none

/-- The columns that the line puts into the primary key, if it is a well-formed primary key line. -/
def primaryKey? (line : Line) : Option (List String) :=
  if line.role = .primaryKey then primaryKeyColumns? line.text else none

/-- The index that the line declares, if it is a well-formed unique key line. -/
def uniqueKey? (line : Line) : Option UniqueKey :=
  if line.role = .uniqueKey then UniqueKey.ofLine? line.text else none

/-- Is the line a key line that cannot be read? -/
def isMalformed (line : Line) : Bool :=
  (line.role = .primaryKey && (primaryKeyColumns? line.text).isNone) ||
    (line.role = .uniqueKey && (UniqueKey.ofLine? line.text).isNone)

/-- The line as it is kept when it cannot be read. -/
def kept (line : Line) : MalformedLine := ⟨line.number, String.ofList line.text⟩

/-- Does the line say anything at all? -/
def speaks (line : Line) : Bool :=
  line.headName?.isSome || line.column?.isSome || line.primaryKey?.isSome ||
    line.uniqueKey?.isSome || line.isMalformed

variable (line : Line)

theorem headName?_eq : line.headName? = Statement.headName? line.text := by
  have left : dropBytes? 0 (String.ofList line.text).toList = some line.text := by
    rw [String.toList_ofList, dropBytes?]
  rw [headName?, Statement.headName?, quotedNameAt_eq left, Option.map_map]
  simp only [List.isPrefixOf_iff_prefix]
  rfl

theorem column?_eq :
    line.column? = if line.role = .column then DeclaredColumn.ofLine? line.text else none := by
  have slice := ofLine?_eq_slice (String.ofList line.text)
  rw [String.toList_ofList] at slice
  rw [column?, slice]
  rfl

/-- Only head lines are ignorable and yet give a name. -/
theorem headName?_eq_none {line : Line} (role : line.role ≠ .ignorable) : line.headName? = none := by
  rw [headName?, if_neg]
  intro head
  have front : createTable.isPrefixOf line.text = true := List.isPrefixOf_iff_prefix.mpr head
  exact role (by simp [Line.role, LineRole.of, front])

end Line

namespace Statement

/-! ### What one line changes -/

theorem tableName_addLine (statement : Statement) (line : Line) :
    (statement.addLine line).tableName = (statement.tableName <|> line.headName?) := by
  by_cases role : line.role = .ignorable
  · simp [addLine, role, Line.headName?_eq]
  · rw [Line.headName?_eq_none role]
    unfold addLine
    cases found : line.role with
    | ignorable => exact absurd found role
    | column => cases DeclaredColumn.ofLine? line.text <;> simp
    | primaryKey => cases primaryKeyColumns? line.text <;> simp [skip]
    | uniqueKey => cases UniqueKey.ofLine? line.text <;> simp [skip]
    | other => simp

theorem columns_addLine (statement : Statement) (line : Line) :
    (statement.addLine line).columns =
      match line.column? with
      | some column => statement.columns.declare column.name column.clause
      | none => statement.columns := by
  rw [Line.column?_eq]
  unfold addLine
  cases line.role with
  | ignorable => rfl
  | column => cases DeclaredColumn.ofLine? line.text <;> rfl
  | primaryKey => cases primaryKeyColumns? line.text <;> rfl
  | uniqueKey => cases UniqueKey.ofLine? line.text <;> rfl
  | other => rfl

theorem primaryKey_addLine (statement : Statement) (line : Line) :
    (statement.addLine line).primaryKey = statement.primaryKey ++ line.primaryKey?.getD [] := by
  unfold addLine Line.primaryKey?
  cases line.role with
  | ignorable => exact (List.append_nil _).symm
  | column => cases DeclaredColumn.ofLine? line.text <;> exact (List.append_nil _).symm
  | primaryKey =>
    cases primaryKeyColumns? line.text with
    | none => exact (List.append_nil _).symm
    | some columns => rfl
  | uniqueKey => cases UniqueKey.ofLine? line.text <;> exact (List.append_nil _).symm
  | other => exact (List.append_nil _).symm

theorem uniqueIndexes_addLine (statement : Statement) (line : Line) :
    (statement.addLine line).uniqueIndexes =
      match line.uniqueKey? with
      | some key => statement.uniqueIndexes.put key.name key.columns
      | none => statement.uniqueIndexes := by
  unfold addLine Line.uniqueKey?
  cases line.role with
  | ignorable => rfl
  | column => cases DeclaredColumn.ofLine? line.text <;> rfl
  | primaryKey => cases primaryKeyColumns? line.text <;> rfl
  | uniqueKey => cases UniqueKey.ofLine? line.text <;> rfl
  | other => rfl

theorem skipped_addLine (statement : Statement) (line : Line) :
    (statement.addLine line).skipped =
      statement.skipped ++ if line.isMalformed then [line.kept] else [] := by
  unfold addLine Line.isMalformed
  cases line.role with
  | ignorable => exact (List.append_nil _).symm
  | column => cases DeclaredColumn.ofLine? line.text <;> exact (List.append_nil _).symm
  | primaryKey =>
    cases primaryKeyColumns? line.text with
    | none => rfl
    | some columns => exact (List.append_nil _).symm
  | uniqueKey =>
    cases UniqueKey.ofLine? line.text with
    | none => rfl
    | some key => exact (List.append_nil _).symm
  | other => exact (List.append_nil _).symm

theorem eq_of_containers {first second : Statement} (tableName : first.tableName = second.tableName)
    (columns : first.columns = second.columns) (primaryKey : first.primaryKey = second.primaryKey)
    (uniqueIndexes : first.uniqueIndexes = second.uniqueIndexes)
    (skipped : first.skipped = second.skipped) : first = second := by
  cases first
  cases second
  simp only at tableName columns primaryKey uniqueIndexes skipped
  rw [tableName, columns, primaryKey, uniqueIndexes, skipped]

/-- A line that says nothing changes nothing. -/
theorem addLine_of_silent (statement : Statement) {line : Line} (silent : line.speaks = false) :
    statement.addLine line = statement := by
  simp only [Line.speaks, Bool.or_eq_false_iff, Option.isSome_eq_false_iff, Option.isNone_iff_eq_none]
    at silent
  obtain ⟨⟨⟨⟨head, column⟩, primaryKey⟩, uniqueKey⟩, malformed⟩ := silent
  apply eq_of_containers
  · simp [tableName_addLine, head]
  · rw [columns_addLine, column]
  · rw [primaryKey_addLine, primaryKey, Option.getD_none, List.append_nil]
  · rw [uniqueIndexes_addLine, uniqueKey]
  · rw [skipped_addLine, malformed, if_neg Bool.false_ne_true, List.append_nil]

theorem foldl_addLine_filter_speaks (lines : List Line) (statement : Statement) :
    (lines.filter Line.speaks).foldl addLine statement = lines.foldl addLine statement := by
  induction lines generalizing statement with
  | nil => rfl
  | cons line rest ih =>
    cases speaks : line.speaks with
    | false => rw [List.filter_cons_of_neg (by simp [speaks]), ih, List.foldl_cons,
        addLine_of_silent statement speaks]
    | true => rw [List.filter_cons_of_pos speaks, List.foldl_cons, ih, List.foldl_cons]

/-! ### What all lines say together -/

/-- The statement that the lines make, container by container. -/
def collect (lines : List Line) : Statement where
  tableName := lines.findSome? Line.headName?
  columns := .ofList (lines.filterMap Line.column?)
  primaryKey := (lines.filterMap Line.primaryKey?).flatten
  uniqueIndexes := .ofList ((lines.filterMap Line.uniqueKey?).map fun key => (key.name, key.columns))
  skipped := (lines.filter Line.isMalformed).map Line.kept

/-- **One more line changes each container by its rule.** -/
theorem collect_concat (lines : List Line) (line : Line) :
    collect (lines ++ [line]) = (collect lines).addLine line := by
  apply eq_of_containers
  · rw [tableName_addLine]
    cases found : line.headName? <;> simp [collect, List.findSome?_append, found]
  · rw [columns_addLine]
    cases found : line.column? with
    | none => simp [collect, found]
    | some column => simp [collect, found, ClauseTable.ofList_concat]
  · rw [primaryKey_addLine]
    cases found : line.primaryKey? <;> simp [collect, found]
  · rw [uniqueIndexes_addLine]
    cases found : line.uniqueKey? with
    | none => simp [collect, found]
    | some key => simp [collect, found, NameMap.ofList_concat]
  · rw [skipped_addLine]
    cases found : line.isMalformed <;> simp [collect, found]

/-- **The pass over the lines makes what the lines say together.** -/
theorem foldl_addLine (lines : List Line) : lines.foldl addLine {} = collect lines := by
  induction lines using List.reverseRecOn with
  | nil => rfl
  | append_singleton lines line ih =>
    rw [List.foldl_append, ih, collect_concat]
    rfl

theorem ofText_eq_collect (text : String) : ofText text = collect (Line.ofStatement text) :=
  foldl_addLine _

/-! ### The account -/

/-- **What a statement holds, said of its lines.** -/
structure AccountsFor (statement : Statement) (lines : List Line) : Prop where
  /-- The first head line with a quoted name names the table. -/
  tableName : statement.tableName = lines.findSome? Line.headName?
  /-- The names of the column lines, each once, where it stands first. -/
  columnNames : statement.columns.names =
    ((lines.filterMap Line.column?).map DeclaredColumn.name).eraseDups
  /-- The clause of a name is that of the last column line with this name. -/
  clauses (name : String) : statement.columns.clause? name =
    (((lines.filterMap Line.column?).filter fun column => column.name == name).getLast?).map
      DeclaredColumn.clause
  /-- The members of all well-formed primary key lines, one line after the other. -/
  primaryKey : statement.primaryKey = (lines.filterMap Line.primaryKey?).flatten
  /-- The members of an index are those of the last well-formed unique key line with its name. -/
  uniqueIndexes (name : String) : statement.uniqueIndexes.get? name =
    (((lines.filterMap Line.uniqueKey?).filter fun key => key.name == name).getLast?).map
      UniqueKey.columns
  /-- The malformed key lines, with their numbers. -/
  skipped : statement.skipped = (lines.filter Line.isMalformed).map Line.kept

theorem accountsFor_collect (lines : List Line) : (collect lines).AccountsFor lines where
  tableName := rfl
  columnNames := ClauseTable.names_ofList _
  clauses := ClauseTable.clause?_ofList _
  primaryKey := rfl
  uniqueIndexes name := by
    rw [collect, NameMap.get?_ofList, List.filter_map, List.getLast?_map, Option.map_map]
    rfl
  skipped := rfl

end Statement

theorem Line.numbered_append (start : Nat) (first second : List (List Char)) :
    numbered start (first ++ second) =
      numbered start first ++ numbered (start + first.length) second := by
  rw [numbered, List.zipIdx_append, List.map_append]
  rfl

/-- The lines of a text are its raw lines, trimmed and numbered from 1. -/
theorem Line.getElem?_ofStatement (text : String) (place : Nat) :
    (Line.ofStatement text)[place]? =
      (lines text.toList)[place]?.map fun raw => ⟨place + 1, trim raw⟩ := by
  rw [Line.ofStatement, Line.numbered, List.getElem?_map, List.getElem?_zipIdx, Option.map_map,
    Nat.add_comm]
  rfl

/-- The numbers of the lines increase. -/
theorem Line.pairwise_number_ofStatement (text : String) :
    (Line.ofStatement text).Pairwise fun first second => first.number < second.number := by
  have numbers : (Line.ofStatement text).map Line.number =
      List.range' 1 (lines text.toList).length := by
    rw [Line.ofStatement, Line.numbered, List.map_map, ← List.zipIdx_map_snd]
    rfl
  rw [← List.pairwise_map (f := Line.number) (R := (· < ·)), numbers]
  exact List.pairwise_lt_range'

/-- **A statement accounts for every line of its text.** Its lines are the trimmed lines, numbered from
1; what each container holds is read off the lines as `AccountsFor` says; the skipped lines are listed
by increasing number; and the lines that say nothing might as well not be there. -/
theorem ofText_accountsFor (text : String) :
    (∀ place : Nat, (Line.ofStatement text)[place]? =
      (lines text.toList)[place]?.map fun raw => (⟨place + 1, trim raw⟩ : Line)) ∧
    (Statement.ofText text).AccountsFor (Line.ofStatement text) ∧
    ((Statement.ofText text).skipped.Pairwise fun first second => first.number < second.number) ∧
    Statement.ofText text = ((Line.ofStatement text).filter Line.speaks).foldl Statement.addLine {} := by
  refine ⟨Line.getElem?_ofStatement text, ?_, ?_, ?_⟩
  · rw [Statement.ofText_eq_collect]
    exact Statement.accountsFor_collect _
  · rw [Statement.ofText_eq_collect]
    exact List.pairwise_map.mpr ((Line.pairwise_number_ofStatement text).filter _)
  · rw [Statement.foldl_addLine_filter_speaks]
    rfl

end SchemaDump
