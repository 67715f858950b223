/-
**A written statement is read back.**

* `Layout.forall₂_readAs`: the body lines are read as what they say, whatever their indent and line ends;
  `Layout.headName?_head` and `Layout.role_lastLine` for the lines around them.
* `Statement.ofBody`: what body lines say together, and `Statement.ofText_write_eq`: a written statement
  says that.
* **`ofText_write`**: the statement declares what it was written from, whatever its layout and the order of
  its lines.
-/

import SchemaDump.Proofs.Statement.BodyLine

namespace SchemaDump

open SchemaDump.Text SchemaDump.Sql

/-! ### All lines -/

namespace Line

theorem numbered_cons (start : Nat) (text : List Char) (texts : List (List Char)) :
    numbered start (text :: texts) = ⟨start, trim text⟩ :: numbered (start + 1) texts := rfl

/-- A line that counts for nothing but the name of the table. -/
theorem says_nothing {line : Line} (role : line.role = .ignorable) :
    line.column? = none ∧ line.primaryKey? = none ∧ line.uniqueKey? = none ∧
      line.isMalformed = false := by
  simp [column?, primaryKey?, uniqueKey?, isMalformed, role]

end Line

theorem LineEnd.blank_margin (lineEnd : LineEnd) : ∀ c ∈ lineEnd.margin, isBlank c = true := by
  cases lineEnd <;> exact List.all_iff_forall_prop.mp (by decide)

namespace Layout

variable (layout : Layout)

/-- The body lines, read under any numbers. -/
theorem forall₂_readAs {body : List BodyLine} (wellFormed : ∀ line ∈ body, line.WellFormed)
    (start : Nat) : List.Forall₂ BodyLine.ReadAs body (Line.numbered start
      ((BodyLine.texts body).map fun text => layout.indent ++ text ++ layout.lineEnd.margin)) := by
  induction body generalizing start with
  | nil => exact .nil
  | cons line rest ih =>
    rw [BodyLine.texts, List.map_cons, Line.numbered_cons, List.append_assoc layout.indent,
      BodyLine.trim_line (fun c found => (layout.blank_indent c found).1) layout.lineEnd.blank_margin]
    rw [List.forall_mem_cons] at wellFormed
    exact .cons (BodyLine.readAs_line wellFormed.1 _ start) (ih wellFormed.2 (start + 1))

/-- The first line names the table. -/
theorem headName?_head {name : String} (quotable : Quotable name) (number : Nat) :
    Line.headName? ⟨number, trim (layout.head name ++ layout.lineEnd.margin)⟩ = some name ∧
      Line.role ⟨number, trim (layout.head name ++ layout.lineEnd.margin)⟩ = .ignorable := by
  have free : backtick ∉ createTable ++ layout.beforeName := by
    simp [layout.free_beforeName.1, show backtick ∉ createTable by decide]
  have starts : layout.head name = 'C' :: ("REATE TABLE".toList ++
    (layout.beforeName ++ (quoteName name ++ layout.afterName))) := rfl
  have named : layout.head name = (createTable ++ layout.beforeName ++ backtick :: name.toList) ++
      backtick :: layout.afterName := by
    simp [head, quoteName]
  have trimmed : trim (layout.head name ++ layout.lineEnd.margin) =
      (createTable ++ layout.beforeName) ++ backtick :: (name.toList ++
        backtick :: trimEnd layout.afterName) := by
    rw [starts, trim_visible (by decide) _ layout.lineEnd.blank_margin, ← starts, named,
      trimEnd_append_cons _ (by decide), List.append_assoc, List.cons_append]
  have front : createTable.isPrefixOf (createTable ++ layout.beforeName ++ backtick :: (name.toList ++
      backtick :: trimEnd layout.afterName)) = true := by
    rw [List.isPrefixOf_iff_prefix, List.append_assoc]
    exact List.prefix_append _ _
  constructor
  · rw [Line.headName?_eq, Statement.headName?, trimmed, if_pos front, cutQuotedName?_append free quotable.1,
      Option.map_some, String.ofList_toList]
  · rw [Line.role, trimmed, LineRole.of, front, Bool.or_true, Bool.true_or, Bool.true_or, if_pos rfl]

theorem role_lastLine (number : Nat) {margin : List Char} (blank : ∀ c ∈ margin, isBlank c = true) :
    Line.role ⟨number, trim (layout.lastLine ++ margin)⟩ = .ignorable := by
  have trimmed : trim (layout.lastLine ++ margin) = [] ++ ')' :: trimEnd layout.closing := by
    rw [lastLine, trim_visible (by decide) _ blank]
    exact trimEnd_append_cons [] (by decide) layout.closing
  rw [trimmed]
  rfl

end Layout

/-! ### The whole statement -/

theorem filterMap_of_forall₂ {α : Type} {body : List BodyLine} {lines : List Line}
    {said : Line → Option α} {meant : BodyLine → Option α}
    (agree : ∀ line read, BodyLine.ReadAs line read → said read = meant line)
    (reads : List.Forall₂ BodyLine.ReadAs body lines) : lines.filterMap said = body.filterMap meant := by
  induction reads with
  | nil => rfl
  | cons first _ ih => rw [List.filterMap_cons, List.filterMap_cons, agree _ _ first, ih]

/-- What the lines of a body say together, about a table of the given name. -/
def Statement.ofBody (name : String) (body : List BodyLine) : Statement where
  tableName := some name
  columns := .ofList (body.filterMap BodyLine.column?)
  primaryKey := (body.filterMap BodyLine.primaryKey?).flatten
  uniqueIndexes := .ofList ((body.filterMap BodyLine.uniqueKey?).map fun key => (key.name, key.columns))

/-- A head line, lines read as body lines, and a last line make what the body says. -/
theorem Statement.collect_body {head last : Line} {lines : List Line} {body : List BodyLine}
    {name : String} (named : head.headName? = some name) (atHead : head.role = .ignorable)
    (atLast : last.role = .ignorable) (reads : List.Forall₂ BodyLine.ReadAs body lines) :
    collect (head :: lines ++ [last]) = ofBody name body := by
  obtain ⟨column, primaryKey, uniqueKey, sound⟩ := Line.says_nothing atHead
  obtain ⟨lastColumn, lastPrimaryKey, lastUniqueKey, lastSound⟩ := Line.says_nothing atLast
  have noneMalformed : lines.filter Line.isMalformed = [] := by
    induction reads with
    | nil => rfl
    | cons first _ ih => rw [List.filter_cons_of_neg (by simp [first.sound]), ih]
  apply eq_of_containers
  · simp [collect, ofBody, named]
  · simp [collect, ofBody, column, lastColumn,
      filterMap_of_forall₂ (fun _ _ read => read.column) reads]
  · simp [collect, ofBody, primaryKey, lastPrimaryKey,
      filterMap_of_forall₂ (fun _ _ read => read.primaryKey) reads]
  · simp [collect, ofBody, uniqueKey, lastUniqueKey,
      filterMap_of_forall₂ (fun _ _ read => read.uniqueKey) reads]
  · simp [collect, ofBody, sound, lastSound, noneMalformed]

theorem Statement.ofText_write_eq (layout : Layout) {name : String} {body : List BodyLine}
    (quotable : Quotable name) (wellFormed : ∀ line ∈ body, line.WellFormed) :
    ofText (layout.write name body) = ofBody name body := by
  have blank : ∀ c ∈ if layout.ended then layout.lineEnd.margin else [], isBlank c = true := by
    cases layout.ended with
    | true => exact layout.lineEnd.blank_margin
    | false => exact fun c found => absurd found List.not_mem_nil
  obtain ⟨named, atHead⟩ := layout.headName?_head quotable 1
  rw [ofText_eq_collect, Line.ofStatement, layout.lines_write quotable wellFormed, Layout.rawLines,
    Layout.openLines, List.map_cons, List.cons_append, Line.numbered_cons, Line.numbered_append,
    List.map_map]
  exact collect_body named atHead (layout.role_lastLine _ blank)
    (layout.forall₂_readAs wellFormed 2)

/-! ### The round trip -/

/-- The body lines declare these columns, this key and these indexes, each in order; between them any
plain lines may stand. There is a primary key line exactly if the key has members. -/
structure BodyLine.Declare (body : List BodyLine) (columns : List DeclaredColumn) (key : List String)
    (indexes : List UniqueKey) : Prop where
  columns : body.filterMap column? = columns
  primaryKey : body.filterMap primaryKey? = if key = [] then [] else [key]
  uniqueKeys : body.filterMap uniqueKey? = indexes

/-- **A written statement declares exactly what it was written from.** -/
theorem ofText_write (layout : Layout) {name : String} {columns : List DeclaredColumn}
    {key : List String} {indexes : List UniqueKey} {body : List BodyLine}
    (declare : BodyLine.Declare body columns key indexes)
    (quotable : Quotable name) (wellFormed : ∀ line ∈ body, line.WellFormed)
    (distinctColumns : (columns.map DeclaredColumn.name).Nodup)
    (distinctIndexes : (indexes.map UniqueKey.name).Nodup) :
    (Statement.ofText (layout.write name body)).tableName = some name ∧
    (Statement.ofText (layout.write name body)).columns.entries = columns ∧
    (Statement.ofText (layout.write name body)).primaryKey = key ∧
    (∀ index members, (Statement.ofText (layout.write name body)).uniqueIndexes.get? index =
      some members ↔ ⟨index, members⟩ ∈ indexes) ∧
    (Statement.ofText (layout.write name body)).skipped = [] := by
  rw [Statement.ofText_write_eq layout quotable wellFormed, Statement.ofBody, declare.columns,
    declare.primaryKey, declare.uniqueKeys]
  refine ⟨rfl, ClauseTable.entries_ofList distinctColumns, ?_, fun index members => ?_, rfl⟩
  · by_cases none : key = []
    · rw [if_pos none, none]
      rfl
    · rw [if_neg none]
      exact List.append_nil key
  · have distinct : ((indexes.map fun key => (key.name, key.columns)).map Prod.fst).Nodup := by
      rw [List.map_map]
      exact distinctIndexes
    rw [NameMap.get?_ofList_eq_some_iff distinct]
    constructor
    · intro found
      obtain ⟨⟨_, _⟩, listed, same⟩ := List.mem_map.mp found
      obtain ⟨rfl, rfl⟩ := Prod.mk.inj same
      exact listed
    · exact fun listed => List.mem_map.mpr ⟨_, listed, rfl⟩

/-- A body with a name that looks like something else, and a plain line in the middle. -/
def orderLines : List BodyLine :=
  [.column ⟨"id", " int NOT NULL"⟩, .column ⟨"from, (to)", " text"⟩, .primaryKey ["id"],
    .plain .key " `k` (`id`)".toList, .uniqueKey ⟨"u", ["from, (to)", "id"]⟩]

theorem ofText_write_orderLines :
    (Statement.ofText ((Layout.ofDump .crlf).write "orders" orderLines)).columns.entries =
        [⟨"id", " int NOT NULL"⟩, ⟨"from, (to)", " text"⟩] ∧
      (Statement.ofText ((Layout.ofDump .crlf).write "orders" orderLines)).primaryKey = ["id"] := by
  have declare : BodyLine.Declare orderLines [⟨"id", " int NOT NULL"⟩, ⟨"from, (to)", " text"⟩] ["id"]
      [⟨"u", ["from, (to)", "id"]⟩] := ⟨rfl, rfl, rfl⟩
  have quotable : Quotable "orders" := by decide
  have read := ofText_write (Layout.ofDump .crlf) declare quotable (by decide) (by decide) (by decide)
  exact ⟨read.2.1, read.2.2.1⟩

end SchemaDump
