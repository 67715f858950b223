/-
**How a server writes a table statement.**

A statement names the table on its first line, has one line for each column and key, and ends with a
line that starts with a parenthesis. The body lines stand in any order, with a comma behind each but the
last.

* `BodyLine`: what a body line says, plain indexes and constraints included, and `BodyLine.text` how it
  is written.
* `Layout`: what the statement leaves open, with its line ends, its indent and the text around the names.
* `Layout.write`: the statement, and **`lines_write`** its lines.
-/

import Mathlib.Data.Bool.AllAny
import SchemaDump.Proofs.Sql.Spelling
import SchemaDump.Proofs.Text.Lines
import SchemaDump.Statement

namespace SchemaDump

open SchemaDump.Text SchemaDump.Sql

/-! ### Body lines -/

/-- A name that can stand between backticks on one line. -/
def Quotable (name : String) : Prop := backtick ∉ name.toList ∧ lineFeed ∉ name.toList

/-- A text that does not end in a blank or a comma. -/
def EndsVisibly (text : List Char) : Prop := ∀ c ∈ text.getLast?, isBlank c = false ∧ c ≠ ','

instance (text : List Char) : Decidable (EndsVisibly text) :=
  decidable_of_iff (text.getLast?.all (fun c => !isBlank c && c != ',') = true) (by
    simp [EndsVisibly, Option.all_eq_true])

/-- A clause on one line, with nothing at its end that reading would drop. -/
def IsClause (clause : String) : Prop := lineFeed ∉ clause.toList ∧ EndsVisibly clause.toList

instance (name : String) : Decidable (Quotable name) := inferInstanceAs (Decidable (_ ∧ _))

instance (clause : String) : Decidable (IsClause clause) := inferInstanceAs (Decidable (_ ∧ _))

/-- The words that a plain line starts with. -/
inductive PlainOpening where
  | key
  | constraint
  | fulltextKey
  deriving DecidableEq, Repr

def PlainOpening.spelling : PlainOpening → String
  | .key => "KEY"
  | .constraint => "CONSTRAINT"
  | .fulltextKey => "FULLTEXT KEY"

/-- A line between the head of a statement and its end. -/
inductive BodyLine where
  | column (declared : DeclaredColumn)
  | primaryKey (members : List String)
  | uniqueKey (key : UniqueKey)
  | plain (words : PlainOpening) (more : List Char)
  deriving DecidableEq, Repr

/-- A name between backticks. -/
def quoteName (name : String) : List Char := backtick :: (name.toList ++ [backtick])

/-- Names between backticks, with commas between them. -/
def quoteNames (names : List String) : List Char := commaList (names.map quoteName)

namespace BodyLine

/-- What the line starts with, which decides its role. -/
def opening : BodyLine → List Char
  | .column _ => [backtick]
  | .primaryKey _ => "PRIMARY KEY".toList
  | .uniqueKey _ => "UNIQUE KEY".toList
  | .plain words _ => words.spelling.toList

/-- What follows the opening. -/
def rest : BodyLine → List Char
  | .column declared => declared.name.toList ++ backtick :: declared.clause.toList
  | .primaryKey members => " (".toList ++ quoteNames members ++ [')']
  | .uniqueKey key => ' ' :: quoteName key.name ++ " (".toList ++ quoteNames key.columns ++ [')']
  | .plain _ more => more

/-- The line without indent and comma. -/
def text (line : BodyLine) : List Char := line.opening ++ line.rest

/-- The line can be written so that it is one line and says what it should. -/
def WellFormed : BodyLine → Prop
  | .column declared => Quotable declared.name ∧ IsClause declared.clause
  | .primaryKey members => members ≠ [] ∧ ∀ name ∈ members, Quotable name
  | .uniqueKey key => Quotable key.name ∧ ∀ name ∈ key.columns, Quotable name
  | .plain _ more => lineFeed ∉ more

instance : (line : BodyLine) → Decidable line.WellFormed
  | .column declared => inferInstanceAs (Decidable (Quotable declared.name ∧ IsClause declared.clause))
  | .primaryKey members =>
    inferInstanceAs (Decidable (members ≠ [] ∧ ∀ name ∈ members, Quotable name))
  | .uniqueKey key =>
    inferInstanceAs (Decidable (Quotable key.name ∧ ∀ name ∈ key.columns, Quotable name))
  | .plain _ more => inferInstanceAs (Decidable (lineFeed ∉ more))

def column? : BodyLine → Option DeclaredColumn
  | .column declared => some declared
  | _ => none

def primaryKey? : BodyLine → Option (List String)
  | .primaryKey members => some members
  | _ => none

def uniqueKey? : BodyLine → Option UniqueKey
  | .uniqueKey key => some key
  | _ => none

/-- The comma behind a line that is not the last. -/
def comma : (last : Bool) → List Char
  | true => []
  | false => [',']

/-- The body lines with their commas. -/
def texts : List BodyLine → List (List Char)
  | [] => []
  | line :: rest => (line.text ++ comma rest.isEmpty) :: texts rest

end BodyLine

/-! ### The whole statement -/

inductive LineEnd where
  | lf
  | crlf
  deriving DecidableEq, Repr

/-- What stands at the end of a line in front of its line feed. -/
def LineEnd.margin : LineEnd → List Char
  | .lf => []
  | .crlf => ['\r']

/-- What a statement leaves open. -/
structure Layout where
  lineEnd : LineEnd
  indent : List Char
  /-- The text between `CREATE TABLE` and the name of the table. -/
  beforeName : List Char
  afterName : List Char
  /-- The text behind the last parenthesis. -/
  closing : List Char
  /-- Does the last line have a line end? -/
  ended : Bool
  blank_indent : ∀ c ∈ indent, isBlank c = true ∧ c ≠ lineFeed
  free_beforeName : backtick ∉ beforeName ∧ lineFeed ∉ beforeName
  free_afterName : lineFeed ∉ afterName
  free_closing : lineFeed ∉ closing

namespace Layout

/-- The layout of a server's own dumps. -/
def ofDump (lineEnd : LineEnd) : Layout where
  lineEnd := lineEnd
  indent := "  ".toList
  beforeName := " ".toList
  afterName := " (".toList
  closing := " ENGINE=InnoDB".toList
  ended := true
  blank_indent := List.all_iff_forall_prop.mp (by decide)
  free_beforeName := by decide
  free_afterName := by decide
  free_closing := by decide

/-- The first line. -/
def head (layout : Layout) (name : String) : List Char :=
  createTable ++ (layout.beforeName ++ (quoteName name ++ layout.afterName))

/-- The lines in front of the last. -/
def openLines (layout : Layout) (name : String) (body : List BodyLine) : List (List Char) :=
  layout.head name :: (BodyLine.texts body).map (layout.indent ++ ·)

/-- A line with its end. -/
def endLine (layout : Layout) (line : List Char) : List Char :=
  line ++ layout.lineEnd.margin ++ [lineFeed]

/-- The last line. -/
def lastLine (layout : Layout) : List Char := ')' :: layout.closing

/-- The statement that declares a table of the given name by the body lines. -/
def write (layout : Layout) (name : String) (body : List BodyLine) : String :=
  String.ofList ((layout.openLines name body).flatMap layout.endLine ++
    if layout.ended then layout.endLine layout.lastLine else layout.lastLine)

example : (ofDump .lf).write "t" [.column ⟨"a", " int"⟩, .primaryKey ["a", "b"]] =
    "CREATE TABLE `t` (\n  `a` int,\n  PRIMARY KEY (`a`,`b`)\n) ENGINE=InnoDB\n" := by
  rfl

end Layout

/-! ### Its lines -/

theorem free_quoteName {name : String} (quotable : Quotable name) : lineFeed ∉ quoteName name := by
  simp [quoteName, quotable.2, show lineFeed ≠ backtick by decide]

theorem free_quoteNames {names : List String} (quotable : ∀ name ∈ names, Quotable name) :
    lineFeed ∉ quoteNames names := by
  refine not_mem_commaList (by decide) ?_
  rw [List.forall_mem_map]
  exact fun name listed => free_quoteName (quotable name listed)

/-- All that a body line can start with. -/
def BodyLine.openings : List (List Char) :=
  [[backtick], "PRIMARY KEY".toList, "UNIQUE KEY".toList, "KEY".toList, "CONSTRAINT".toList,
    "FULLTEXT KEY".toList]

theorem BodyLine.mem_openings : ∀ line : BodyLine, line.opening ∈ openings
  | .column _ => .head _
  | .primaryKey _ => .tail _ (.head _)
  | .uniqueKey _ => .tail _ (.tail _ (.head _))
  | .plain .key _ => .tail _ (.tail _ (.tail _ (.head _)))
  | .plain .constraint _ => .tail _ (.tail _ (.tail _ (.tail _ (.head _))))
  | .plain .fulltextKey _ => .tail _ (.tail _ (.tail _ (.tail _ (.tail _ (.head _)))))

theorem BodyLine.free_text {line : BodyLine} (wellFormed : line.WellFormed) :
    lineFeed ∉ line.text := by
  have opening : lineFeed ∉ line.opening := by
    have each : ∀ words ∈ BodyLine.openings, lineFeed ∉ words := by decide
    exact each _ line.mem_openings
  have rest : lineFeed ∉ line.rest := by
    have marks : lineFeed ≠ ' ' ∧ lineFeed ≠ '(' ∧ lineFeed ≠ ')' ∧ lineFeed ≠ backtick := by decide
    cases line with
    | column declared => simp [BodyLine.rest, wellFormed.1.2, wellFormed.2.1, marks]
    | primaryKey members => simp [BodyLine.rest, free_quoteNames wellFormed.2, marks]
    | uniqueKey key =>
      simp [BodyLine.rest, free_quoteName wellFormed.1, free_quoteNames wellFormed.2, marks]
    | plain words more => exact wellFormed
  simp [BodyLine.text, opening, rest]

theorem BodyLine.free_texts {body : List BodyLine} (wellFormed : ∀ line ∈ body, line.WellFormed) :
    ∀ text ∈ BodyLine.texts body, lineFeed ∉ text := by
  induction body with
  | nil => intro text found; exact absurd found List.not_mem_nil
  | cons line rest ih =>
    rw [BodyLine.texts, List.forall_mem_cons]
    have comma : lineFeed ∉ BodyLine.comma rest.isEmpty := by cases rest.isEmpty <;> decide
    refine ⟨?_, ih fun other found => wellFormed other (List.mem_cons_of_mem line found)⟩
    simp [BodyLine.free_text (wellFormed line List.mem_cons_self), comma]

namespace Layout

variable (layout : Layout) {name : String} {body : List BodyLine}

theorem free_openLines (quotable : Quotable name) (wellFormed : ∀ line ∈ body, line.WellFormed) :
    ∀ line ∈ layout.openLines name body, lineFeed ∉ line := by
  have indent : lineFeed ∉ layout.indent := fun found => (layout.blank_indent _ found).2 rfl
  rw [openLines, List.forall_mem_cons, List.forall_mem_map]
  refine ⟨?_, fun text found => ?_⟩
  · simp [head, free_quoteName quotable, layout.free_beforeName.2, layout.free_afterName,
      show lineFeed ∉ createTable by decide]
  · simp [indent, BodyLine.free_texts wellFormed text found]

/-- The lines of a written statement, numbered and trimmed later. -/
def rawLines (name : String) (body : List BodyLine) : List (List Char) :=
  (layout.openLines name body).map (· ++ layout.lineEnd.margin) ++
    [layout.lastLine ++ if layout.ended then layout.lineEnd.margin else []]

/-- **The lines of a written statement.** -/
theorem lines_write (quotable : Quotable name) (wellFormed : ∀ line ∈ body, line.WellFormed) :
    lines (layout.write name body).toList = layout.rawLines name body := by
  have margin : lineFeed ∉ layout.lineEnd.margin := by cases layout.lineEnd <;> decide
  have endLine {line : List Char} (free : lineFeed ∉ line) (rest : List Char) :
      lines (layout.endLine line ++ rest) = (line ++ layout.lineEnd.margin) :: lines rest := by
    rw [Layout.endLine, List.append_assoc, List.singleton_append, lines_append_lineFeed]
    simp [free, margin]
  have last : lineFeed ∉ layout.lastLine := by
    simp [lastLine, layout.free_closing, show lineFeed ≠ ')' by decide]
  have ended : lines (if layout.ended then layout.endLine layout.lastLine else layout.lastLine) =
      [layout.lastLine ++ if layout.ended then layout.lineEnd.margin else []] := by
    cases layout.ended with
    | false =>
      show lines layout.lastLine = [layout.lastLine ++ []]
      rw [List.append_nil]
      exact lines_of_free last (List.cons_ne_nil _ _)
    | true =>
      have whole := endLine last []
      rw [List.append_nil, lines] at whole
      exact whole
  rw [write, String.toList_ofList, rawLines]
  have free := layout.free_openLines quotable wellFormed
  generalize layout.openLines name body = opened at free
  induction opened with
  | nil => exact ended
  | cons line rest ih =>
    rw [List.flatMap_cons, List.append_assoc, endLine (free line List.mem_cons_self),
      ih fun other found => free other (List.mem_cons_of_mem line found)]
    rfl

end Layout

end SchemaDump
