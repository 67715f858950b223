/-
**Lines of a table statement.**

A server prints a table statement with one column or key per line. A line counts without the blanks at
its ends, is numbered from 1, and has a role that its first characters decide (`LineRole.of`); letter
case matters.
-/

import SchemaDump.Text.Blank

namespace SchemaDump

open SchemaDump.Text

/-- What a line of a table statement is for. -/
inductive LineRole where
  /-- Nothing, the head of the statement, or a line that starts with a parenthesis. -/
  | ignorable
  | column
  | primaryKey
  | uniqueKey
  /-- Anything else, such as a plain index. -/
  | other
  deriving DecidableEq, Repr

/-- The words at the head of a table statement. -/
def createTable : List Char := "CREATE TABLE".toList

/-- The role of a line with the given text. -/
def LineRole.of (text : List Char) : LineRole :=
  if text.isEmpty || createTable.isPrefixOf text || "(".toList.isPrefixOf text ||
      ")".toList.isPrefixOf text then .ignorable
  else if [backtick].isPrefixOf text then .column
  else if "PRIMARY KEY".toList.isPrefixOf text then .primaryKey
  else if "UNIQUE KEY".toList.isPrefixOf text then .uniqueKey
  else .other

/-- A line of a table statement: its number, and its text without the blanks at the ends. -/
structure Line where
  number : Nat
  text : List Char
  deriving DecidableEq, Repr

/-- The role of a line. -/
def Line.role (line : Line) : LineRole := .of line.text

/-- The lines of a text whose first line has the given number. -/
def Line.numbered (start : Nat) (texts : List (List Char)) : List Line :=
  (texts.zipIdx start).map fun (text, number) => ⟨number, trim text⟩

/-- The lines of a statement. -/
def Line.ofStatement (statement : String) : List Line :=
  Line.numbered 1 (lines statement.toList)

end SchemaDump
