/-
**Marks and comment of a column clause, read from its text.**

These are read from the characters of the clause and not from its tokens, so they are found in literals
as well:

* `AUTO_INCREMENT`, in capitals, anywhere;
* `unsigned` or `UNSIGNED` as a whole piece between blanks and commas;
* the comment: the text between the apostrophes behind the first `COMMENT` mark whose text is closed on
  its line.
-/

import SchemaDump.Text.Blank

namespace SchemaDump

open SchemaDump.Text

/-- Does the clause mark the column as counting up by itself? -/
def isAutoIncrement (clause : List Char) : Bool := occursIn "AUTO_INCREMENT".toList clause

/-- Does the clause mark the column as unsigned? -/
def isUnsigned (clause : List Char) : Bool :=
  (clause.splitOnP fun c => isBlank c || c == ',').any fun piece =>
    piece == "unsigned".toList || piece == "UNSIGNED".toList

/-- The mark in front of a comment, with its opening apostrophe. -/
def commentMark : List Char := "COMMENT '".toList

/-- The text in front of the first apostrophe, if no line feed comes first. -/
def closedText? : List Char → Option (List Char)
  | [] => none
  | c :: rest =>
    if c = apostrophe then some []
    else if c = lineFeed then none
    else (closedText? rest).map (c :: ·)

/-- The comment of a clause. -/
def comment? : List Char → Option (List Char)
  | [] => none
  | c :: rest =>
    match (commentMark.isPrefixOf? (c :: rest)).bind closedText? with
    | some comment => some comment
    | none => comment? rest

/-- What a clause says beside type, nullability and default. -/
structure ColumnMarks where
  autoIncrement : Bool
  unsigned : Bool
  comment : String
  deriving DecidableEq, Repr

/-- The marks of a clause; without a comment it is empty. -/
def ColumnMarks.ofClause (clause : String) : ColumnMarks where
  autoIncrement := isAutoIncrement clause.toList
  unsigned := isUnsigned clause.toList
  comment := String.ofList ((comment? clause.toList).getD [])

end SchemaDump
