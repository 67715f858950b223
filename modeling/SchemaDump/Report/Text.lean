/-
**Tables as text.**

The report of a table is a list of lines: a title, the columns with their notes, the primary key, and the
unique indexes. A list that is empty says so in a line of its own. Columns are counted from 1.
-/

import SchemaDump.Table

namespace SchemaDump

/-- The text with spaces in front up to the given width. -/
def padLeft (width : Nat) (text : String) : String :=
  String.ofList (List.replicate (width - text.length) ' ') ++ text

/-- The text with spaces behind it up to the given width. -/
def padRight (width : Nat) (text : String) : String :=
  text ++ String.ofList (List.replicate (width - text.length) ' ')

/-- The text between a lead and an end, or nothing if it is empty. -/
def framed (lead text final : String) : String :=
  if text.isEmpty then "" else lead ++ text ++ final

/-- The names of the columns, with commas between them. -/
def nameList (columns : List Column) : String := ", ".intercalate (columns.map Column.name)

/-- The lines, or the line for none if there are none. -/
def orNone (lines : List String) : List String := if lines.isEmpty then ["  (none)"] else lines

namespace Column

/-- The marks of a column, with commas between them. -/
def flags (column : Column) : String :=
  ", ".intercalate
    ((if column.isPrimaryKey then ["PK"] else []) ++
      (if column.isAutoIncrement then ["AUTO_INCREMENT"] else []) ++
      (if column.nullable then [] else ["NOT NULL"]))

/-- The line of a column. -/
def reportLine (column : Column) : String :=
  "  " ++ padLeft 3 (toString (column.index + 1)) ++ "  " ++ padRight 24 column.name ++ " " ++
    column.typeName ++ framed "(" ((column.length.map toString).getD "") ")" ++
    framed "  [" column.flags "]" ++ framed "  default=" column.defaultValue "" ++
    framed "  -- " column.comment ""

/-- The lines of a column: its own, and one for its notes if it has any. -/
def reportLines (column : Column) : List String :=
  column.reportLine :: (if column.notes.isEmpty then [] else ["       note: " ++ column.notes])

end Column

namespace Table

/-- The line of the primary key. -/
def primaryKeyLine (table : Table) : String :=
  if table.primaryKeyColumns.isEmpty then "Primary key: (none)"
  else "Primary key: (" ++ nameList table.primaryKeyColumns ++ ")"

/-- The line of a unique index. -/
def indexLine (index : String × List Column) : String :=
  "  " ++ index.1 ++ " (" ++ nameList index.2 ++ ")"

/-- The lines of the report. -/
def reportLines (table : Table) : List String :=
  ["=== Table `" ++ table.name ++ "` ===", "",
    "Columns (" ++ toString table.columns.length ++ "):"] ++
  orNone (table.columns.flatMap Column.reportLines) ++
  ["", table.primaryKeyLine, "Unique indexes (" ++ toString table.uniqueIndexes.size ++ "):"] ++
  orNone (table.uniqueIndexColumns.map indexLine)

/-- The report of a table, each line ended by a line feed. -/
def textReport (table : Table) : String :=
  String.join (table.reportLines.map (· ++ "\n"))

end Table

end SchemaDump
