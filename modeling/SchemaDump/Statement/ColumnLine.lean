/-
**Column lines.**

A column line declares the name between its first two backticks. The clause is all that follows the
name, blanks in front included, less one comma at the end.
-/

import SchemaDump.Statement.ClauseTable
import SchemaDump.Statement.Delimiter

namespace SchemaDump

open SchemaDump.Text

/-- The text without one comma that it ends with. -/
def dropFinalComma (text : List Char) : List Char :=
  if text.getLast? = some ',' then text.dropLast else text

/-- The column that a line declares, if it has a complete quoted name. -/
def DeclaredColumn.ofLine? (line : List Char) : Option DeclaredColumn :=
  (cutQuotedName? line).map fun cut =>
    ⟨String.ofList cut.name, String.ofList (dropFinalComma cut.after)⟩

end SchemaDump
