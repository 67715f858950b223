/-
**Key lines.**

A key line starts with two keywords and names columns between backticks. All quoted names behind the
keywords count, whatever stands between them; text in a literal or a comment is no name.

* A primary key line gives its columns in key order, and is malformed without any.
* A unique key line gives the index name first and then the columns, and is malformed without the name.

A line that has no tokens, or other keywords, is malformed as well.
-/

import SchemaDump.Sql.Scanner
import SchemaDump.Sql.Tokens

namespace SchemaDump

open SchemaDump.Sql

/-- The tokens of a line behind two keywords that it must start with. -/
def tokensBehind? (first second : Keyword) (line : List Char) : Option (List Token) := do
  let tokens ← tokens? line
  match keywordPair first second tokens with
  | (some (), rest) => some rest
  | (none, _) => none

/-- The columns of a primary key line, in key order. -/
def primaryKeyColumns? (line : List Char) : Option (List String) := do
  let rest ← tokensBehind? .primary .key line
  let columns := quotedNames rest
  if columns.isEmpty then none else some columns

/-- A unique index: its name, and its columns in index order. -/
structure UniqueKey where
  name : String
  columns : List String
  deriving DecidableEq, Repr

/-- The index of a unique key line. -/
def UniqueKey.ofLine? (line : List Char) : Option UniqueKey := do
  let rest ← tokensBehind? .unique .key line
  match nextQuotedName rest with
  | (some name, members) => some ⟨name, quotedNames members⟩
  | (none, _) => none

end SchemaDump
