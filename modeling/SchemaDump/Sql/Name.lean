/-
**Names in SQL: words, and names between backticks.**

A word starts with an ASCII letter, an underscore, `$`, `@`, any character from 80 to FFFF or a letter
above FFFF, and goes on as long as name characters follow; those are the same and the ASCII digits. A
quoted name is anything between backticks, a doubled backtick in it being one.
-/

import SchemaDump.Sql.Literal
import SchemaDump.Text.Letter

namespace SchemaDump.Sql

open SchemaDump.Text

/-- May the character start a word? -/
def startsName (c : Char) : Bool :=
  c.isAlpha || c == '_' || c == '$' || c == '@' || (0x80 ≤ c.toNat && c.toNat ≤ 0xFFFF) ||
    inRanges astralLetters c.toNat

/-- May the character stand in a word? -/
def isNamePart (c : Char) : Bool := startsName c || c.isDigit

/-- The word that starts with the given characters and goes on as long as it gets. -/
def scanWord (start rest : List Char) : Token × List Char :=
  (.word (String.ofList (start ++ rest.takeWhile isNamePart)), rest.dropWhile isNamePart)

/-- Reads a quoted name after its opening backtick. -/
def scanName (rest : List Char) : Option (Token × List Char) :=
  (scanQuoted backtick false rest).map fun (name, after) =>
    (.quotedName (String.ofList name), after)

/-! ### A name does not give characters back -/

theorem length_dropWhile_le (p : Char → Bool) (text : List Char) :
    (text.dropWhile p).length ≤ text.length :=
  (List.dropWhile_suffix p).length_le

theorem length_scanWord_le (start rest : List Char) : (scanWord start rest).2.length ≤ rest.length :=
  length_dropWhile_le _ _

theorem length_scanName_le {rest after : List Char} {token : Token}
    (read : scanName rest = some (token, after)) : after.length ≤ rest.length := by
  simp only [scanName, Option.map_eq_some_iff, Prod.mk.injEq, Prod.exists] at read
  obtain ⟨_, _, found, _, rfl⟩ := read
  exact length_scanQuoted_le found

end SchemaDump.Sql
