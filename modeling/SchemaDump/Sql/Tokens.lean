/-
**Cutting one line of SQL into tokens.**

`scanToken` reads one token from the front of a text; every token takes at least one character
(`length_scanToken_le`). `tokens?` reads the whole text: there are no tokens at all if a literal, a
quoted name or a block comment has no end.

The first character decides, in this order:

* an opening mark, with or without an introducing letter, opens a literal;
* a backtick opens a quoted name;
* a digit or a point opens a numeral, which letters may carry on into a word;
* `@` and `?` open what their next characters say;
* a name character opens a word, as long as it gets;
* a blank is a token of its own, a comment is one token;
* then the longest operator counts, and any other character is a token by itself.
-/

import SchemaDump.Sql.Mark
import SchemaDump.Sql.Number

namespace SchemaDump.Sql

open SchemaDump.Text

/-- Reads one token from a text with the given first character. -/
def scanToken (c : Char) (rest : List Char) : Option (Token × List Char) :=
  match openedLiteral? c rest with
  | some (style, body) => scanLiteral style body
  | none =>
    if c = backtick then scanName rest
    else if c.isDigit || c == '.' then some (scanNumber (c :: rest))
    else if c = '@' then some (scanAt rest)
    else if c = '?' then some (scanPlaceholder rest)
    else if startsName c then some (scanWord [c] rest)
    else if isBlank c then some (scanBlank c rest)
    else scanSymbol c rest

/-- A token takes at least its first character. -/
theorem length_scanToken_le {c : Char} {rest after : List Char} {token : Token}
    (read : scanToken c rest = some (token, after)) : after.length ≤ rest.length := by
  unfold scanToken at read
  split at read
  · next style body opened =>
    exact Nat.le_trans (length_scanLiteral_le read) (length_openedLiteral?_le opened)
  split at read
  · exact length_scanName_le read
  split at read
  · next opens =>
    rw [← (Prod.mk.inj (Option.some.inj read)).2]
    exact length_scanNumber_le (by simpa using opens)
  split at read
  · rw [← (Prod.mk.inj (Option.some.inj read)).2]
    exact length_scanAt_le _
  split at read
  · rw [← (Prod.mk.inj (Option.some.inj read)).2]
    exact length_dropWhile_le _ _
  split at read
  · rw [← (Prod.mk.inj (Option.some.inj read)).2]
    exact length_scanWord_le [c] _
  split at read
  · rw [← (Prod.mk.inj (Option.some.inj read)).2]
    exact length_scanBlank_le _ _
  · exact length_scanSymbol_le read

/-! ### The whole text -/

/-- The tokens of a text, unless something in it has no end. -/
def tokens? : List Char → Option (List Token)
  | [] => some []
  | c :: rest =>
    match _read : scanToken c rest with
    | some (token, after) => (tokens? after).map (token :: ·)
    | none => none
termination_by text => text.length
decreasing_by exact Nat.lt_succ_of_le (length_scanToken_le _read)

end SchemaDump.Sql
