/-
**Reading from the front of a list of tokens.**

A scanner answers what it read, if anything, and the tokens that are left. A scanner that reads nothing
leaves the tokens as they were, with one exception: `literal` takes an unquoted NULL and answers nothing.

* `keyword`, `keywordPair`: keywords, in any case and without quotes;
* `word`, `quotedName`, `nextQuotedName`: names;
* `literal`: one value, as a default is written;
* `group`: a parenthesised group up to the parenthesis that closes it.
-/

import SchemaDump.Sql.Token

namespace SchemaDump.Sql

open SchemaDump.Text

/-- Reads from the front of the tokens: what was read, if anything, and what is left. -/
abbrev Scanner (α : Type) := List Token → Option α × List Token

/-- The tokens without the blanks and comments that they start with. -/
def skipBlanks (tokens : List Token) : List Token := tokens.dropWhile Token.isBlank

/-! ### Keywords -/

/-- Reads one keyword. -/
def keyword (expected : Keyword) : Scanner Unit
  | [] => (none, [])
  | token :: rest => if token.isKeyword expected then (some (), rest) else (none, token :: rest)

/-- Reads two keywords, with blanks in front of each. -/
def keywordPair (first second : Keyword) : Scanner Unit := fun tokens =>
  match keyword first (skipBlanks tokens) with
  | (some (), afterFirst) =>
    match keyword second (skipBlanks afterFirst) with
    | (some (), rest) => (some (), rest)
    | (none, _) => (none, tokens)
  | (none, _) => (none, tokens)

/-! ### Names -/

/-- The name that a token quotes. -/
def Token.quotedName? : Token → Option String
  | .quotedName name => some name
  | _ => none

/-- Reads a quoted name that stands at the front. -/
def quotedName : Scanner String
  | .quotedName name :: rest => (some name, rest)
  | tokens => (none, tokens)

/-- Reads the next quoted name, and drops all tokens in front of it. -/
def nextQuotedName : Scanner String
  | [] => (none, [])
  | .quotedName name :: rest => (some name, rest)
  | _ :: rest => nextQuotedName rest

/-- All quoted names in the tokens, in order. -/
def quotedNames (tokens : List Token) : List String := tokens.filterMap Token.quotedName?

/-- Reads a word without quotes that stands at the front. -/
def word : Scanner String
  | .word text :: rest => (some text, rest)
  | tokens => (none, tokens)

/-! ### Values and groups -/

/-- The form of a string in a statement: between apostrophes, an apostrophe in it written twice. -/
def quotedString (content : String) : String :=
  String.ofList (apostrophe :: doubleMarks apostrophe content.toList ++ [apostrophe])

/-- Reads one value. A minus must have its number right behind it, which is read without its mark
`L`. A NULL is taken but is no value; a string is written in its quoted form; a blank and a comma
are left; any other token is the value that it is printed as. -/
def literal : Scanner String
  | [] => (none, [])
  | .minus :: .number digits _ :: rest => (some ("-" ++ digits), rest)
  | .minus :: rest => (none, .minus :: rest)
  | .blank text :: rest => (none, .blank text :: rest)
  | .comma :: rest => (none, .comma :: rest)
  | .literal .single content :: rest => (some (quotedString content), rest)
  | token :: rest => if token.isKeyword .null then (none, rest) else (some token.text, rest)

/-- Cuts the tokens behind the right parenthesis at which `depth` parentheses that were open are all
closed. -/
def cutGroup : (depth : Nat) → List Token → Option (List Token × List Token)
  | _, [] => none
  | depth, token :: rest =>
    let more := fun depth =>
      (cutGroup depth rest).map fun (inside, after) => (token :: inside, after)
    match token with
    | .leftParen => more (depth + 1)
    | .rightParen => if depth ≤ 1 then some ([token], rest) else more (depth - 1)
    | _ => more depth

/-- Reads a group, with both its parentheses, as it is printed. -/
def group : Scanner String
  | .leftParen :: rest =>
    match cutGroup 0 (.leftParen :: rest) with
    | some (inside, after) => (some (printed inside), after)
    | none => (none, .leftParen :: rest)
  | tokens => (none, tokens)

/-! ### Progress -/

theorem length_skipBlanks_le (tokens : List Token) : (skipBlanks tokens).length ≤ tokens.length :=
  (List.dropWhile_suffix _).length_le

theorem length_keyword_le (expected : Keyword) (tokens : List Token) :
    (keyword expected tokens).2.length ≤ tokens.length := by
  unfold keyword
  split
  · simp
  · split <;> simp

theorem length_literal_le (tokens : List Token) : (literal tokens).2.length ≤ tokens.length := by
  unfold literal
  split
  · simp
  · simp only [List.length_cons]
    omega
  · simp
  · simp
  · simp
  · simp
  · split <;> simp

theorem length_cutGroup_lt {depth : Nat} {tokens inside after : List Token}
    (cut : cutGroup depth tokens = some (inside, after)) : after.length < tokens.length := by
  induction tokens generalizing depth inside with
  | nil => simp [cutGroup] at cut
  | cons token rest ih =>
    have more : ∀ deeper, (cutGroup deeper rest).map
        (fun pair => (token :: pair.1, pair.2)) = some (inside, after) →
        after.length < (token :: rest).length := by
      intro deeper found
      simp only [Option.map_eq_some_iff, Prod.mk.injEq, Prod.exists] at found
      obtain ⟨_, _, found, _, rfl⟩ := found
      have := ih found
      simp only [List.length_cons]
      omega
    unfold cutGroup at cut
    simp only at cut
    split at cut
    · exact more _ cut
    · split at cut
      · simp only [Option.some.injEq, Prod.mk.injEq] at cut
        simp [cut.2]
      · exact more _ cut
    · exact more _ cut

theorem length_group_le (tokens : List Token) : (group tokens).2.length ≤ tokens.length := by
  unfold group
  split
  · split
    · next found => exact Nat.le_of_lt (length_cutGroup_lt found)
    · simp
  · simp

end SchemaDump.Sql
