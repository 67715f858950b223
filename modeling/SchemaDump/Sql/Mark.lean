/-
**Blanks, comments, operators and other marks in SQL.**

A comment is one blank token. Of the operators the longest at the front of the text counts. Variables
and placeholders are read here too, since a mark opens them.
-/

import SchemaDump.Sql.Name

namespace SchemaDump.Sql

open SchemaDump.Text

/-! ### Variables and placeholders -/

/-- Reads what follows an `@`. A second `@`, and any character that is no blank or opening mark,
belongs to a word of its own; the word takes that character whatever it is. -/
def scanAt (rest : List Char) : Token × List Char :=
  match rest with
  | '>' :: after => (.symbol "@>", after)
  | '?' :: after => (.symbol "@?", after)
  | '@' :: c :: after => if c = ' ' then (.symbol "@@", c :: after) else scanWord ['@', '@', c] after
  | ['@'] => (.symbol "@@", [])
  | c :: after =>
    if c = ' ' ∨ c = apostrophe ∨ c = '"' ∨ c = backtick then (.symbol "@", rest)
    else scanWord ['@', c] after
  | [] => (.symbol "@", [])

/-- Reads what follows a `?`: the numbers after it belong to the placeholder. -/
def scanPlaceholder (rest : List Char) : Token × List Char :=
  (.symbol (String.ofList ('?' :: rest.takeWhile isNumber)), rest.dropWhile isNumber)

/-! ### Blanks and comments -/

/-- Reads a blank character. A carriage return, with the line feed after it, is printed as a line
feed, and blanks other than space and tab are printed as a space. -/
def scanBlank (c : Char) (rest : List Char) : Token × List Char :=
  if c = '\r' then
    match rest with
    | '\n' :: after => (.blank "\n", after)
    | _ => (.blank "\n", rest)
  else if c = ' ' ∨ c = '\t' ∨ c = lineFeed then (.blank c.toString, rest)
  else (.blank " ", rest)

/-- Reads a comment up to and with the end of its line. -/
def scanLineComment (opening : String) (rest : List Char) : Token × List Char :=
  match rest.dropWhile (· != lineFeed) with
  | [] => (.blank (opening ++ String.ofList rest), [])
  | feed :: after =>
    (.blank (opening ++ String.ofList (rest.takeWhile (· != lineFeed) ++ [feed])), after)

/-- Reads a block comment after its opening; the first `*/` ends it. -/
def scanBlockComment : List Char → Option (List Char × List Char)
  | '*' :: '/' :: rest => some (['*', '/'], rest)
  | c :: rest => withFirst c (scanBlockComment rest)
  | [] => none

/-! ### Operators and marks -/

/-- The operators of more than one character, an operator after the longer ones that it begins. -/
def operators : List String :=
  ["->>", "->", "||/", "||", "|/", "=>", "==", "!=", "!!", "!~~*", "!~~", "!~*", "!~",
    "<=>", "<=", "<>", "<<", "<@", ">=", ">>", "::", ":=", "&&", "^@", "~~*", "~~", "~*"]

/-- The printed form of an operator: inequality has two spellings and one form. -/
def printedOperator (operator : String) : String := if operator = "!=" then "<>" else operator

/-- The token of a character that is part of nothing longer. -/
def markToken (c : Char) : Token :=
  match c with
  | '(' => .leftParen
  | ')' => .rightParen
  | ',' => .comma
  | '-' => .minus
  | other => .symbol other.toString

/-- Reads the longest operator at the front of the text, or else its first character. -/
def scanMark (c : Char) (rest : List Char) : Token × List Char :=
  match operators.find? fun operator => operator.toList.isPrefixOf (c :: rest) with
  | some operator => (.symbol (printedOperator operator), rest.drop (operator.length - 1))
  | none => (markToken c, rest)

/-- Reads a comment or a mark. -/
def scanSymbol (c : Char) (rest : List Char) : Option (Token × List Char) :=
  match c, rest with
  | '#', _ => some (scanLineComment "#" rest)
  | '-', '-' :: after => some (scanLineComment "--" after)
  | '/', '*' :: after =>
    (scanBlockComment after).map fun (body, rest) => (.blank ("/*" ++ String.ofList body), rest)
  | _, _ => some (scanMark c rest)

/-! ### A mark does not give characters back -/

theorem length_scanAt_le (rest : List Char) : (scanAt rest).2.length ≤ rest.length := by
  unfold scanAt
  split
  · simp
  · simp
  · next c after =>
    split
    · simp
    · have := length_scanWord_le ['@', '@', c] after
      simp only [List.length_cons]
      omega
  · simp
  · next c after _ _ _ _ =>
    split
    · exact Nat.le_refl _
    · have := length_scanWord_le ['@', c] after
      simp only [List.length_cons]
      omega
  · simp

theorem length_scanBlank_le (c : Char) (rest : List Char) :
    (scanBlank c rest).2.length ≤ rest.length := by
  unfold scanBlank
  split
  · split <;> simp
  · split <;> simp

theorem length_scanLineComment_le (opening : String) (rest : List Char) :
    (scanLineComment opening rest).2.length ≤ rest.length := by
  have := length_dropWhile_le (· != lineFeed) rest
  unfold scanLineComment
  split
  · simp
  · next feed after found =>
    rw [found] at this
    exact Nat.le_of_succ_le this

theorem length_scanBlockComment_le {text body after : List Char}
    (read : scanBlockComment text = some (body, after)) : after.length ≤ text.length := by
  fun_induction scanBlockComment text generalizing body with
  | case1 rest =>
    simp only [Option.some.injEq, Prod.mk.injEq] at read
    simp only [← read.2, List.length_cons]
    omega
  | case2 c rest _ ih =>
    simp only [withFirst, Option.map_eq_some_iff, Prod.mk.injEq, Prod.exists] at read
    obtain ⟨_, _, found, _, rfl⟩ := read
    have := ih found
    simp only [List.length_cons]
    omega
  | case3 => simp at read

theorem length_scanMark_le (c : Char) (rest : List Char) :
    (scanMark c rest).2.length ≤ rest.length := by
  unfold scanMark
  split <;> simp

theorem length_scanSymbol_le {c : Char} {rest after : List Char} {token : Token}
    (read : scanSymbol c rest = some (token, after)) : after.length ≤ rest.length := by
  unfold scanSymbol at read
  split at read
  · rw [← (Prod.mk.inj (Option.some.inj read)).2]
    exact length_scanLineComment_le _ _
  · rw [← (Prod.mk.inj (Option.some.inj read)).2]
    exact Nat.le_succ_of_le (length_scanLineComment_le _ _)
  · simp only [Option.map_eq_some_iff, Prod.mk.injEq, Prod.exists] at read
    obtain ⟨_, _, found, _, rfl⟩ := read
    exact Nat.le_succ_of_le (length_scanBlockComment_le found)
  · rw [← (Prod.mk.inj (Option.some.inj read)).2]
    exact length_scanMark_le _ _

end SchemaDump.Sql
