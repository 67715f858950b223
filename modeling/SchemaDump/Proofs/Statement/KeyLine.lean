/-
**What key lines give, by their quoted names.**

* `tokensBehind?_keywords`: the tokens behind two keywords are those of the text behind them.
* `primaryKeyColumns?_eq`, `UniqueKey.ofLine?_eq`: a key line gives the quoted names among these tokens;
  a unique key takes the first of them for itself.
-/

import SchemaDump.Proofs.Sql.Spelling
import SchemaDump.Statement.KeyLine

namespace SchemaDump

open SchemaDump.Text SchemaDump.Sql

/-! ### Behind the keywords -/

theorem isWord_spelling (keyword : Keyword) : IsWord keyword.spelling.toList := by
  cases keyword <;> decide +kernel

theorem reads_keyword (keyword : Keyword) {tail : List Char} (ends : EndsWord tail) :
    Reads (keyword.spelling.toList ++ tail) [.word keyword.spelling] tail := by
  have word := reads_word (isWord_spelling keyword) ends
  rwa [String.ofList_toList] at word

/-- Two keywords with a space between them, in front of the given text. -/
def behindKeywords (first second : Keyword) (tail : List Char) : List Char :=
  first.spelling.toList ++ ' ' :: (second.spelling.toList ++ tail)

theorem reads_keywords (first second : Keyword) {tail : List Char} (ends : EndsWord tail) :
    Reads (behindKeywords first second tail)
      [.word first.spelling, .blank " ", .word second.spelling] tail := by
  have front : EndsWord (' ' :: (second.spelling.toList ++ tail)) := endsWord_cons (by decide) _
  exact (reads_keyword first front).trans
    (.next (scanToken_space _) (reads_keyword second ends))

theorem isKeyword_spelling (keyword : Keyword) :
    (Token.word keyword.spelling).isKeyword keyword = true := by
  cases keyword <;> decide

theorem keyword_spelling (expected : Keyword) (tokens : List Token) :
    keyword expected (.word expected.spelling :: tokens) = (some (), tokens) := by
  rw [keyword, if_pos (isKeyword_spelling expected)]

theorem keywordPair_spelling (first second : Keyword) (tokens : List Token) :
    keywordPair first second
      (.word first.spelling :: .blank " " :: .word second.spelling :: tokens) = (some (), tokens) := by
  have start : skipBlanks (.word first.spelling :: .blank " " :: .word second.spelling :: tokens) =
      .word first.spelling :: .blank " " :: .word second.spelling :: tokens := rfl
  have between : skipBlanks (.blank " " :: .word second.spelling :: tokens) =
      .word second.spelling :: tokens := rfl
  unfold keywordPair
  rw [start, keyword_spelling]
  simp only
  rw [between, keyword_spelling]

theorem tokensBehind?_keywords (first second : Keyword) {tail : List Char} (ends : EndsWord tail) :
    tokensBehind? first second (behindKeywords first second tail) = tokens? tail := by
  simp only [tokensBehind?, (reads_keywords first second ends).tokens?_eq]
  cases tokens? tail with
  | none => rfl
  | some tokens => simp [keywordPair_spelling]

/-! ### The names -/

theorem quotedNames_eq (tokens : List Token) :
    quotedNames tokens =
      match nextQuotedName tokens with
      | (some name, rest) => name :: quotedNames rest
      | (none, _) => [] := by
  fun_induction nextQuotedName tokens with
  | case1 => rfl
  | case2 name rest => rfl
  | case3 token rest other ih =>
    rw [← ih]
    cases token with
    | quotedName name => exact absurd rfl (other name)
    | _ => rfl

/-- The index that a list of names declares: its own name first, then its columns. -/
def UniqueKey.ofNames? : List String → Option UniqueKey
  | [] => none
  | name :: columns => some ⟨name, columns⟩

theorem primaryKeyColumns?_eq (line : List Char) :
    primaryKeyColumns? line =
      ((tokensBehind? .primary .key line).map quotedNames).bind fun columns =>
        if columns.isEmpty then none else some columns := by
  rw [primaryKeyColumns?, Option.bind_map]
  rfl

theorem UniqueKey.ofLine?_eq (line : List Char) :
    UniqueKey.ofLine? line =
      ((tokensBehind? .unique .key line).map quotedNames).bind UniqueKey.ofNames? := by
  rw [UniqueKey.ofLine?, Option.bind_map]
  congr 1
  funext tokens
  rw [Function.comp_apply, quotedNames_eq]
  match nextQuotedName tokens with
  | (some name, rest) => rfl
  | (none, _) => rfl

end SchemaDump
