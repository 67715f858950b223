/-
**Reading back a quoted body.**

`scanQuoted` undoes the ways in which a body is written:

* `scanQuoted_doubleMarks`: without escapes, a body with its marks doubled;
* `scanQuoted_eq_none`: a body without a closing mark is none;
* `suffix_scanQuoted`: what is left behind a body is an end of the text;
* `scanName_doubleMarks`: so is a name with its backticks doubled;
* `scanName_append`: a name without backticks is read as it stands between them;
* `openedLiteral?_of_not_opener`: most characters open no literal.

What stands behind the closing mark must not be another one, which would carry the body on.
-/

import SchemaDump.Proofs.Text.Doubling
import SchemaDump.Sql.Tokens

namespace SchemaDump.Sql

open SchemaDump.Text

variable {mark : Char} {escapes : Bool}

/-! ### One step -/

theorem scanQuoted_end {after : List Char} (stop : after.head? ≠ some mark) :
    scanQuoted mark escapes (mark :: after) = some ([], after) := by
  cases after with
  | nil => rw [scanQuoted, if_pos rfl]
  | cons d rest =>
    have other : d ≠ mark := fun same => stop (by rw [same, List.head?_cons])
    rw [scanQuoted, if_pos rfl, if_neg other]

theorem scanQuoted_mark_mark (rest : List Char) :
    scanQuoted mark escapes (mark :: mark :: rest) = withFirst mark (scanQuoted mark escapes rest) := by
  rw [scanQuoted, if_pos rfl, if_pos rfl]

theorem scanQuoted_cons {c : Char} (other : c ≠ mark) (plain : (escapes && c == '\\') = false)
    (rest : List Char) :
    scanQuoted mark escapes (c :: rest) = withFirst c (scanQuoted mark escapes rest) := by
  cases rest with
  | nil => simp [scanQuoted, withFirst, other]
  | cons d more =>
    rw [scanQuoted, if_neg other, plain]
    rfl

theorem scanQuoted_escape (other : '\\' ≠ mark) (d : Char) (rest : List Char) :
    scanQuoted mark true ('\\' :: d :: rest) =
      withFirst (unescaped d) (scanQuoted mark true rest) := by
  rw [scanQuoted, if_neg other]
  rfl

theorem withFirst_some (c : Char) (content rest : List Char) :
    withFirst c (some (content, rest)) = some (c :: content, rest) := rfl

/-! ### Whole bodies -/

/-- **A body with its marks doubled is read back.** -/
theorem scanQuoted_doubleMarks (content : List Char) {after : List Char}
    (stop : after.head? ≠ some mark) :
    scanQuoted mark false (doubleMarks mark content ++ mark :: after) = some (content, after) := by
  induction content with
  | nil => exact scanQuoted_end stop
  | cons c rest ih =>
    by_cases same : c = mark
    · rw [same, doubleMarks_cons_same, List.cons_append, List.cons_append, scanQuoted_mark_mark, ih,
        withFirst_some]
    · rw [doubleMarks_cons_other same, List.cons_append, scanQuoted_cons same (Bool.false_and _), ih,
        withFirst_some]

/-- A body without a closing mark is none. -/
theorem scanQuoted_eq_none {text : List Char} (free : mark ∉ text) :
    scanQuoted mark false text = none := by
  induction text with
  | nil => rw [scanQuoted]
  | cons c rest ih =>
    simp only [List.mem_cons, not_or] at free
    rw [scanQuoted_cons (Ne.symm free.1) (Bool.false_and _), ih free.2]
    rfl

/-- What is left behind a body is an end of the text. -/
theorem suffix_scanQuoted {text content after : List Char}
    (read : scanQuoted mark escapes text = some (content, after)) : after <:+ text := by
  fun_induction scanQuoted mark escapes text generalizing content with
  | case1 => simp at read
  | case2 =>
    obtain ⟨_, rfl⟩ := Prod.mk.inj (Option.some.inj read)
    exact List.nil_suffix
  | case3 => simp at read
  | case4 rest ih =>
    obtain ⟨⟨body, _⟩, found, same⟩ := Option.map_eq_some_iff.mp read
    obtain ⟨_, rfl⟩ := Prod.mk.inj same
    exact (ih found).trans ⟨[_, _], rfl⟩
  | case5 d rest _ =>
    obtain ⟨_, rfl⟩ := Prod.mk.inj (Option.some.inj read)
    exact List.suffix_cons mark _
  | case6 c d rest _ _ ih =>
    obtain ⟨⟨body, _⟩, found, same⟩ := Option.map_eq_some_iff.mp read
    obtain ⟨_, rfl⟩ := Prod.mk.inj same
    exact (ih found).trans ⟨[c, d], rfl⟩
  | case7 c d rest _ _ ih =>
    obtain ⟨⟨body, _⟩, found, same⟩ := Option.map_eq_some_iff.mp read
    obtain ⟨_, rfl⟩ := Prod.mk.inj same
    exact (ih found).trans (List.suffix_cons c _)

/-- **A name with its backticks doubled is read back.** -/
theorem scanName_doubleMarks (name : List Char) {after : List Char}
    (stop : after.head? ≠ some backtick) :
    scanName (doubleMarks backtick name ++ backtick :: after) =
      some (.quotedName (String.ofList name), after) := by
  rw [scanName, scanQuoted_doubleMarks name stop]
  rfl

/-- A name without backticks is read as it stands. -/
theorem scanName_append {name : List Char} (free : backtick ∉ name) {after : List Char}
    (stop : after.head? ≠ some backtick) :
    scanName (name ++ backtick :: after) = some (.quotedName (String.ofList name), after) := by
  have read := scanName_doubleMarks name stop
  rwa [doubleMarks_of_not_mem free] at read

theorem suffix_scanName {text after : List Char} {token : Token}
    (read : scanName text = some (token, after)) : after <:+ text := by
  obtain ⟨⟨content, _⟩, found, same⟩ := Option.map_eq_some_iff.mp read
  obtain ⟨_, rfl⟩ := Prod.mk.inj same
  exact suffix_scanQuoted found

theorem scanName_eq_none {text : List Char} (free : backtick ∉ text) : scanName text = none := by
  rw [scanName, scanQuoted_eq_none free]
  rfl

/-! ### Opening -/

/-- The characters that can open a literal, by themselves or in front of a mark. -/
def openers : List Char := [apostrophe, '"', 'b', 'B', 'n', 'N', 'e', 'E', 'x', 'X']

theorem openedLiteral?_of_not_opener {c : Char} (other : c ∉ openers) (rest : List Char) :
    openedLiteral? c rest = none := by
  simp only [openers, List.mem_cons, List.not_mem_nil, or_false, not_or] at other
  unfold openedLiteral?
  cases rest <;> simp [other]

theorem scanToken_backtick (rest : List Char) : scanToken backtick rest = scanName rest := by
  unfold scanToken
  rw [openedLiteral?_of_not_opener (by decide)]
  rfl

end SchemaDump.Sql
