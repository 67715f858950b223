/-
**Which tokens take a backtick.**

In a text without quotation marks and comments, a backtick opens a quoted name, and no other token takes
one, with a single exception: the mark `@@` makes a word with the character after it whatever that is.

* `Skips text after`: between the two places there is no backtick.
* **`scanToken_plain`**: a token that does not start at a backtick, and not at the exception, is no quoted
  name and skips no backtick. Each scanner gets one lemma of this form.
-/

import Mathlib.Data.List.TakeWhile
import SchemaDump.Proofs.Sql.Spelling

namespace SchemaDump.Sql

open SchemaDump.Text

/-- The later place is left of the text, with no backtick in between. -/
def Skips (text after : List Char) : Prop := ∃ passed, text = passed ++ after ∧ backtick ∉ passed

namespace Skips

variable {text middle after : List Char}

theorem refl (text : List Char) : Skips text text := ⟨[], rfl, List.not_mem_nil⟩

theorem trans (first : Skips text middle) (second : Skips middle after) : Skips text after := by
  obtain ⟨passed, rfl, free⟩ := first
  obtain ⟨more, rfl, freeMore⟩ := second
  exact ⟨passed ++ more, (List.append_assoc _ _ _).symm, by simp [free, freeMore]⟩

theorem cons {c : Char} (other : c ≠ backtick) (rest : Skips text after) : Skips (c :: text) after := by
  obtain ⟨passed, rfl, free⟩ := rest
  exact ⟨c :: passed, rfl, by simp [free, Ne.symm other]⟩

theorem dropWhile {p : Char → Bool} (stops : p backtick = false) (text : List Char) :
    Skips text (text.dropWhile p) := by
  refine ⟨text.takeWhile p, List.takeWhile_append_dropWhile.symm, fun taken => ?_⟩
  rw [List.mem_takeWhile_imp taken] at stops
  exact Bool.noConfusion stops

theorem suffix (skips : Skips text after) : after <:+ text := by
  obtain ⟨passed, rfl, -⟩ := skips
  exact List.suffix_append passed after

theorem count_eq (skips : Skips text after) : text.count backtick = after.count backtick := by
  obtain ⟨passed, rfl, free⟩ := skips
  rw [List.count_append, List.count_eq_zero_of_not_mem free, Nat.zero_add]

end Skips

/-- The token is no quoted name, and the place behind it is reached without a backtick. -/
def Plain (text : List Char) (read : Token × List Char) : Prop :=
  read.1.quotedName? = none ∧ Skips text read.2

/-! ### One scanner after the other -/

theorem isNamePart_backtick : isNamePart backtick = false := by decide +kernel

theorem plain_scanWord {start rest text : List Char} (skips : Skips text rest) :
    Plain text (scanWord start rest) :=
  ⟨rfl, skips.trans (.dropWhile isNamePart_backtick rest)⟩

theorem plain_scanLong {digits rest text : List Char} (skips : Skips text rest) :
    Plain text (scanLong digits rest) := by
  unfold scanLong
  split
  · next after => exact ⟨rfl, skips.trans (.cons (by decide) (.refl after))⟩
  · exact ⟨rfl, skips⟩

theorem skips_cutSign (text : List Char) : Skips text (cutSign text).2 := by
  unfold cutSign
  split
  · next c rest =>
    split
    · next sign => exact .cons (by rcases sign with rfl | rfl <;> decide) (.refl rest)
    · exact .refl _
  · exact .refl _

theorem plain_scanExponent {mantissa rest text : List Char} (skips : Skips text rest) :
    Plain text (scanExponent mantissa rest) := by
  unfold scanExponent
  split
  · exact plain_scanLong skips
  · next c after =>
    split
    · next letter =>
      split
      · exact plain_scanLong skips
      · have behind : Skips (c :: after) ((cutSign after).2.dropWhile Char.isDigit) :=
          .cons (by rcases letter with rfl | rfl <;> decide)
            ((skips_cutSign after).trans (.dropWhile (by decide) _))
        exact plain_scanLong (skips.trans behind)
    · split
      · exact plain_scanWord skips
      · exact plain_scanLong skips

theorem plain_scanFraction {whole rest text : List Char} (skips : Skips text rest) :
    Plain text (scanFraction whole rest) := by
  unfold scanFraction
  split
  · next after =>
    have behind : Skips text after := skips.trans (.cons (by decide) (.refl after))
    split
    · exact ⟨rfl, behind⟩
    · exact plain_scanExponent (behind.trans (.dropWhile (by decide) after))
  · exact plain_scanExponent skips

theorem plain_scanNumber (text : List Char) : Plain text (scanNumber text) := by
  have digits : Skips text (text.dropWhile Char.isDigit) := .dropWhile (by decide) text
  unfold scanNumber
  simp only
  split
  · next rest _ found =>
    rw [found] at digits
    have behind : Skips text rest := digits.trans (.cons (by decide) (.refl rest))
    exact ⟨rfl, behind.trans (.dropWhile (by decide) rest)⟩
  · exact plain_scanFraction digits

/-- **Only `@@` in front of a backtick takes it.** -/
theorem plain_scanAt {rest : List Char} (free : ∀ more, rest ≠ '@' :: backtick :: more) :
    Plain rest (scanAt rest) := by
  unfold scanAt
  split
  · next after => exact ⟨rfl, .cons (by decide) (.refl after)⟩
  · next after => exact ⟨rfl, .cons (by decide) (.refl after)⟩
  · next c after =>
    have other : c ≠ backtick := fun same => free after (by rw [same])
    split
    · exact ⟨rfl, .cons (by decide) (.refl _)⟩
    · exact plain_scanWord (.cons (by decide) (.cons other (.refl after)))
  · exact ⟨rfl, .cons (by decide) (.refl [])⟩
  · next c after _ _ _ _ =>
    split
    · exact ⟨rfl, .refl _⟩
    · next ordinary =>
      have other : c ≠ backtick := fun same => ordinary (by simp [same])
      exact plain_scanWord (.cons other (.refl after))
  · exact ⟨rfl, .refl []⟩

theorem plain_scanPlaceholder (rest : List Char) : Plain rest (scanPlaceholder rest) :=
  ⟨rfl, .dropWhile (by decide +kernel) rest⟩

theorem plain_scanBlank (c : Char) (rest : List Char) : Plain rest (scanBlank c rest) := by
  unfold scanBlank
  split
  · split
    · next after => exact ⟨rfl, .cons (by decide) (.refl after)⟩
    · exact ⟨rfl, .refl rest⟩
  · split
    · exact ⟨rfl, .refl rest⟩
    · exact ⟨rfl, .refl rest⟩

theorem backtick_not_mem_operators : ∀ operator ∈ operators, backtick ∉ operator.toList := by
  decide +kernel

theorem ne_nil_of_mem_operators : ∀ operator ∈ operators, operator.toList ≠ [] := by
  decide +kernel

theorem plain_scanMark {c : Char} (other : c ≠ backtick) (rest : List Char) :
    Plain (c :: rest) (scanMark c rest) := by
  unfold scanMark
  split
  · next operator found =>
    have listed := List.mem_of_find?_eq_some found
    have free := backtick_not_mem_operators operator listed
    have front := List.find?_some found
    obtain ⟨more, whole⟩ := List.isPrefixOf_iff_prefix.mp front
    refine ⟨rfl, operator.toList, ?_, free⟩
    have size : operator.length - 1 + 1 = operator.toList.length := by
      rw [String.length_toList]
      have := List.length_pos_iff.mpr (ne_nil_of_mem_operators operator listed)
      rw [String.length_toList] at this
      omega
    show c :: rest = operator.toList ++ rest.drop (operator.length - 1)
    rw [← List.drop_succ_cons (a := c), size, ← whole, List.drop_left]
  · exact ⟨quotedName?_markToken c, .cons other (.refl rest)⟩

/-! ### The next token -/

/-- The marks that can hide a backtick or take it: quotation marks, and those that open a comment. -/
def hidingMarks : List Char := [apostrophe, '"', '#', '-', '/', '.']

theorem openedLiteral?_eq_none {c : Char} {rest : List Char}
    (unmarked : ∀ d ∈ c :: rest, d ∉ hidingMarks) : openedLiteral? c rest = none := by
  have single : ∀ d ∈ c :: rest, d ≠ apostrophe := fun d found same =>
    unmarked d found (by simp [hidingMarks, same])
  have double : ∀ d ∈ c :: rest, d ≠ '"' := fun d found same =>
    unmarked d found (by simp [hidingMarks, same])
  unfold openedLiteral?
  rw [if_neg (single c List.mem_cons_self), if_neg (double c List.mem_cons_self)]
  split
  · rfl
  · next mark body =>
    have second : mark ∈ c :: mark :: body := List.mem_cons_of_mem c List.mem_cons_self
    rw [if_neg (single mark second), if_neg fun both => double mark second both.1]

/-- **A token that starts elsewhere is no quoted name and takes no backtick.** -/
theorem scanToken_plain {c : Char} {rest : List Char} (unmarked : ∀ d ∈ c :: rest, d ∉ hidingMarks)
    (other : c ≠ backtick) (free : ∀ more, c :: rest ≠ '@' :: '@' :: backtick :: more) :
    ∃ read, scanToken c rest = some read ∧ Plain (c :: rest) read := by
  have behind {read : Token × List Char} (plain : Plain rest read) : Plain (c :: rest) read :=
    ⟨plain.1, .cons other plain.2⟩
  unfold scanToken
  rw [openedLiteral?_eq_none unmarked]
  simp only [other, if_false]
  split
  · exact ⟨_, rfl, plain_scanNumber _⟩
  split
  · next mark =>
    exact ⟨_, rfl, behind (plain_scanAt fun more same => free more (by rw [mark, same]))⟩
  split
  · exact ⟨_, rfl, behind (plain_scanPlaceholder rest)⟩
  split
  · exact ⟨_, rfl, behind (plain_scanWord (.refl rest))⟩
  split
  · exact ⟨_, rfl, behind (plain_scanBlank c rest)⟩
  · have symbol : c ∉ ['#', '-', '/'] := fun found =>
      unmarked c List.mem_cons_self (List.subset_def.mp (by decide) found)
    exact ⟨_, scanSymbol_eq_scanMark symbol rest, plain_scanMark other rest⟩

end SchemaDump.Sql
