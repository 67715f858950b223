/-
**Marks of a clause that has string literals in it.**

The marks are searched in the characters of a clause, and a literal is no boundary for the search.

* `found_clause_iff`: what an apostrophe cuts is found in a clause if it is found with the literals
  empty, or inside one of them;
* `isUnsigned_iff`: a clause is unsigned if the word stands between blanks or commas or the ends;
* `comment?_append_apostrophe`: a comment opens at an apostrophe behind `COMMENT` and a space, in a
  literal or not, so `comment?_clause`: the first comment is read unless something in front of it ends
  like that;
* **`marks_clause`**: what the literals of a clause do to its marks.
-/

import Mathlib.Data.List.Infix
import SchemaDump.Proofs.Sql.Values
import SchemaDump.Proofs.Statement.Comment
import SchemaDump.Proofs.Text.Occurrence

namespace SchemaDump

open SchemaDump.Text SchemaDump.Sql

/-! ### Clauses -/

/-- A text that stands between apostrophes as it is. -/
structure PlainText where
  chars : List Char
  plain : ∀ c ∈ chars, c ∉ escapedChars

def PlainText.empty : PlainText := ⟨[], List.forall_mem_nil _⟩

/-- The literal with the text in it. -/
def PlainText.quoted (content : PlainText) : List Char := apostrophe :: (content.chars ++ [apostrophe])

theorem PlainText.not_mem (content : PlainText) {c : Char} (escaped : c ∈ escapedChars) :
    c ∉ content.chars := fun found => content.plain c found escaped

/-- A part of a clause behind its type. -/
inductive ClauseItem where
  /-- Any words without an apostrophe. -/
  | words (text : List Char) (unquoted : apostrophe ∉ text)
  | default (content : PlainText)
  | comment (content : PlainText)

namespace ClauseItem

/-- What stands in the literal of the item. -/
def content : ClauseItem → List Char
  | words _ _ => []
  | default content | comment content => content.chars

def text : ClauseItem → List Char
  | words text _ => ' ' :: text
  | default content => " DEFAULT ".toList ++ content.quoted
  | comment content => " COMMENT ".toList ++ content.quoted

theorem text_words (text : List Char) (unquoted : apostrophe ∉ text) :
    (words text unquoted).text = ' ' :: text := rfl

theorem text_default (content : PlainText) :
    (default content).text = " DEFAULT ".toList ++ content.quoted := rfl

theorem text_comment (content : PlainText) :
    (comment content).text = " COMMENT ".toList ++ content.quoted := rfl

/-- The item with nothing in its literal. -/
def emptied : ClauseItem → ClauseItem
  | words text unquoted => words text unquoted
  | default _ => default .empty
  | comment _ => comment .empty

end ClauseItem

/-- The text of a clause: a space, a type and the items. -/
def itemizedText (type : List Char) (items : List ClauseItem) : List Char :=
  ' ' :: (type ++ items.flatMap ClauseItem.text)

def itemizedMarks (type : List Char) (items : List ClauseItem) : ColumnMarks :=
  ColumnMarks.ofClause (String.ofList (itemizedText type items))

/-! ### Finding in literals -/

section Found

variable {Found : List Char → Prop}
  (cut : ∀ before after, Found (before ++ apostrophe :: after) ↔ Found before ∨ Found after)
  (none : ¬ Found [])

include cut none

/-- **What an apostrophe cuts is found outside the literals, or in one of them.** -/
theorem found_clause_iff (items : List ClauseItem) (front back : List Char) :
    Found (front ++ (items.flatMap ClauseItem.text ++ back)) ↔
      Found (front ++ ((items.map ClauseItem.emptied).flatMap ClauseItem.text ++ back)) ∨
        ∃ item ∈ items, Found item.content := by
  induction items generalizing front with
  | nil => simp
  | cons item rest ih =>
    have literal (lead : List Char) (content : PlainText) :
        Found (front ++ (lead ++ content.quoted ++ rest.flatMap ClauseItem.text ++ back)) ↔
        Found (front ++ (lead ++ PlainText.empty.quoted ++
          (rest.map ClauseItem.emptied).flatMap ClauseItem.text ++ back)) ∨
          Found content.chars ∨ ∃ item ∈ rest, Found item.content := by
      have spelled (content : PlainText) (after : List Char) :
          front ++ (lead ++ content.quoted ++ after ++ back) =
            front ++ lead ++ apostrophe :: (content.chars ++ apostrophe :: (after ++ back)) := by
        simp [PlainText.quoted]
      have empty : ¬ Found PlainText.empty.chars := none
      have later := ih []
      rw [List.nil_append, List.nil_append] at later
      rw [spelled, spelled, cut, cut, cut, cut, later]
      simp only [empty, false_or, or_assoc, or_left_comm]
    rw [List.flatMap_cons, List.map_cons, List.flatMap_cons]
    simp only [List.mem_cons, exists_eq_or_imp]
    cases item with
    | words text unquoted =>
      have spelled (after : List Char) :
          front ++ ((ClauseItem.words text unquoted).text ++ after ++ back) =
            front ++ ' ' :: text ++ (after ++ back) := by
        rw [ClauseItem.text_words, List.append_assoc, List.append_assoc]
      have same : (ClauseItem.words text unquoted).emptied = .words text unquoted := rfl
      rw [same, spelled, spelled, ih]
      exact or_congr_right (or_iff_right none).symm
    | default content => exact literal " DEFAULT ".toList content
    | comment content => exact literal " COMMENT ".toList content

end Found

/-! ### The two marks -/

/-- The characters between which a word is looked for. -/
def isSeparator (c : Char) : Bool := isBlank c || c == ','

def unsignedWords : List (List Char) := ["unsigned".toList, "UNSIGNED".toList]

/-- The text has the word `unsigned` or `UNSIGNED` in it, between separators. -/
def EnclosesUnsigned (text : List Char) : Prop :=
  ∃ word ∈ unsignedWords, Between isSeparator word text

theorem isUnsigned_iff (text : List Char) :
    isUnsigned text = true ↔ EnclosesUnsigned (' ' :: (text ++ [' '])) := by
  have shape : ∀ word ∈ unsignedWords, word ≠ [] ∧ word.all (fun c => isSeparator c = false) = true := by
    decide
  have space : isSeparator ' ' = true := by decide
  have listed : isUnsigned text = true ↔
      ∃ word ∈ unsignedWords, word ∈ text.splitOnP isSeparator := by
    rw [isUnsigned, List.any_eq_true]
    constructor
    · rintro ⟨piece, listed, word⟩
      refine ⟨piece, ?_, listed⟩
      simpa [unsignedWords] using word
    · rintro ⟨word, one, listed⟩
      refine ⟨word, listed, ?_⟩
      simpa [unsignedWords] using one
  rw [listed]
  refine exists_congr fun word => and_congr_right fun one => ?_
  obtain ⟨visible, free⟩ := shape word one
  exact mem_splitOnP_iff visible (List.all_iff_forall_prop.mp free) space space text

theorem enclosesUnsigned_append_apostrophe (before after : List Char) :
    EnclosesUnsigned (before ++ apostrophe :: after) ↔
      EnclosesUnsigned before ∨ EnclosesUnsigned after := by
  have free : ∀ word ∈ unsignedWords, apostrophe ∉ word := by decide
  have other : isSeparator apostrophe = false := by decide
  constructor
  · rintro ⟨word, one, between⟩
    exact ((between_append_cons_iff other (free word one) before after).mp between).imp
      (fun here => ⟨word, one, here⟩) fun later => ⟨word, one, later⟩
  · rintro (⟨word, one, here⟩ | ⟨word, one, later⟩)
    · exact ⟨word, one, (between_append_cons_iff other (free word one) before after).mpr (.inl here)⟩
    · exact ⟨word, one, (between_append_cons_iff other (free word one) before after).mpr (.inr later)⟩

theorem not_enclosesUnsigned_nil : ¬ EnclosesUnsigned [] := by
  rintro ⟨word, _, first, last, _, _, found⟩
  exact List.cons_ne_nil _ _ (List.infix_nil.mp found)

/-! ### The comment -/

/-- What stands in front of the apostrophe that opens a comment. -/
def commentWord : List Char := "COMMENT ".toList

theorem commentMark_append (rest : List Char) :
    commentMark ++ rest = commentWord ++ apostrophe :: rest := rfl

/-- A mark that does not end in the text in front of an apostrophe ends at the apostrophe. -/
theorem prefix_apostrophe_iff {front : List Char} (unmarked : ¬ commentMark <+: front)
    (rest : List Char) :
    commentMark <+: front ++ apostrophe :: rest ↔ front = commentWord := by
  constructor
  · rintro ⟨more, whole⟩
    rw [commentMark_append] at whole
    obtain ⟨extra, rfl, tail⟩ | ⟨extra, word, tail⟩ := List.append_eq_append_iff.mp whole
    · cases extra with
      | nil => exact List.append_nil _
      | cons c extra =>
        obtain ⟨rfl, -⟩ := List.cons.inj tail
        exact absurd ⟨extra, commentMark_append extra⟩ unmarked
    · cases extra with
      | nil => rw [word, List.append_nil]
      | cons c extra =>
        have inside : apostrophe ∈ commentWord := by
          rw [word, (List.cons.inj tail).1]
          exact List.mem_append_right _ List.mem_cons_self
        exact absurd inside (by decide)
  · rintro rfl
    exact ⟨rest, commentMark_append rest⟩

/-- **At the next apostrophe a comment opens exactly if the text in front of it ends in `COMMENT` and a
space.** -/
theorem comment?_append_apostrophe {front : List Char} (unmarked : ¬ commentMark <:+: front)
    (rest : List Char) :
    comment? (front ++ apostrophe :: rest) =
      if commentWord <:+ front then (closedText? rest).or (comment? rest) else comment? rest := by
  induction front with
  | nil =>
    have none : commentMark.isPrefixOf? (apostrophe :: rest) = Option.none := rfl
    rw [List.nil_append, comment?_cons, none]
    rfl
  | cons c more ih =>
    have later := ih fun found => unmarked (found.trans (List.suffix_cons c more).isInfix)
    have mark := prefix_apostrophe_iff (fun front => unmarked front.isInfix) rest
    rw [List.cons_append, comment?_cons, later, ← List.cons_append]
    by_cases whole : c :: more = commentWord
    · have found : commentMark.isPrefixOf? (c :: more ++ apostrophe :: rest) = some rest := by
        rw [List.isPrefixOf?_eq_some_iff_append_eq, commentMark_append, whole]
      have shorter : ¬ commentWord <:+ more := fun behind => by
        have lengths := behind.length_le
        rw [← whole, List.length_cons] at lengths
        exact absurd lengths (Nat.not_succ_le_self _)
      rw [found, Option.bind_some, if_neg shorter, if_pos (whole ▸ List.suffix_refl _)]
    · have none : commentMark.isPrefixOf? (c :: more ++ apostrophe :: rest) = Option.none := by
        rw [Option.eq_none_iff_forall_ne_some]
        intro tail found
        exact whole (mark.mp ⟨tail, List.isPrefixOf?_eq_some_iff_append_eq.mp found⟩)
      have same : commentWord <:+ c :: more ↔ commentWord <:+ more :=
        List.suffix_cons_iff.trans (or_iff_right (Ne.symm whole))
      rw [none, Option.bind_none, Option.none_or]
      simp only [same]

/-- A text without apostrophes completes no mark in front of it. -/
theorem unmarked_append {front more : List Char} (unmarked : ¬ commentMark <:+: front)
    (unquoted : apostrophe ∉ more) : ¬ commentMark <:+: front ++ more := by
  induction more generalizing front with
  | nil => rwa [List.append_nil]
  | cons c rest ih =>
    rw [List.mem_cons, not_or] at unquoted
    rw [List.append_cons]
    refine ih ?_ unquoted.2
    rw [List.infix_concat_iff]
    rintro (⟨before, whole⟩ | within)
    · have last := congrArg List.getLast? whole
      rw [← List.append_nil commentMark, commentMark_append] at last
      simp only [List.getLast?_append, List.getLast?_singleton, Option.some_or, Option.some.injEq] at last
      exact unquoted.1 last
    · exact unmarked within

namespace ClauseItem

/-- An item in front of a comment, over which the search for the comment goes on. -/
def Quiet : ClauseItem → Prop
  | words _ _ => True
  | default content => ¬ commentWord <:+ content.chars
  | comment _ => False

end ClauseItem

theorem not_infix_nil : ¬ commentMark <:+: [] := fun found =>
  absurd (List.infix_nil.mp found) (by decide)

/-- The word `DEFAULT` opens no comment. -/
theorem not_suffix_default (front : List Char) : ¬ commentWord <:+ front ++ " DEFAULT ".toList := by
  intro found
  have behind := List.suffix_of_suffix_length_le found (List.suffix_append front " DEFAULT ".toList)
    (by decide)
  exact absurd behind (by decide)

theorem suffix_comment (front : List Char) : commentWord <:+ front ++ " COMMENT ".toList := by
  have spaced : commentWord <:+ " COMMENT ".toList := List.suffix_cons ' ' commentWord
  exact spaced.trans (List.suffix_append front _)

/-- **The first comment is read**, if nothing in front of it ends as what opens a comment does. -/
theorem comment?_clause {before : List ClauseItem} (quiet : ∀ item ∈ before, item.Quiet)
    {front : List Char} (unmarked : ¬ commentMark <:+: front) (content : PlainText)
    (rest : List Char) :
    comment? (front ++ (before.flatMap ClauseItem.text ++ ((ClauseItem.comment content).text ++ rest))) =
      some content.chars := by
  have spelled (front word : List Char) (content : PlainText) (rest : List Char) :
      front ++ (word ++ content.quoted ++ rest) =
        front ++ word ++ apostrophe :: (content.chars ++ apostrophe :: rest) := by
    simp [PlainText.quoted]
  induction before generalizing front with
  | nil =>
    rw [List.flatMap_nil, List.nil_append, ClauseItem.text_comment, spelled,
      comment?_append_apostrophe (unmarked_append unmarked (by decide)), if_pos (suffix_comment front),
      closedText?_append (content.not_mem (by decide)) (content.not_mem (by decide)), Option.some_or]
  | cons item before ih =>
    rw [List.forall_mem_cons] at quiet
    have later {front : List Char} (unmarked : ¬ commentMark <:+: front) := ih quiet.2 unmarked
    rw [List.flatMap_cons, List.append_assoc]
    cases item with
    | words text unquoted =>
      have free : apostrophe ∉ ' ' :: text := List.not_mem_cons_of_ne_of_not_mem (by decide) unquoted
      rw [ClauseItem.text_words, ← List.append_assoc]
      exact later (unmarked_append unmarked free)
    | default value =>
      have inside : ¬ commentMark <:+: value.chars :=
        unmarked_append not_infix_nil (value.not_mem (by decide))
      rw [ClauseItem.text_default, spelled,
        comment?_append_apostrophe (unmarked_append unmarked (by decide)),
        if_neg (not_suffix_default front), comment?_append_apostrophe inside, if_neg quiet.1]
      exact later not_infix_nil
    | comment other => exact quiet.1.elim

/-! ### The marks of a clause -/

/-- **What the literals of a clause do to its marks.** It counts up by itself, or is unsigned, if it is
so with all literals empty, or if the mark stands in a literal. The first comment is read if nothing in
front of it opens another one. -/
theorem marks_clause (type : List Char) (items : List ClauseItem) :
    ((itemizedMarks type items).autoIncrement = true ↔
      (itemizedMarks type (items.map ClauseItem.emptied)).autoIncrement = true ∨
        ∃ item ∈ items, "AUTO_INCREMENT".toList <:+: item.content) ∧
    ((itemizedMarks type items).unsigned = true ↔
      (itemizedMarks type (items.map ClauseItem.emptied)).unsigned = true ∨
        ∃ item ∈ items, EnclosesUnsigned item.content) ∧
    ∀ before content behind, items = before ++ .comment content :: behind →
      ¬ commentMark <:+: type → (∀ item ∈ before, item.Quiet) →
      (itemizedMarks type items).comment = String.ofList content.chars := by
  simp only [itemizedMarks, ColumnMarks.ofClause, String.toList_ofList]
  refine ⟨?_, ?_, ?_⟩
  · have cut (before after : List Char) := infix_append_cons_iff
      (by decide : apostrophe ∉ "AUTO_INCREMENT".toList) before after
    have none : ¬ "AUTO_INCREMENT".toList <:+: [] := fun found =>
      absurd (List.infix_nil.mp found) (by decide)
    have found := found_clause_iff cut none items (' ' :: type) []
    rw [List.append_nil, List.append_nil] at found
    rw [isAutoIncrement, isAutoIncrement, occursIn_iff_infix, occursIn_iff_infix]
    exact found
  · have found := found_clause_iff enclosesUnsigned_append_apostrophe not_enclosesUnsigned_nil items
      (' ' :: ' ' :: type) [' ']
    have spelled (text : List Char) :
        ' ' :: (' ' :: (type ++ text) ++ [' ']) = ' ' :: ' ' :: type ++ (text ++ [' ']) := by simp
    rw [isUnsigned_iff, isUnsigned_iff, itemizedText, itemizedText, spelled, spelled]
    exact found
  · rintro before content behind rfl unmarked quiet
    have front : ¬ commentMark <:+: ' ' :: type := by
      rw [List.infix_cons_iff]
      rintro (start | within)
      · exact absurd (List.cons_prefix_cons.mp start).1 (by decide)
      · exact unmarked within
    have read := comment?_clause quiet front content (behind.flatMap ClauseItem.text)
    have spelled : itemizedText type (before ++ .comment content :: behind) = ' ' :: type ++
        (before.flatMap ClauseItem.text ++
          ((ClauseItem.comment content).text ++ behind.flatMap ClauseItem.text)) := by
      rw [itemizedText, List.flatMap_append, List.flatMap_cons, List.cons_append]
    rw [spelled, read, Option.getD_some]

/-- A text for a literal, given as a string. -/
def plainText (text : String) (plain : text.toList.all (fun c => c ∉ escapedChars) = true) : PlainText :=
  ⟨text.toList, List.all_iff_forall_prop.mp plain⟩

/-- What stands in front of the comment in ` int unsigned DEFAULT 'a' COMMENT 'AUTO_INCREMENT'`. -/
def unsignedItems : List ClauseItem :=
  [.words "unsigned".toList (by decide), .default (plainText "a" (by decide))]

theorem quiet_unsignedItems : ∀ item ∈ unsignedItems, item.Quiet := by
  have free : ¬ commentWord <:+ "a".toList := by decide
  exact List.forall_mem_cons.mpr ⟨trivial, List.forall_mem_singleton.mpr free⟩

theorem marks_clause_unsigned :
    let marks := itemizedMarks "int".toList
      (unsignedItems ++ [.comment (plainText "AUTO_INCREMENT" (by decide))])
    marks.autoIncrement = true ∧ marks.unsigned = true ∧ marks.comment = "AUTO_INCREMENT" := by
  obtain ⟨autoIncrement, unsigned, comment⟩ := marks_clause "int".toList
    (unsignedItems ++ [.comment (plainText "AUTO_INCREMENT" (by decide))])
  refine ⟨autoIncrement.mpr (.inr ?_), unsigned.mpr (.inl (by decide +kernel)), ?_⟩
  · exact ⟨_, List.mem_append_right _ List.mem_cons_self, List.infix_refl _⟩
  · exact comment unsignedItems _ [] rfl (by decide) quiet_unsignedItems

/-- What stands in literals can change every mark. -/
theorem marks_not_bare :
    ColumnMarks.ofClause " int DEFAULT 'a' COMMENT 'AUTO_INCREMENT'" =
      ⟨true, false, "AUTO_INCREMENT"⟩ ∧
    ColumnMarks.ofClause " int DEFAULT 'a' COMMENT 'is unsigned now'" =
      ⟨false, true, "is unsigned now"⟩ ∧
    ColumnMarks.ofClause " int DEFAULT 'COMMENT ' COMMENT 'c'" = ⟨false, false, " COMMENT "⟩ ∧
    ¬ ∀ (type : List Char) (value note otherValue otherNote : PlainText),
      (itemizedMarks type [.default value, .comment note]).autoIncrement =
        (itemizedMarks type [.default otherValue, .comment otherNote]).autoIncrement ∧
      (itemizedMarks type [.default value, .comment note]).unsigned =
        (itemizedMarks type [.default otherValue, .comment otherNote]).unsigned ∧
      (itemizedMarks type [.default value, .comment note]).comment = String.ofList note.chars := by
  refine ⟨by decide +kernel, by decide +kernel, by decide +kernel, fun same => ?_⟩
  obtain ⟨autoIncrement, -⟩ :=
    same "int".toList (plainText "a" (by decide)) (plainText "AUTO_INCREMENT" (by decide))
      (plainText "a" (by decide)) (plainText "c" (by decide))
  exact absurd autoIncrement (by decide +kernel)

end SchemaDump
