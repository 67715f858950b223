/-
**The comment of a clause is the first that is closed on its line.**

A clause can be cut around every mark behind which an apostrophe comes before any line feed: a
`CommentCut`. Marks can stand inside comments and literals, so a clause may have many cuts, and a mark
whose text is not closed has none.

* `closedText?_eq_some_iff`: a text is closed by its first apostrophe, if no line feed stands before it;
* `CommentCut.eq_of_length_eq`: where a cut starts determines it;
* **`comment?_eq_first`**: the comment is that of the cut with the shortest front, and there is none
  exactly if the clause has no cut.
-/

import Mathlib.Data.List.Infix
import Mathlib.Logic.IsEmpty.Basic
import SchemaDump.Statement.ColumnMarks

namespace SchemaDump

open SchemaDump.Text

/-! ### The text behind a mark -/

theorem closedText?_append {comment : List Char} (unquoted : apostrophe ∉ comment)
    (unbroken : lineFeed ∉ comment) (after : List Char) :
    closedText? (comment ++ apostrophe :: after) = some comment := by
  induction comment with
  | nil => rfl
  | cons c more ih =>
    rw [List.mem_cons, not_or] at unquoted unbroken
    rw [List.cons_append, closedText?, if_neg (Ne.symm unquoted.1), if_neg (Ne.symm unbroken.1),
      ih unquoted.2 unbroken.2, Option.map_some]

theorem of_closedText? {text comment : List Char} (closed : closedText? text = some comment) :
    (∃ after, comment ++ apostrophe :: after = text) ∧ apostrophe ∉ comment ∧ lineFeed ∉ comment := by
  induction text generalizing comment with
  | nil => exact nomatch closed
  | cons c rest ih =>
    rw [closedText?] at closed
    split at closed
    · next quote =>
      obtain rfl := Option.some.inj closed
      exact ⟨⟨rest, congrArg (· :: rest) quote.symm⟩, List.not_mem_nil, List.not_mem_nil⟩
    · next other =>
      split at closed
      · exact nomatch closed
      · next inside =>
        obtain ⟨more, later, rfl⟩ := Option.map_eq_some_iff.mp closed
        obtain ⟨⟨after, rfl⟩, unquoted, unbroken⟩ := ih later
        exact ⟨⟨after, rfl⟩, List.not_mem_cons_of_ne_of_not_mem (Ne.symm other) unquoted,
          List.not_mem_cons_of_ne_of_not_mem (Ne.symm inside) unbroken⟩

/-- **A text is closed by its first apostrophe**, if no line feed stands before it. -/
theorem closedText?_eq_some_iff {text comment : List Char} :
    closedText? text = some comment ↔
      (∃ after, comment ++ apostrophe :: after = text) ∧ apostrophe ∉ comment ∧ lineFeed ∉ comment := by
  refine ⟨of_closedText?, ?_⟩
  rintro ⟨⟨after, rfl⟩, unquoted, unbroken⟩
  exact closedText?_append unquoted unbroken after

/-! ### Cuts -/

/-- A clause, cut around a comment that is closed on its line. -/
@[ext]
structure CommentCut (clause : List Char) where
  before : List Char
  comment : List Char
  after : List Char
  whole : before ++ (commentMark ++ (comment ++ apostrophe :: after)) = clause
  unquoted : apostrophe ∉ comment
  unbroken : lineFeed ∉ comment

namespace CommentCut

variable {clause : List Char}

/-- No cut of the clause has a shorter front. -/
def First (cut : CommentCut clause) : Prop :=
  ∀ other : CommentCut clause, cut.before.length ≤ other.before.length

/-- The cut of a clause with one more character in front. -/
def cons (c : Char) (cut : CommentCut clause) : CommentCut (c :: clause) :=
  { cut with before := c :: cut.before, whole := congrArg (c :: ·) cut.whole }

/-- The comment of a cut is what closes the text behind its mark. -/
theorem closedText?_comment (cut : CommentCut clause) :
    closedText? (cut.comment ++ apostrophe :: cut.after) = some cut.comment :=
  closedText?_append cut.unquoted cut.unbroken cut.after

/-- **Where a cut starts determines it.** -/
theorem eq_of_length_eq {first second : CommentCut clause}
    (same : first.before.length = second.before.length) : first = second := by
  obtain ⟨fronts, behind⟩ := List.append_inj (first.whole.trans second.whole.symm) same
  have texts := List.append_cancel_left behind
  have comments : first.comment = second.comment := by
    have closed := first.closedText?_comment
    rw [texts, second.closedText?_comment] at closed
    exact (Option.some.inj closed).symm
  rw [comments] at texts
  have afters := (List.cons.inj (List.append_cancel_left texts)).2
  exact CommentCut.ext fronts comments afters

theorem First.eq {first second : CommentCut clause} (shortest : first.First) (other : second.First) :
    first = second :=
  eq_of_length_eq (Nat.le_antisymm (shortest second) (other first))

theorem isEmpty_nil : IsEmpty (CommentCut []) :=
  ⟨fun cut => absurd (List.append_eq_nil_iff.mp cut.whole).2 (List.cons_ne_nil _ _)⟩

/-- A cut starts at the first character, or is a cut of the rest. -/
theorem before_eq_nil_or_cons {c : Char} (cut : CommentCut (c :: clause)) :
    cut.before = [] ∨ ∃ rest : CommentCut clause, cut = rest.cons c := by
  obtain ⟨before, comment, after, whole, unquoted, unbroken⟩ := cut
  cases before with
  | nil => exact .inl rfl
  | cons d front =>
    obtain ⟨rfl, behind⟩ := List.cons.inj whole
    exact .inr ⟨⟨front, comment, after, behind, unquoted, unbroken⟩, rfl⟩

/-- A comment is read at the start of a clause exactly if a cut starts there. -/
theorem opened_iff {comment : List Char} :
    (commentMark.isPrefixOf? clause).bind closedText? = some comment ↔
      ∃ cut : CommentCut clause, cut.before = [] ∧ cut.comment = comment := by
  simp only [Option.bind_eq_some_iff, List.isPrefixOf?_eq_some_iff_append_eq, closedText?_eq_some_iff]
  constructor
  · rintro ⟨text, rfl, ⟨after, rfl⟩, unquoted, unbroken⟩
    exact ⟨⟨[], comment, after, rfl, unquoted, unbroken⟩, rfl, rfl⟩
  · rintro ⟨⟨before, comment, after, whole, unquoted, unbroken⟩, rfl, rfl⟩
    exact ⟨_, whole, ⟨after, rfl⟩, unquoted, unbroken⟩

/-- If no cut starts at the first character, the first cut of the rest is the first of all. -/
theorem First.cons {c : Char} {cut : CommentCut clause} (shortest : cut.First)
    (later : ∀ other : CommentCut (c :: clause), other.before ≠ []) : (cut.cons c).First := by
  intro other
  obtain start | ⟨rest, rfl⟩ := other.before_eq_nil_or_cons
  · exact absurd start (later other)
  · exact Nat.succ_le_succ (shortest rest)

end CommentCut

/-! ### The search -/

theorem comment?_cons (c : Char) (rest : List Char) :
    comment? (c :: rest) =
      ((commentMark.isPrefixOf? (c :: rest)).bind closedText?).or (comment? rest) := by
  rw [comment?]
  split
  · next found => rw [found, Option.some_or]
  · next none => rw [none, Option.none_or]

/-- What the search finds is the comment of the first cut. -/
theorem exists_first_of_comment? {clause comment : List Char} (found : comment? clause = some comment) :
    ∃ cut : CommentCut clause, cut.First ∧ cut.comment = comment := by
  induction clause with
  | nil => exact nomatch found
  | cons c rest ih =>
    rw [comment?_cons, Option.or_eq_some_iff] at found
    rcases found with opened | ⟨closed, later⟩
    · obtain ⟨cut, start, same⟩ := CommentCut.opened_iff.mp opened
      refine ⟨cut, fun other => ?_, same⟩
      rw [start]
      exact Nat.zero_le _
    · obtain ⟨cut, shortest, same⟩ := ih later
      refine ⟨cut.cons c, shortest.cons fun other start => ?_, same⟩
      have opened := CommentCut.opened_iff.mpr ⟨other, start, rfl⟩
      exact Option.some_ne_none _ (opened.symm.trans closed)

/-- The search misses no cut. -/
theorem comment?_ne_none {clause : List Char} (cut : CommentCut clause) : comment? clause ≠ none := by
  induction clause with
  | nil => exact CommentCut.isEmpty_nil.elim cut
  | cons c rest ih =>
    rw [comment?_cons, Ne, Option.or_eq_none_iff]
    rintro ⟨closed, later⟩
    obtain start | ⟨behind, -⟩ := cut.before_eq_nil_or_cons
    · have opened := CommentCut.opened_iff.mpr ⟨cut, start, rfl⟩
      exact Option.some_ne_none _ (opened.symm.trans closed)
    · exact ih behind later

/-- **The comment of a clause is that of the first cut**, which is unique, and a clause without a cut has
none. So a mark whose text is not closed on its line hides no comment behind it. -/
theorem comment?_eq_first (clause : List Char) :
    (∀ comment, comment? clause = some comment ↔
      ∃ cut : CommentCut clause, cut.First ∧ cut.comment = comment) ∧
    (comment? clause = none ↔ IsEmpty (CommentCut clause)) ∧
    ∀ first second : CommentCut clause, first.First → second.First → first = second := by
  refine ⟨fun comment => ⟨exists_first_of_comment?, ?_⟩, ⟨?_, ?_⟩, fun _ _ => CommentCut.First.eq⟩
  · rintro ⟨cut, shortest, rfl⟩
    obtain ⟨found, same⟩ := Option.ne_none_iff_exists'.mp (comment?_ne_none cut)
    obtain ⟨other, first, rfl⟩ := exists_first_of_comment? same
    rw [same, first.eq shortest]
  · exact fun none => ⟨fun cut => comment?_ne_none cut none⟩
  · intro uncut
    rw [Option.eq_none_iff_forall_ne_some]
    intro comment found
    obtain ⟨cut, -⟩ := exists_first_of_comment? found
    exact uncut.elim cut

/-- The first mark is closed only behind a line feed. -/
example : comment? "text COMMENT 'a\nb COMMENT 'it''s' COMMENT 'c'".toList = some "it".toList := by
  decide

end SchemaDump
