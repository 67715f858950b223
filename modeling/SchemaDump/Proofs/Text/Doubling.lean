/-
**Marks written twice.**

Doubling a mark touches nothing else, and reading two marks as one undoes it
(`undoubleMarks_doubleMarks`).
-/

import SchemaDump.Text.Blank

namespace SchemaDump.Text

theorem doubleMarks_cons_same (mark : Char) (text : List Char) :
    doubleMarks mark (mark :: text) = mark :: mark :: doubleMarks mark text := by
  simp [doubleMarks]

theorem doubleMarks_cons_other {mark c : Char} (other : c ≠ mark) (text : List Char) :
    doubleMarks mark (c :: text) = c :: doubleMarks mark text := by
  simp [doubleMarks, other]

theorem doubleMarks_append (mark : Char) (first second : List Char) :
    doubleMarks mark (first ++ second) = doubleMarks mark first ++ doubleMarks mark second :=
  List.flatMap_append

theorem doubleMarks_of_not_mem {mark : Char} {text : List Char} (free : mark ∉ text) :
    doubleMarks mark text = text := by
  induction text with
  | nil => rfl
  | cons c rest ih =>
    simp only [List.mem_cons, not_or] at free
    rw [doubleMarks_cons_other (Ne.symm free.1), ih free.2]

theorem doubleMarks_subset (mark : Char) (text : List Char) : doubleMarks mark text ⊆ text := by
  intro c listed
  obtain ⟨d, inside, shown⟩ := List.mem_flatMap.mp listed
  have same : c = d := by
    split at shown
    · next is => simpa [is] using shown
    · simpa using shown
  exact same ▸ inside

theorem undoubleMarks_sublist (mark : Char) (text : List Char) : (undoubleMarks mark text).Sublist text := by
  fun_induction undoubleMarks mark text with
  | case1 first second rest both ih =>
    obtain ⟨rfl, rfl⟩ := both
    exact (ih.cons _).cons_cons _
  | case2 first second rest _ ih => exact ih.cons_cons first
  | case3 rest => exact .refl rest

theorem undoubleMarks_cons_other {mark c : Char} (other : c ≠ mark) (text : List Char) :
    undoubleMarks mark (c :: text) = c :: undoubleMarks mark text := by
  cases text with
  | nil => rfl
  | cons d rest => rw [undoubleMarks, if_neg fun both => other both.1]

/-- **Every two marks are read as the one that they stand for.** -/
theorem undoubleMarks_doubleMarks (mark : Char) (text : List Char) :
    undoubleMarks mark (doubleMarks mark text) = text := by
  induction text with
  | nil => rfl
  | cons c rest ih =>
    by_cases same : c = mark
    · rw [same, doubleMarks_cons_same, undoubleMarks, if_pos ⟨rfl, rfl⟩, ih]
    · rw [doubleMarks_cons_other same, undoubleMarks_cons_other same, ih]

end SchemaDump.Text
