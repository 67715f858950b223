/-
**Where a text stands in another one.**

* `occursIn_iff_infix`: a search finds every place;
* **`infix_append_cons_iff`**: a text is not found across a character that does not stand in it;
* **`mem_splitOnP_iff`**: a piece between separators is found as a text with a separator on both sides,
  once the whole has been given one at both ends.
-/

import SchemaDump.Text.Blank

namespace SchemaDump.Text

/-! ### Search -/

theorem occursIn_iff_infix {pattern text : List Char} :
    occursIn pattern text = true ↔ pattern <:+: text := by
  induction text with
  | nil => rw [occursIn, List.isEmpty_iff, List.infix_nil]
  | cons c rest ih =>
    rw [occursIn, Bool.or_eq_true, ih, List.isPrefixOf_iff_prefix, List.infix_cons_iff]

variable {α : Type} {pattern : List α}

/-- **No occurrence reaches over a character that is not in the pattern.** -/
theorem infix_append_cons_iff {c : α} (free : c ∉ pattern) (before after : List α) :
    pattern <:+: before ++ c :: after ↔ pattern <:+: before ∨ pattern <:+: after := by
  -- What of the pattern stands in front of the rest is empty, as it would start with `c`.
  have empty {part : List α} (within : part ⊆ pattern) (front : part <+: c :: after) : part = [] := by
    cases part with
    | nil => rfl
    | cons d more =>
      obtain rfl := (List.cons_prefix_cons.mp front).1
      exact absurd (within List.mem_cons_self) free
  constructor
  · intro found
    rw [List.infix_append_iff, List.infix_cons_iff] at found
    obtain within | (front | later) | ⟨first, second, rfl, behind, front⟩ := found
    · exact .inl within
    · rw [empty (List.Subset.refl _) front]
      exact .inl List.nil_infix
    · exact .inr later
    · rw [empty (List.subset_append_right _ _) front, List.append_nil]
      exact .inl behind.isInfix
  · rintro (within | later)
    · exact within.trans (List.prefix_append _ _).isInfix
    · exact later.trans ((List.suffix_cons c after).trans (List.suffix_append _ _)).isInfix

/-- **What stands in front of a text is no part of an occurrence** if the character with which the
pattern starts is not in it. -/
theorem infix_append_iff_of_not_mem {c : α} {front : List α} (free : c ∉ front) (text : List α) :
    c :: pattern <:+: front ++ text ↔ c :: pattern <:+: text := by
  induction front with
  | nil => rfl
  | cons d rest ih =>
    rw [List.mem_cons, not_or] at free
    rw [List.cons_append, List.infix_cons_iff, ih free.2]
    refine or_iff_right fun start => ?_
    exact free.1 (List.cons_prefix_cons.mp start).1

/-! ### Pieces -/

variable {separates : α → Bool} {piece : List α}

/-- A piece stands between separators. -/
def Between (separates : α → Bool) (piece text : List α) : Prop :=
  ∃ first last, separates first = true ∧ separates last = true ∧ first :: (piece ++ [last]) <:+: text

theorem Between.mono {text whole : List α} (between : Between separates piece text)
    (within : text <:+: whole) : Between separates piece whole := by
  obtain ⟨first, last, separatesFirst, separatesLast, found⟩ := between
  exact ⟨first, last, separatesFirst, separatesLast, found.trans within⟩

/-- No piece reaches over a character that is no separator and not in the piece. -/
theorem between_append_cons_iff {c : α} (other : separates c = false) (free : c ∉ piece)
    (before after : List α) :
    Between separates piece (before ++ c :: after) ↔
      Between separates piece before ∨ Between separates piece after := by
  have absent {first last : α} (separatesFirst : separates first = true)
      (separatesLast : separates last = true) : c ∉ first :: (piece ++ [last]) := by
    have ends : ∀ edge, separates edge = true → c ≠ edge := by
      rintro _ separating rfl
      exact Bool.false_ne_true (other.symm.trans separating)
    simp [ends first separatesFirst, ends last separatesLast, free]
  constructor
  · rintro ⟨first, last, separatesFirst, separatesLast, found⟩
    rcases (infix_append_cons_iff (absent separatesFirst separatesLast) _ _).mp found with here | later
    · exact .inl ⟨first, last, separatesFirst, separatesLast, here⟩
    · exact .inr ⟨first, last, separatesFirst, separatesLast, later⟩
  · rintro (here | later)
    · exact here.mono (List.prefix_append _ _).isInfix
    · exact later.mono ((List.suffix_cons c after).trans (List.suffix_append _ _)).isInfix

/-- The induction is on the text behind a run without separators, which is what the next piece starts
with. -/
theorem between_of_mem_splitOnP (run text : List α) (free : ∀ c ∈ run, separates c = false)
    (listed : piece ∈ (run ++ text).splitOnP separates) {first last : α}
    (separatesFirst : separates first = true) (separatesLast : separates last = true) :
    Between separates piece (first :: (run ++ text ++ [last])) := by
  induction text generalizing run first with
  | nil =>
    rw [List.append_nil] at listed ⊢
    rw [List.splitOnP_eq_singleton free, List.mem_singleton] at listed
    exact ⟨first, last, separatesFirst, separatesLast, listed ▸ List.infix_refl _⟩
  | cons c rest ih =>
    by_cases separating : separates c = true
    · rw [List.splitOnP_append_cons_of_forall_mem free c separating, List.mem_cons] at listed
      obtain rfl | later := listed
      · refine ⟨first, c, separatesFirst, separating, [], rest ++ [last], ?_⟩
        simp
      · have behind := ih [] (List.forall_mem_nil _) later separating
        refine behind.mono (List.IsSuffix.isInfix ⟨first :: run, ?_⟩)
        simp
    · have grown : ∀ d ∈ run ++ [c], separates d = false :=
        List.forall_mem_append.mpr ⟨free, by simpa using separating⟩
      have spelled : run ++ c :: rest = run ++ [c] ++ rest := List.append_cons run c rest
      rw [spelled] at listed ⊢
      exact ih _ grown listed separatesFirst

/-- **A visible piece is listed exactly if it stands between separators.** -/
theorem mem_splitOnP_iff (visible : piece ≠ []) (free : ∀ c ∈ piece, separates c = false)
    {first last : α} (separatesFirst : separates first = true) (separatesLast : separates last = true)
    (text : List α) :
    piece ∈ text.splitOnP separates ↔ Between separates piece (first :: (text ++ [last])) := by
  constructor
  · intro listed
    exact between_of_mem_splitOnP [] text (List.forall_mem_nil _) listed separatesFirst separatesLast
  · rintro ⟨left, right, separatesLeft, separatesRight, before, after, whole⟩
    have empty : [].splitOnP separates = [[]] := List.splitOnP_eq_singleton (List.forall_mem_nil _)
    have outer : (first :: (text ++ [last])).splitOnP separates =
        [] :: (text.splitOnP separates ++ [[]]) := by
      rw [← List.nil_append (first :: _), List.splitOnP_append_cons [] _ separatesFirst,
        List.splitOnP_append_cons text [] separatesLast, empty, List.singleton_append]
    have inner : (first :: (text ++ [last])).splitOnP separates =
        before.splitOnP separates ++ (piece :: after.splitOnP separates) := by
      have spelled : first :: (text ++ [last]) = before ++ left :: (piece ++ right :: after) := by
        simp [← whole]
      rw [spelled, List.splitOnP_append_cons before _ separatesLeft,
        List.splitOnP_append_cons_of_forall_mem free right separatesRight]
    have listed : piece ∈ [] :: (text.splitOnP separates ++ [[]]) := by
      rw [← outer, inner]
      exact List.mem_append_right _ List.mem_cons_self
    simpa [visible] using listed

end SchemaDump.Text
