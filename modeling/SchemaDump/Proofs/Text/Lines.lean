/-
**Lines and margins of a written text.**

* `lines_append_lineFeed`, `lines_of_free`: text without line feeds is one line, and a line feed ends it;
* `lines_append`, `length_lines`, `lines_lineFeed`: two texts set apart by a line feed have the lines of
  both, and the first has one line for each line feed;
* `lines_flatMap`, `flatMap_lines`: a text that ends in a line feed is its lines, each with a line feed;
* `lines_intercalate`: texts without line feeds, joined by them, are the lines;
* `trim_margins`: trimming takes the blanks around a text and stops at its first and last visible
  character.
-/

import SchemaDump.Text.Blank

namespace SchemaDump.Text

/-! ### Lines -/

theorem lines_append_lineFeed {line : List Char} (free : lineFeed ∉ line) (rest : List Char) :
    lines (line ++ lineFeed :: rest) = line :: lines rest := by
  induction line with
  | nil => rw [List.nil_append, lines, if_pos rfl]
  | cons c more ih =>
    simp only [List.mem_cons, not_or] at free
    rw [List.cons_append, lines, if_neg (Ne.symm free.1), ih free.2]

theorem lines_of_free {line : List Char} (free : lineFeed ∉ line) (some : line ≠ []) :
    lines line = [line] := by
  induction line with
  | nil => exact absurd rfl some
  | cons c more ih =>
    simp only [List.mem_cons, not_or] at free
    rw [lines, if_neg (Ne.symm free.1)]
    cases more with
    | nil => rfl
    | cons d rest => rw [ih free.2 (List.cons_ne_nil d rest)]

/-- **A text is one line, or a line in front of a line feed and another text.** -/
@[elab_as_elim]
theorem byLines {motive : List Char → Prop} (last : ∀ line, lineFeed ∉ line → motive line)
    (next : ∀ line rest, lineFeed ∉ line → motive rest → motive (line ++ lineFeed :: rest))
    (text : List Char) : motive text := by
  by_cases more : lineFeed ∈ text
  · obtain ⟨line, rest, cut, free⟩ := List.eq_append_cons_of_mem more
    have shorter : rest.length < text.length := by
      rw [cut, List.length_append, List.length_cons]
      omega
    rw [cut]
    exact next line rest free (byLines last next rest)
  · exact last text more
termination_by text.length

/-- **A line feed keeps the lines of two texts apart.** -/
theorem lines_append (first second : List Char) :
    lines (first ++ lineFeed :: second) = lines (first ++ [lineFeed]) ++ lines second := by
  induction first using byLines with
  | last line free => rw [lines_append_lineFeed free, lines_append_lineFeed free]; rfl
  | next line rest free ih =>
    rw [List.append_assoc, List.append_assoc, List.cons_append, List.cons_append,
      lines_append_lineFeed free, lines_append_lineFeed free, ih, List.cons_append]

/-- A text that ends in a line feed has a line for each of its line feeds. -/
theorem length_lines (text : List Char) :
    (lines (text ++ [lineFeed])).length = text.count lineFeed + 1 := by
  induction text using byLines with
  | last line free =>
    rw [lines_append_lineFeed free, List.count_eq_zero.mpr free]
    rfl
  | next line rest free ih =>
    rw [List.append_assoc, List.cons_append, lines_append_lineFeed free, List.length_cons, ih,
      List.count_append, List.count_eq_zero.mpr free, List.count_cons_self, Nat.zero_add]

/-- A line feed at the end adds no line, or one that is empty. -/
theorem lines_lineFeed (text : List Char) :
    lines (text ++ [lineFeed]) = lines text ∨ lines (text ++ [lineFeed]) = lines text ++ [[]] := by
  induction text using byLines with
  | last line free =>
    rw [lines_append_lineFeed free]
    by_cases empty : line = []
    · exact .inr (by rw [empty]; rfl)
    · exact .inl (lines_of_free free empty).symm
  | next line rest free ih =>
    rw [List.append_assoc, List.cons_append, lines_append_lineFeed free, lines_append_lineFeed free,
      List.cons_append]
    exact ih.imp (congrArg (line :: ·)) (congrArg (line :: ·))

theorem lineFeed_not_mem_of_mem_lines {text line : List Char} (listed : line ∈ lines text) :
    lineFeed ∉ line := by
  induction text using byLines with
  | last last free =>
    by_cases empty : last = []
    · rw [empty] at listed
      exact absurd listed List.not_mem_nil
    · rw [lines_of_free free empty] at listed
      exact List.mem_singleton.mp listed ▸ free
  | next first rest free ih =>
    rw [lines_append_lineFeed free] at listed
    rcases List.mem_cons.mp listed with rfl | later
    · exact free
    · exact ih later

theorem not_mem_intercalate {c : Char} {between : List Char} (plain : c ∉ between)
    {texts : List (List Char)} (free : ∀ text ∈ texts, c ∉ text) : c ∉ between.intercalate texts := by
  induction texts with
  | nil => simp
  | cons text rest ih =>
    rw [List.forall_mem_cons] at free
    cases rest with
    | nil => simpa using free.1
    | cons next more =>
      rw [List.intercalate_cons_cons, List.mem_append, List.mem_append, not_or, not_or]
      exact ⟨⟨free.1, plain⟩, ih free.2⟩

theorem lines_intercalate {texts : List (List Char)} (free : ∀ text ∈ texts, lineFeed ∉ text)
    (some : texts ≠ []) : lines ([lineFeed].intercalate texts ++ [lineFeed]) = texts := by
  induction texts with
  | nil => exact absurd rfl some
  | cons text rest ih =>
    rw [List.forall_mem_cons] at free
    cases rest with
    | nil => exact (congrArg lines (by simp)).trans (lines_append_lineFeed free.1 [])
    | cons next more =>
      rw [List.intercalate_cons_cons, List.append_assoc, List.append_assoc, List.singleton_append,
        lines_append_lineFeed free.1, ih free.2 (List.cons_ne_nil next more)]

theorem flatMap_lines (text : List Char) :
    (lines (text ++ [lineFeed])).flatMap (· ++ [lineFeed]) = text ++ [lineFeed] := by
  induction text using byLines with
  | last line free => rw [lines_append_lineFeed free]; simp [lines]
  | next line rest free ih =>
    rw [List.append_assoc, List.cons_append, lines_append_lineFeed free, List.flatMap_cons, ih]
    simp

/-- **Texts that each end in a line feed have the lines of each, one text after the other.** -/
theorem lines_flatMap (texts : List (List Char)) :
    lines (texts.flatMap (· ++ [lineFeed])) = texts.flatMap fun text => lines (text ++ [lineFeed]) := by
  induction texts with
  | nil => rfl
  | cons text rest ih =>
    rw [List.flatMap_cons, List.append_assoc, List.singleton_append, lines_append, ih, List.flatMap_cons]

/-! ### Margins -/

theorem trim_sublist (text : List Char) : (trim text).Sublist text := by
  have atEnd (part : List Char) : (trimEnd part).Sublist part := by
    have turned := (List.dropWhile_sublist (l := part.reverse) isBlank).reverse
    rwa [List.reverse_reverse] at turned
  exact (atEnd _).trans (List.dropWhile_sublist isBlank)

theorem trimEnd_append_blanks (text : List Char) {margin : List Char}
    (blank : ∀ c ∈ margin, isBlank c = true) : trimEnd (text ++ margin) = trimEnd text := by
  have blankBack : ∀ c ∈ margin.reverse, isBlank c = true := fun c found =>
    blank c (List.mem_reverse.mp found)
  rw [trimEnd, List.reverse_append, List.dropWhile_append_of_pos blankBack, trimEnd]

/-- Trimming the end stops at a visible character. -/
theorem trimEnd_append_cons (front : List Char) {c : Char} (visible : isBlank c = false)
    (rest : List Char) : trimEnd (front ++ c :: rest) = front ++ c :: trimEnd rest := by
  have stops : (rest.reverse ++ c :: front.reverse).dropWhile isBlank =
      rest.reverse.dropWhile isBlank ++ c :: front.reverse := by
    rw [List.dropWhile_append]
    split
    · next gone =>
      rw [List.isEmpty_iff.mp gone, List.dropWhile_cons_of_neg (by simp [visible]), List.nil_append]
    · rfl
  rw [trimEnd, List.reverse_append, List.reverse_cons, List.append_assoc, List.singleton_append, stops,
    List.reverse_append, List.reverse_cons, List.reverse_reverse, List.append_assoc,
    List.singleton_append, trimEnd]

theorem trimEnd_of_visible {text : List Char} (visible : ∀ c ∈ text.getLast?, isBlank c = false) :
    trimEnd text = text := by
  cases last : text.getLast? with
  | none =>
    rw [List.getLast?_eq_none_iff.mp last]
    rfl
  | some c =>
    obtain ⟨front, rfl⟩ := List.getLast?_eq_some_iff.mp last
    exact trimEnd_append_cons front (visible c last) []

/-- **Trimming takes the margins of a text that starts with a visible character.** -/
theorem trim_margins {before after : List Char} (blankBefore : ∀ c ∈ before, isBlank c = true)
    (blankAfter : ∀ c ∈ after, isBlank c = true) {c : Char} (visible : isBlank c = false)
    (rest : List Char) : trim (before ++ (c :: rest ++ after)) = trimEnd (c :: rest) := by
  rw [trim, trimStart, List.dropWhile_append_of_pos blankBefore, List.cons_append,
    List.dropWhile_cons_of_neg (by simp [visible]), ← List.cons_append,
    trimEnd_append_blanks _ blankAfter]

theorem trim_visible {c : Char} (visible : isBlank c = false) (rest : List Char) {margin : List Char}
    (blank : ∀ d ∈ margin, isBlank d = true) : trim (c :: rest ++ margin) = trimEnd (c :: rest) := by
  have none : ∀ d ∈ ([] : List Char), isBlank d = true := fun d found => absurd found List.not_mem_nil
  exact trim_margins none blank visible rest

theorem trim_of_visible {text : List Char} (visible : ∀ c ∈ text, isBlank c = false) :
    trim text = text := by
  cases text with
  | nil => rfl
  | cons c rest =>
    have front := trim_visible (visible c List.mem_cons_self) rest (List.forall_mem_nil _)
    rw [List.append_nil] at front
    exact front.trans (trimEnd_of_visible fun d last => visible d (List.mem_of_getLast? last))

/-- A text between visible characters needs no trimming. -/
theorem trim_between {c d : Char} (first : isBlank c = false) (last : isBlank d = false)
    (middle : List Char) : trim (c :: middle ++ [d]) = c :: middle ++ [d] := by
  have none : ∀ d ∈ ([] : List Char), isBlank d = true := fun d found => absurd found List.not_mem_nil
  have front := trim_visible first (middle ++ [d]) none
  rw [List.append_nil] at front
  rw [List.cons_append, front]
  exact trimEnd_append_cons (c :: middle) last []

end SchemaDump.Text
