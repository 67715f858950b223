/-
**The words of a text.**

* `words_append`: a text that starts visibly starts with a word, which ends in front of the next blank,
  and **`words_append_margin`**: blanks keep the words of two texts apart;
* `words_lowercase`: words do not depend on letter case;
* `spaced`: a text with its words one space apart. It is the text itself if it holds no blank, and
  **`exists_spaced_append`**: else each run of blanks between visible characters becomes another one.
-/

import SchemaDump.Text.Blank
import Mathlib.Data.List.TakeWhile

namespace SchemaDump.Text

/-- Not a blank. -/
def isVisible (c : Char) : Bool := !isBlank c

theorem isVisible_eq_true {c : Char} : isVisible c = true ↔ isBlank c = false := by
  rw [isVisible, Bool.not_eq_true']

/-- The printable characters of ASCII are visible, the space apart. -/
theorem not_isBlank_of_range {c : Char} (above : 0x20 < c.toNat) (below : c.toNat < 0x7F) :
    isBlank c = false := by
  simp only [isBlank, Bool.or_eq_false_iff, Bool.and_eq_false_iff, decide_eq_false_iff_not,
    beq_eq_false_iff_ne]
  omega

/-! ### Where words end -/

theorem words_nil : words [] = [] := by
  rw [words, List.splitOnP_nil]
  rfl

theorem words_append_blank {c : Char} (blank : isBlank c = true) (before after : List Char) :
    words (before ++ c :: after) = words before ++ words after := by
  rw [words, List.splitOnP_append_cons before after blank, List.filter_append, words, words]

theorem words_of_visible {text : List Char} (visible : ∀ c ∈ text, isBlank c = false)
    (some : text ≠ []) : words text = [text] := by
  rw [words, List.splitOnP_eq_singleton visible, List.filter_cons_of_pos (by simpa using some),
    List.filter_nil]

theorem eq_of_mem_words {text word : List Char} (visible : ∀ c ∈ text, isBlank c = false)
    (listed : word ∈ words text) : word = text := by
  by_cases empty : text = []
  · rw [empty, words_nil] at listed
    exact absurd listed List.not_mem_nil
  · rw [words_of_visible visible empty] at listed
    exact List.mem_singleton.mp listed

theorem words_margin_append {margin : List Char} (blank : ∀ c ∈ margin, isBlank c = true)
    (text : List Char) : words (margin ++ text) = words text := by
  induction margin with
  | nil => rfl
  | cons c more ih =>
    rw [List.forall_mem_cons] at blank
    have front := words_append_blank blank.1 [] (more ++ text)
    rw [words_nil, List.nil_append, List.nil_append] at front
    rw [List.cons_append, front, ih blank.2]

/-- **Blanks keep the words of two texts apart.** -/
theorem words_append_margin {margin : List Char} (blank : ∀ c ∈ margin, isBlank c = true)
    (apart : margin ≠ []) (before after : List Char) :
    words (before ++ (margin ++ after)) = words before ++ words after := by
  cases margin with
  | nil => exact absurd rfl apart
  | cons c more =>
    rw [List.forall_mem_cons] at blank
    rw [List.cons_append, words_append_blank blank.1, words_margin_append blank.2]

theorem words_append_blanks {margin : List Char} (blank : ∀ c ∈ margin, isBlank c = true)
    (text : List Char) : words (text ++ margin) = words text := by
  by_cases apart : margin = []
  · rw [apart, List.append_nil]
  · have last := words_append_margin blank apart text []
    rwa [List.append_nil, words_nil, List.append_nil] at last

/-- **A text that starts visibly starts with a word**, and what is left behind the word holds the others. -/
theorem words_append {front : List Char} (visible : ∀ c ∈ front, isBlank c = false)
    (some : front ≠ []) (text : List Char) :
    words (front ++ text) =
      (front ++ text.takeWhile isVisible) :: words (text.dropWhile isVisible) := by
  have word : words (front ++ text.takeWhile isVisible) = [front ++ text.takeWhile isVisible] := by
    refine words_of_visible (List.forall_mem_append.mpr ⟨visible, fun c found => ?_⟩) (by simp [some])
    exact isVisible_eq_true.mp (List.mem_takeWhile_imp found)
  have whole : front ++ text =
      front ++ text.takeWhile isVisible ++ text.dropWhile isVisible := by
    rw [List.append_assoc, List.takeWhile_append_dropWhile]
  rw [whole]
  cases left : text.dropWhile isVisible with
  | nil => rw [List.append_nil, word, words_nil]
  | cons c rest =>
    have blank : isBlank c = true := by
      have stops := List.head?_dropWhile_not isVisible text
      rw [left] at stops
      simpa [isVisible] using stops
    have front := words_append_blank blank [] rest
    rw [words_nil, List.nil_append, List.nil_append] at front
    rw [words_append_blank blank, word, front, List.singleton_append]

/-- The words are cut out of a text from the left. -/
theorem words_cons_visible {c : Char} (visible : isBlank c = false) (rest : List Char) :
    words (c :: rest) = (c :: rest.takeWhile isVisible) :: words (rest.dropWhile isVisible) := by
  have front : ∀ d ∈ [c], isBlank d = false := List.forall_mem_singleton.mpr visible
  exact words_append front (List.cons_ne_nil c []) rest

theorem words_cons_blank {c : Char} (blank : isBlank c = true) (rest : List Char) :
    words (c :: rest) = words rest := by
  have margin : ∀ d ∈ [c], isBlank d = true := List.forall_mem_singleton.mpr blank
  exact words_margin_append margin rest

/-- **A text is empty, or starts with a blank, or with a word.** -/
@[elab_as_elim]
theorem byWords {motive : List Char → Prop} (empty : motive [])
    (blank : ∀ c rest, isBlank c = true → motive rest → motive (c :: rest))
    (word : ∀ c rest, isBlank c = false → motive (rest.dropWhile isVisible) → motive (c :: rest))
    (text : List Char) : motive text := by
  cases text with
  | nil => exact empty
  | cons c rest =>
    cases kind : isBlank c with
    | true => exact blank c rest kind (byWords empty blank word rest)
    | false =>
      have shorter : (rest.dropWhile isVisible).length < rest.length + 1 :=
        Nat.lt_succ_of_le (List.dropWhile_suffix isVisible).length_le
      exact word c rest kind (byWords empty blank word (rest.dropWhile isVisible))
termination_by text.length

theorem subset_of_mem_words {text word : List Char} (listed : word ∈ words text) : word ⊆ text := by
  induction text using byWords with
  | empty =>
    rw [words_nil] at listed
    exact absurd listed List.not_mem_nil
  | blank c rest blank ih =>
    rw [words_cons_blank blank] at listed
    exact List.subset_cons_of_subset c (ih listed)
  | word c rest visible ih =>
    rw [words_cons_visible visible, List.mem_cons] at listed
    rcases listed with rfl | later
    · exact List.cons_subset_cons c (List.takeWhile_subset isVisible)
    · exact List.subset_cons_of_subset c (List.Subset.trans (ih later) (List.dropWhile_subset isVisible))

theorem visible_of_mem_words {text word : List Char} (listed : word ∈ words text) :
    ∀ c ∈ word, isBlank c = false := by
  induction text using byWords with
  | empty =>
    rw [words_nil] at listed
    exact absurd listed List.not_mem_nil
  | blank c rest blank ih =>
    rw [words_cons_blank blank] at listed
    exact ih listed
  | word c rest visible ih =>
    rw [words_cons_visible visible, List.mem_cons] at listed
    rcases listed with rfl | later
    · refine List.forall_mem_cons.mpr ⟨visible, fun d found => ?_⟩
      exact isVisible_eq_true.mp (List.mem_takeWhile_imp found)
    · exact ih later

/-! ### Letter case -/

theorem toLower_of_not_isUpper {c : Char} (other : c.isUpper = false) : c.toLower = c := by
  unfold Char.toLower
  rw [dif_neg]
  exact of_decide_eq_false other

theorem toNat_toLower_of_isUpper {c : Char} (upper : c.isUpper = true) :
    c.toLower.toNat = c.toNat + 32 ∧ 65 ≤ c.toNat ∧ c.toNat ≤ 90 := by
  have range : c.val ≥ 'A'.val ∧ c.val ≤ 'Z'.val := of_decide_eq_true upper
  have above : 65 ≤ c.val.toNat := UInt32.le_iff_toNat_le.mp range.1
  have below : c.val.toNat ≤ 90 := UInt32.le_iff_toNat_le.mp range.2
  have sum : (c.val + 32).toNat = c.val.toNat + 32 :=
    (UInt32.toNat_add c.val 32).trans (Nat.mod_eq_of_lt (show c.val.toNat + 32 < 2 ^ 32 by omega))
  refine ⟨?_, above, below⟩
  unfold Char.toLower
  rw [dif_pos range]
  exact sum

theorem isBlank_toLower (c : Char) : isBlank c.toLower = isBlank c := by
  cases upper : c.isUpper with
  | false => rw [toLower_of_not_isUpper upper]
  | true =>
    obtain ⟨lower, above, below⟩ := toNat_toLower_of_isUpper upper
    rw [not_isBlank_of_range (by omega) (by omega), not_isBlank_of_range (by omega) (by omega)]

theorem isVisible_comp_toLower : isVisible ∘ Char.toLower = isVisible := by
  funext c
  rw [Function.comp_apply, isVisible, isBlank_toLower, isVisible]

/-- **Small letters make the same words.** -/
theorem words_lowercase (text : List Char) : words (lowercase text) = (words text).map lowercase := by
  induction text using byWords with
  | empty => rw [lowercase, List.map_nil, words_nil, List.map_nil]
  | blank c rest blank ih =>
    rw [lowercase, List.map_cons, words_cons_blank ((isBlank_toLower c).trans blank),
      words_cons_blank blank]
    exact ih
  | word c rest visible ih =>
    rw [lowercase, List.map_cons, words_cons_visible ((isBlank_toLower c).trans visible),
      words_cons_visible visible, List.map_cons, List.takeWhile_map, List.dropWhile_map,
      isVisible_comp_toLower]
    exact congrArg _ ih

/-! ### One space between words -/

/-- The words of the text with one space between. -/
def spaced (text : List Char) : List Char := [' '].intercalate (words text)

theorem intercalate_append_cons (between front word : List Char) (more : List (List Char)) :
    between.intercalate ((front ++ word) :: more) = front ++ between.intercalate (word :: more) := by
  cases more with
  | nil => rw [List.intercalate_singleton, List.intercalate_singleton]
  | cons next later => simp only [List.intercalate_cons_cons, List.append_assoc]

theorem spaced_of_visible {text : List Char} (visible : ∀ c ∈ text, isBlank c = false) :
    spaced text = text := by
  by_cases empty : text = []
  · rw [empty, spaced, words_nil]
    rfl
  · rw [spaced, words_of_visible visible empty, List.intercalate_singleton]

theorem exists_spaced_cons {c : Char} (visible : isBlank c = false) (rest : List Char) :
    ∃ more, spaced (c :: rest) = c :: more :=
  ⟨_, by rw [spaced, words_cons_visible visible]; exact intercalate_append_cons [' '] [c] _ _⟩

/-- **Blanks between visible characters become other blanks**, and what is in front of them stays. -/
theorem exists_spaced_append {front margin : List Char} (visible : ∀ c ∈ front, isBlank c = false)
    (some : front ≠ []) (blank : ∀ c ∈ margin, isBlank c = true) {c : Char}
    (next : isBlank c = false) (rest : List Char) :
    ∃ gap, (∀ d ∈ gap, isBlank d = true) ∧
      spaced (front ++ (margin ++ c :: rest)) = front ++ (gap ++ spaced (c :: rest)) := by
  by_cases apart : margin = []
  · refine ⟨[], List.forall_mem_nil _, ?_⟩
    rw [apart, List.nil_append, List.nil_append, spaced, spaced, words_append visible some,
      words_cons_visible next, List.takeWhile_cons_of_pos (isVisible_eq_true.mpr next),
      List.dropWhile_cons_of_pos (isVisible_eq_true.mpr next), intercalate_append_cons]
  · refine ⟨[' '], List.forall_mem_singleton.mpr (by decide), ?_⟩
    rw [spaced, spaced, words_append_margin blank apart, words_of_visible visible some,
      words_cons_visible next, List.singleton_append, List.intercalate_cons_cons, List.append_assoc]

end SchemaDump.Text
