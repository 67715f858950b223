/-
**Quoted names by the places of their delimiters.**

`delimitersFrom line start` are the offsets of the backticks at or behind an offset. A quoted name is what
stands between the first two of them, and there is none exactly if there are fewer than two, or if the
offset is no place of the line.

* `placesOf_cut`, `textBetween?_cut`: a cut at the first two backticks, by offsets;
* `quotedNameAt_eq_searches`: the name as the outcome of two searches and one slice of the line. The
  slice is never out of range: the line can be cut behind the first backtick found and in front of the
  second;
* `exists_of_getElem?_quotedNamesIn`: a walk pairs the backticks, the first with the second and so on, by
  induction on the walk;
* **`quotedNameAt_pairsDelimiters`**: what is read at every offset, and what a walk comes by.
-/

import SchemaDump.Proofs.Statement.Delimiter
import SchemaDump.Statement.ColumnLine

namespace SchemaDump

open SchemaDump.Text

/-- The offsets of the backticks of the line at or behind the given one. -/
def delimitersFrom (line : String) (start : Nat) : List Nat :=
  (placesOf backtick line.toList).filter (start ≤ ·)

/-! ### A cut by offsets -/

theorem placesOf_cons_backtick (text : List Char) :
    placesOf backtick (backtick :: text) = 0 :: (placesOf backtick text).map (1 + ·) := by
  rw [placesOf, if_pos rfl, utf8Size_backtick]

theorem placesOf_cut {text : List Char} {cut : QuotedCut} (found : cutQuotedName? text = some cut) :
    placesOf backtick text =
      byteSize cut.before :: (byteSize cut.before + 1 + byteSize cut.name) ::
        (placesOf backtick cut.after).map (byteSize cut.before + 1 + byteSize cut.name + 1 + ·) := by
  obtain ⟨whole, free, freeName⟩ := cutQuotedName?_eq_some_iff.mp found
  rw [whole, placesOf_append, placesOf_of_not_mem free, placesOf_cons_backtick, placesOf_append,
    placesOf_of_not_mem freeName, placesOf_cons_backtick]
  simp only [List.nil_append, List.map_cons, List.map_map, Function.comp_def, Nat.add_zero,
    Nat.add_assoc]

theorem textBetween?_cut {text : List Char} {cut : QuotedCut} (found : cutQuotedName? text = some cut) :
    textBetween? (byteSize cut.before + 1) (byteSize cut.before + 1 + byteSize cut.name) text =
      some cut.name := by
  obtain ⟨whole, -, -⟩ := cutQuotedName?_eq_some_iff.mp found
  refine textBetween?_eq_some_iff.mpr ⟨cut.before ++ [backtick], backtick :: cut.after, ?_, ?_, ?_⟩
  · rw [whole]
    simp
  · simp [utf8Size_backtick]
  · simp [utf8Size_backtick, Nat.add_assoc]

theorem delimitersFrom_eq {line : String} {start : Nat} {text : List Char}
    (left : dropBytes? start line.toList = some text) :
    delimitersFrom line start = (placesOf backtick text).map (start + ·) := by
  obtain ⟨front, whole, rfl⟩ := dropBytes?_eq_some_iff.mp left
  rw [delimitersFrom, whole, filter_placesOf]

/-! ### The name at a place -/

/-- The place is one of the line, the two backticks are the first ones from it on, and the text stands
between them. -/
structure FirstPair (line : String) (start opening closing : Nat) (name : List Char) : Prop where
  valid : (String.Pos.Raw.mk start).IsValid line
  first : ∃ more, delimitersFrom line start = opening :: closing :: more
  between : textBetween? (opening + 1) closing line.toList = some name

/-- There is at most one such pair. -/
theorem FirstPair.unique {line : String} {start opening closing other another : Nat}
    {name second : List Char} (one : FirstPair line start opening closing name)
    (two : FirstPair line start other another second) :
    opening = other ∧ closing = another ∧ name = second := by
  obtain ⟨-, ⟨more, first⟩, between⟩ := one
  obtain ⟨-, ⟨others, same⟩, inner⟩ := two
  rw [first, List.cons.injEq, List.cons.injEq] at same
  obtain ⟨rfl, rfl, -⟩ := same
  exact ⟨rfl, rfl, Option.some.inj (between.symm.trans inner)⟩

theorem firstPair_cut {line : String} {start : Nat} {text : List Char} {cut : QuotedCut}
    (left : dropBytes? start line.toList = some text) (found : cutQuotedName? text = some cut) :
    FirstPair line start (start + byteSize cut.before)
      (start + (byteSize cut.before + 1 + byteSize cut.name)) cut.name where
  valid := isValid_iff.mpr ⟨text, left⟩
  first := ⟨_, by rw [delimitersFrom_eq left, placesOf_cut found, List.map_cons, List.map_cons]⟩
  between := by
    obtain ⟨front, whole, rfl⟩ := dropBytes?_eq_some_iff.mp left
    rw [whole, Nat.add_assoc, textBetween?_append, textBetween?_cut found]

/-- **A name is what stands between the first two backticks.** -/
theorem quotedNameAt_eq_some_iff {line name : String} {start next : Nat} :
    quotedNameAt line start = some (name, next) ↔
      ∃ opening closing, FirstPair line start opening closing name.toList ∧ next = closing + 1 := by
  constructor
  · intro read
    obtain ⟨text, cut, left, found⟩ := exists_cut read
    have here := firstPair_cut left found
    rw [quotedNameAt_cut left found] at read
    obtain ⟨rfl, rfl⟩ := Prod.mk.inj (Option.some.inj read)
    rw [String.toList_ofList]
    exact ⟨_, _, here, rfl⟩
  · rintro ⟨opening, closing, pair, rfl⟩
    obtain ⟨text, left⟩ := isValid_iff.mp pair.valid
    cases found : cutQuotedName? text with
    | none =>
      have few := cutQuotedName?_eq_none_iff.mp found
      obtain ⟨more, first⟩ := pair.first
      have lengths := congrArg List.length first
      rw [delimitersFrom_eq left, List.length_map, length_placesOf] at lengths
      simp only [List.length_cons] at lengths
      omega
    | some cut =>
      obtain ⟨-, closed, named⟩ := pair.unique (firstPair_cut left found)
      rw [quotedNameAt_cut left found, ← closed, ← named, String.ofList_toList]

/-- **There is no name where no text is left, and where fewer than two backticks are left.** -/
theorem quotedNameAt_eq_none_iff {line : String} {start : Nat} :
    quotedNameAt line start = none ↔
      ¬ (String.Pos.Raw.mk start).IsValid line ∨ (delimitersFrom line start).length < 2 := by
  cases left : dropBytes? start line.toList with
  | none =>
    have invalid : ¬ (String.Pos.Raw.mk start).IsValid line := by
      rw [isValid_iff, left]
      simp
    simp [quotedNameAt, left, invalid]
  | some text =>
    have valid := isValid_iff.mpr ⟨text, left⟩
    rw [quotedNameAt_eq left, Option.map_eq_none_iff, cutQuotedName?_eq_none_iff, delimitersFrom_eq left,
      List.length_map, length_placesOf]
    exact ⟨.inr, fun few => few.resolve_left (not_not_intro valid)⟩

/-! ### Two searches and a slice -/

theorem nextDelimiter_eq {line : String} {start : Nat} {text : List Char}
    (left : dropBytes? start line.toList = some text) :
    nextDelimiter line start = (cutDelimiter? text).map fun cut => start + byteSize cut.1 := by
  simp only [nextDelimiter, left, Option.bind_eq_bind, Option.bind_some, Option.pure_def]
  cases cutDelimiter? text <;> rfl

/-- The text behind a backtick starts one byte behind it. -/
theorem dropBytes?_cutDelimiter {line : String} {start : Nat} {text before after : List Char}
    (left : dropBytes? start line.toList = some text)
    (found : cutDelimiter? text = some (before, after)) :
    dropBytes? (start + byteSize before + 1) line.toList = some after := by
  obtain ⟨front, whole, rfl⟩ := dropBytes?_eq_some_iff.mp left
  refine dropBytes?_eq_some_iff.mpr ⟨front ++ (before ++ [backtick]), ?_, ?_⟩
  · rw [whole, (cutDelimiter?_eq_some_iff.mp found).1]
    simp
  · simp [utf8Size_backtick, Nat.add_assoc]

theorem nextDelimiter_cut {line : String} {start : Nat} {text : List Char} {cut : QuotedCut}
    (left : dropBytes? start line.toList = some text) (found : cutQuotedName? text = some cut) :
    nextDelimiter line start = some (start + byteSize cut.before) ∧
      nextDelimiter line (start + byteSize cut.before + 1) =
        some (start + (byteSize cut.before + 1 + byteSize cut.name)) := by
  obtain ⟨rfl, free, freeName⟩ := cutQuotedName?_eq_some_iff.mp found
  have opened := cutDelimiter?_eq_some_iff.mpr
    ⟨(rfl : cut.before ++ backtick :: (cut.name ++ backtick :: cut.after) = _), free⟩
  have closed := cutDelimiter?_eq_some_iff.mpr ⟨(rfl : cut.name ++ backtick :: cut.after = _), freeName⟩
  rw [nextDelimiter_eq left, opened, nextDelimiter_eq (dropBytes?_cutDelimiter left opened), closed]
  simp only [Option.map_some, Nat.add_assoc, and_self]

/-- **Two searches come by the first pair, and the line can be sliced between their outcomes.** -/
theorem exists_firstPair {line : String} {start opening closing : Nat}
    (first : nextDelimiter line start = some opening)
    (second : nextDelimiter line (opening + 1) = some closing) :
    ∃ name, FirstPair line start opening closing name := by
  cases left : dropBytes? start line.toList with
  | none => simp [nextDelimiter, left] at first
  | some text =>
    rw [nextDelimiter_eq left, Option.map_eq_some_iff] at first
    obtain ⟨⟨before, behind⟩, opened, rfl⟩ := first
    rw [nextDelimiter_eq (dropBytes?_cutDelimiter left opened), Option.map_eq_some_iff] at second
    obtain ⟨⟨name, after⟩, closed, rfl⟩ := second
    have found : cutQuotedName? text = some ⟨before, name, after⟩ := by
      simp [cutQuotedName?, opened, closed]
    refine ⟨name, ?_⟩
    rw [Nat.add_assoc, Nat.add_assoc, ← Nat.add_assoc (byteSize before)]
    exact firstPair_cut left found

/-- **A name is what stands between the outcomes of two searches.** -/
theorem quotedNameAt_eq_searches (line : String) (start : Nat) :
    quotedNameAt line start = (do
      let opening ← nextDelimiter line start
      let closing ← nextDelimiter line (opening + 1)
      let name ← textBetween? (opening + 1) closing line.toList
      some (String.ofList name, closing + 1)) := by
  ext ⟨name, next⟩
  simp only [Option.bind_eq_bind, Option.bind_eq_some_iff, Option.some.injEq]
  constructor
  · intro read
    obtain ⟨text, cut, left, found⟩ := exists_cut read
    obtain ⟨first, second⟩ := nextDelimiter_cut left found
    exact ⟨_, first, _, second, _, (firstPair_cut left found).between,
      Option.some.inj ((quotedNameAt_cut left found).symm.trans read)⟩
  · rintro ⟨opening, first, closing, second, between, sliced, same⟩
    obtain ⟨rfl, rfl⟩ := Prod.mk.inj same
    obtain ⟨_, pair⟩ := exists_firstPair first second
    obtain rfl := Option.some.inj (sliced.symm.trans pair.between)
    exact quotedNameAt_eq_some_iff.mpr ⟨opening, closing, by rwa [String.toList_ofList], rfl⟩

/-! ### A walk -/

/-- **A walk pairs the backticks, from the left.** The induction is on the walk: the pairs behind its first
name are those of the text that is left. -/
theorem exists_of_getElem?_quotedNamesIn {text : List Char} {index : Nat} {name : String}
    (listed : (quotedNamesIn text)[index]? = some name) :
    ∃ opening closing, (placesOf backtick text)[2 * index]? = some opening ∧
      (placesOf backtick text)[2 * index + 1]? = some closing ∧
      textBetween? (opening + 1) closing text = some name.toList := by
  fun_induction quotedNamesIn text generalizing index with
  | case1 text cut found ih =>
    rw [placesOf_cut found]
    cases index with
    | zero =>
      obtain rfl := Option.some.inj listed
      rw [String.toList_ofList]
      exact ⟨_, _, rfl, rfl, textBetween?_cut found⟩
    | succ index =>
      obtain ⟨opening, closing, first, second, between⟩ := ih listed
      have spelled : text = cut.before ++ backtick :: (cut.name ++ [backtick]) ++ cut.after := by
        rw [(cutQuotedName?_eq_some_iff.mp found).1]
        simp
      have size : byteSize (cut.before ++ backtick :: (cut.name ++ [backtick])) =
          byteSize cut.before + 1 + byteSize cut.name + 1 := by
        simp [utf8Size_backtick]
        omega
      have even : 2 * (index + 1) = 2 * index + 1 + 1 := rfl
      refine ⟨byteSize cut.before + 1 + byteSize cut.name + 1 + opening,
        byteSize cut.before + 1 + byteSize cut.name + 1 + closing, ?_, ?_, ?_⟩
      · rw [even, List.getElem?_cons_succ, List.getElem?_cons_succ, List.getElem?_map, first,
          Option.map_some]
      · rw [even, List.getElem?_cons_succ, List.getElem?_cons_succ, List.getElem?_map, second,
          Option.map_some]
      · rw [spelled, ← size, Nat.add_assoc, textBetween?_append, between]
  | case2 text found => exact absurd listed (Option.some_ne_none _).symm

/-! ### All places of a line -/

/-- What is read at each offset of a line, and what a walk over the line comes by. -/
structure PairsDelimiters (line : String) : Prop where
  /-- There is no name exactly if the offset is no place of the line, or fewer than two backticks stand at
  or behind it. -/
  missing : ∀ start, quotedNameAt line start = none ↔
    ¬ (String.Pos.Raw.mk start).IsValid line ∨ (delimitersFrom line start).length < 2
  /-- Else the name stands between the first two of them, and the answer is the place behind the second. -/
  found : ∀ start name next, quotedNameAt line start = some (name, next) ↔
    ∃ opening closing, FirstPair line start opening closing name.toList ∧ next = closing + 1
  /-- A name holds no backtick. -/
  plain : ∀ start name next, quotedNameAt line start = some (name, next) → backtick ∉ name.toList
  /-- The answer lies behind the offset, and is a place of the line, its end included. -/
  place : ∀ start name next, quotedNameAt line start = some (name, next) →
    start < next ∧ next ≤ line.utf8ByteSize ∧ (String.Pos.Raw.mk next).IsValid line
  /-- The name is a slice of the line between the outcomes of two searches. -/
  searched : ∀ start, quotedNameAt line start = (do
    let opening ← nextDelimiter line start
    let closing ← nextDelimiter line (opening + 1)
    let name ← textBetween? (opening + 1) closing line.toList
    some (String.ofList name, closing + 1))
  /-- This slice is in range. -/
  inRange : ∀ start opening closing, nextDelimiter line start = some opening →
    nextDelimiter line (opening + 1) = some closing →
    ∃ name, textBetween? (opening + 1) closing line.toList = some name
  /-- The clause of a column is the slice of the line behind its first name. -/
  clause : DeclaredColumn.ofLine? line.toList = (do
    let (name, next) ← quotedNameAt line 0
    let behind ← dropBytes? next line.toList
    some ⟨name, String.ofList (dropFinalComma behind)⟩)
  /-- This slice is in range. -/
  clauseInRange : ∀ start name next, quotedNameAt line start = some (name, next) →
    ∃ behind, dropBytes? next line.toList = some behind
  /-- A walk comes by a name for every two backticks of the line. -/
  length : (quotedNamesFrom line 0).length = line.toList.count backtick / 2
  /-- Each of the names stands between two backticks, the first between the first two and so on. -/
  walked : ∀ index name, (quotedNamesFrom line 0)[index]? = some name →
    ∃ opening closing, (placesOf backtick line.toList)[2 * index]? = some opening ∧
      (placesOf backtick line.toList)[2 * index + 1]? = some closing ∧
      textBetween? (opening + 1) closing line.toList = some name.toList

/-- **Delimiters are paired from every place on, and all slices are in range.** -/
theorem quotedNameAt_pairsDelimiters (line : String) : PairsDelimiters line := by
  have walk : quotedNamesFrom line 0 = quotedNamesIn line.toList := by
    have same := quotedNamesFrom_zero line.toList
    rwa [String.ofList_toList] at same
  refine
    { missing := fun start => quotedNameAt_eq_none_iff
      found := fun start name next => quotedNameAt_eq_some_iff
      searched := quotedNameAt_eq_searches line
      inRange := fun start opening closing first second =>
        (exists_firstPair first second).imp fun name pair => pair.between
      clause := ofLine?_eq_slice line
      plain := ?plain, place := ?place, clauseInRange := ?clauseInRange
      length := ?length, walked := ?walked }
  case plain =>
    intro start name next read
    obtain ⟨text, cut, left, found⟩ := exists_cut read
    rw [quotedNameAt_cut left found] at read
    obtain ⟨rfl, -⟩ := Prod.mk.inj (Option.some.inj read)
    rw [String.toList_ofList]
    exact (cutQuotedName?_eq_some_iff.mp found).2.2
  case place =>
    intro start name next read
    obtain ⟨text, cut, left, found⟩ := exists_cut read
    have bounds := quotedNameAt_lt read
    rw [byteSize_eq_utf8ByteSize, String.ofList_toList] at bounds
    rw [quotedNameAt_cut left found] at read
    obtain ⟨-, rfl⟩ := Prod.mk.inj (Option.some.inj read)
    exact ⟨bounds.1, bounds.2, isValid_iff.mpr ⟨_, dropBytes?_cut left found⟩⟩
  case clauseInRange =>
    intro start name next read
    obtain ⟨text, cut, left, found⟩ := exists_cut read
    rw [quotedNameAt_cut left found] at read
    obtain ⟨-, rfl⟩ := Prod.mk.inj (Option.some.inj read)
    exact ⟨_, dropBytes?_cut left found⟩
  case length =>
    rw [walk, length_quotedNamesIn]
  case walked =>
    intro index name listed
    rw [walk] at listed
    exact exists_of_getElem?_quotedNamesIn listed

end SchemaDump
