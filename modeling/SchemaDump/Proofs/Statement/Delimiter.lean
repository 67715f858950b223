/-
**Walking a line from one quoted name to the next.**

* `quotedNamesFrom line start`: the names that `quotedNameAt` gives, asked again at each place that it
  answers. It ends, because each answer lies behind the last (`quotedNameAt_lt`).
* `quotedNamesIn text`: the same walk on characters, and `quotedNamesFrom_eq` between the two.
* `ofLine?_eq_slice`: a column line by the place behind its first name;
* **`length_quotedNamesIn`**: there is a name for every two backticks.
-/

import SchemaDump.Proofs.Text.Offset
import SchemaDump.Statement.ColumnLine
import SchemaDump.Statement.Delimiter

namespace SchemaDump

open SchemaDump.Text

/-! ### The first two backticks -/

theorem cutDelimiter?_eq_some_iff {text before after : List Char} :
    cutDelimiter? text = some (before, after) ↔
      text = before ++ backtick :: after ∧ backtick ∉ before := by
  induction text generalizing before with
  | nil => simp [cutDelimiter?]
  | cons c rest ih =>
    by_cases same : c = backtick
    · rw [cutDelimiter?, if_pos same, Option.some.injEq, Prod.mk.injEq]
      constructor
      · rintro ⟨rfl, rfl⟩
        exact ⟨by rw [same, List.nil_append], List.not_mem_nil⟩
      · rintro ⟨cut, free⟩
        cases before with
        | nil => exact ⟨rfl, (List.cons.inj cut).2⟩
        | cons d more =>
          rw [← (List.cons.inj cut).1, same] at free
          exact absurd List.mem_cons_self free
    · rw [cutDelimiter?, if_neg same]
      simp only [Option.map_eq_some_iff, Prod.exists, Prod.mk.injEq]
      constructor
      · rintro ⟨front, _, found, rfl, rfl⟩
        obtain ⟨rfl, free⟩ := ih.mp found
        exact ⟨rfl, by simp [free, Ne.symm same]⟩
      · rintro ⟨cut, free⟩
        cases before with
        | nil => exact absurd (List.cons.inj cut).1 same
        | cons d more =>
          obtain ⟨rfl, rfl⟩ := List.cons.inj cut
          exact ⟨more, after, ih.mpr ⟨rfl, fun found => free (List.mem_cons_of_mem _ found)⟩, rfl, rfl⟩

theorem cutDelimiter?_eq_none_iff {text : List Char} :
    cutDelimiter? text = none ↔ backtick ∉ text := by
  induction text with
  | nil => simp [cutDelimiter?]
  | cons c rest ih =>
    by_cases same : c = backtick
    · simp [cutDelimiter?, same]
    · simp [cutDelimiter?, same, ih, Ne.symm same]

theorem cutQuotedName?_eq_some_iff {text : List Char} {cut : QuotedCut} :
    cutQuotedName? text = some cut ↔
      text = cut.before ++ backtick :: (cut.name ++ backtick :: cut.after) ∧
        backtick ∉ cut.before ∧ backtick ∉ cut.name := by
  simp only [cutQuotedName?, Option.bind_eq_bind, Option.bind_eq_some_iff, Prod.exists,
    cutDelimiter?_eq_some_iff, Option.pure_def, Option.some.injEq]
  constructor
  · rintro ⟨before, opened, ⟨rfl, free⟩, name, after, ⟨rfl, freeName⟩, rfl⟩
    exact ⟨rfl, free, freeName⟩
  · rintro ⟨rfl, free, freeName⟩
    exact ⟨_, _, ⟨rfl, free⟩, _, _, ⟨rfl, freeName⟩, rfl⟩

theorem cutQuotedName?_append {before name : List Char} (free : backtick ∉ before)
    (freeName : backtick ∉ name) (after : List Char) :
    cutQuotedName? (before ++ backtick :: (name ++ backtick :: after)) = some ⟨before, name, after⟩ :=
  cutQuotedName?_eq_some_iff.mpr ⟨rfl, free, freeName⟩

theorem cutQuotedName?_eq_none_iff {text : List Char} :
    cutQuotedName? text = none ↔ text.count backtick < 2 := by
  cases opened : cutDelimiter? text with
  | none =>
    have free := List.count_eq_zero_of_not_mem (cutDelimiter?_eq_none_iff.mp opened)
    simp [cutQuotedName?, opened, free]
  | some pair =>
    obtain ⟨before, after⟩ := pair
    obtain ⟨rfl, free⟩ := cutDelimiter?_eq_some_iff.mp opened
    have one := List.count_eq_zero_of_not_mem free
    rw [List.count_append, List.count_cons_self, one]
    cases closed : cutDelimiter? after with
    | none =>
      have none := List.count_eq_zero_of_not_mem (cutDelimiter?_eq_none_iff.mp closed)
      simp [cutQuotedName?, opened, closed, none]
    | some pair =>
      obtain ⟨name, rest⟩ := pair
      obtain ⟨rfl, freeName⟩ := cutDelimiter?_eq_some_iff.mp closed
      rw [List.count_append, List.count_cons_self]
      constructor
      · intro found
        simp [cutQuotedName?, opened, closed] at found
      · intro few
        omega

/-! ### The walk on characters -/

theorem length_after_lt {text : List Char} {cut : QuotedCut} (found : cutQuotedName? text = some cut) :
    cut.after.length < text.length := by
  rw [(cutQuotedName?_eq_some_iff.mp found).1]
  simp only [List.length_append, List.length_cons]
  omega

/-- The names between every two backticks, from the left. -/
def quotedNamesIn (text : List Char) : List String :=
  match _found : cutQuotedName? text with
  | some cut => String.ofList cut.name :: quotedNamesIn cut.after
  | none => []
termination_by text.length
decreasing_by exact length_after_lt _found

theorem quotedNamesIn_eq (text : List Char) :
    quotedNamesIn text =
      match cutQuotedName? text with
      | some cut => String.ofList cut.name :: quotedNamesIn cut.after
      | none => [] := by
  rw [quotedNamesIn]
  split
  · next found => rw [found]
  · next found => rw [found]

theorem quotedNamesIn_name {before name : List Char} (free : backtick ∉ before)
    (freeName : backtick ∉ name) (after : List Char) :
    quotedNamesIn (before ++ backtick :: (name ++ backtick :: after)) =
      String.ofList name :: quotedNamesIn after := by
  rw [quotedNamesIn_eq, cutQuotedName?_append free freeName]

/-- **There is a name for every two backticks.** -/
theorem length_quotedNamesIn (text : List Char) :
    (quotedNamesIn text).length = text.count backtick / 2 := by
  fun_induction quotedNamesIn text with
  | case1 text cut found ih =>
    obtain ⟨whole, free, freeName⟩ := cutQuotedName?_eq_some_iff.mp found
    rw [List.length_cons, ih, whole, List.count_append, List.count_cons_self, List.count_append,
      List.count_cons_self, List.count_eq_zero_of_not_mem free, List.count_eq_zero_of_not_mem freeName]
    omega
  | case2 text found =>
    have few := cutQuotedName?_eq_none_iff.mp found
    rw [List.length_nil]
    omega

/-! ### The walk on places -/

theorem quotedNameAt_eq {line : String} {start : Nat} {text : List Char}
    (left : dropBytes? start line.toList = some text) :
    quotedNameAt line start = (cutQuotedName? text).map fun cut => (String.ofList cut.name,
      start + byteSize cut.before + backtick.utf8Size + byteSize cut.name + backtick.utf8Size) := by
  simp only [quotedNameAt, left, Option.bind_eq_bind, Option.bind_some, Option.pure_def]
  cases cutQuotedName? text <;> rfl

theorem utf8Size_backtick : backtick.utf8Size = 1 := by decide

section Cut

variable {line : String} {start : Nat} {text : List Char} {cut : QuotedCut}
  (left : dropBytes? start line.toList = some text) (found : cutQuotedName? text = some cut)

include left found

theorem quotedNameAt_cut : quotedNameAt line start =
    some (String.ofList cut.name, start + (byteSize cut.before + 1 + byteSize cut.name) + 1) := by
  rw [quotedNameAt_eq left, found, utf8Size_backtick, Option.map_some]
  simp only [Option.some.injEq, Prod.mk.injEq, true_and]
  omega

/-- The text behind the cut starts at the place that is answered. -/
theorem dropBytes?_cut :
    dropBytes? (start + (byteSize cut.before + 1 + byteSize cut.name) + 1) line.toList =
      some cut.after := by
  obtain ⟨front, whole, rfl⟩ := dropBytes?_eq_some_iff.mp left
  refine dropBytes?_eq_some_iff.mpr
    ⟨front ++ (cut.before ++ backtick :: (cut.name ++ [backtick])), ?_, ?_⟩
  · rw [whole, (cutQuotedName?_eq_some_iff.mp found).1]
    simp
  · simp only [byteSize_append, byteSize_cons, byteSize_nil, utf8Size_backtick]
    omega

end Cut

/-- **A column line is read off its first name, and the clause off the slice behind it.** -/
theorem ofLine?_eq_slice (line : String) :
    DeclaredColumn.ofLine? line.toList = (do
      let (name, next) ← quotedNameAt line 0
      let behind ← dropBytes? next line.toList
      some ⟨name, String.ofList (dropFinalComma behind)⟩) := by
  have left : dropBytes? 0 line.toList = some line.toList := by rw [dropBytes?]
  cases found : cutQuotedName? line.toList with
  | none =>
    rw [DeclaredColumn.ofLine?, quotedNameAt_eq left, found]
    rfl
  | some cut =>
    rw [DeclaredColumn.ofLine?, quotedNameAt_cut left found, found]
    have behind := dropBytes?_cut left found
    simp only [Option.map_some, Option.bind_eq_bind, Option.bind_some, behind]

/-- A name that is read is that of a cut of the text left at the place. -/
theorem exists_cut {line : String} {start : Nat} {reading : String × Nat}
    (found : quotedNameAt line start = some reading) :
    ∃ text cut, dropBytes? start line.toList = some text ∧ cutQuotedName? text = some cut := by
  cases left : dropBytes? start line.toList with
  | none => simp [quotedNameAt, left] at found
  | some text =>
    rw [quotedNameAt_eq left, Option.map_eq_some_iff] at found
    obtain ⟨cut, read, -⟩ := found
    exact ⟨text, cut, rfl, read⟩

/-- A name ends behind the place where it was looked for, and in the line. -/
theorem quotedNameAt_lt {line name : String} {start next : Nat}
    (found : quotedNameAt line start = some (name, next)) :
    start < next ∧ next ≤ byteSize line.toList := by
  obtain ⟨text, cut, left, read⟩ := exists_cut found
  rw [quotedNameAt_cut left read] at found
  obtain ⟨-, rfl⟩ := Prod.mk.inj (Option.some.inj found)
  obtain ⟨front, whole, sized⟩ := dropBytes?_eq_some_iff.mp (dropBytes?_cut left read)
  rw [whole, byteSize_append]
  omega

/-- The names that the walk comes by, started at the given place. -/
def quotedNamesFrom (line : String) (start : Nat) : List String :=
  match _found : quotedNameAt line start with
  | some (name, next) => name :: quotedNamesFrom line next
  | none => []
termination_by byteSize line.toList - start
decreasing_by
  have := quotedNameAt_lt _found
  omega

/-- **Walking by places and walking by characters come by the same names.** -/
theorem quotedNamesFrom_eq {line : String} {start : Nat} {text : List Char}
    (left : dropBytes? start line.toList = some text) :
    quotedNamesFrom line start = quotedNamesIn text := by
  fun_induction quotedNamesIn text generalizing start with
  | case1 text cut found ih =>
    rw [quotedNamesFrom, quotedNameAt_cut left found]
    exact congrArg (String.ofList cut.name :: ·) (ih (dropBytes?_cut left found))
  | case2 text found =>
    have here := quotedNameAt_eq left
    rw [found, Option.map_none] at here
    rw [quotedNamesFrom, here]

theorem quotedNamesFrom_zero (line : List Char) :
    quotedNamesFrom (String.ofList line) 0 = quotedNamesIn line :=
  quotedNamesFrom_eq (by rw [String.toList_ofList, dropBytes?])

end SchemaDump
