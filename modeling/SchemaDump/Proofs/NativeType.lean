/-
**Type names as servers and statements spell them.**

A spelling (`TypeSpelling`) is a base of letters, digits and underscores with numerals in parentheses
directly behind it, words of sign in front of it and behind it, blanks between words, around numerals and
at both ends, and each letter small or capital.

* `wordNumeral?_text`: a numeral of any length is read as its value, if that is below `2 ^ 64`;
* `typeWords_text`: the words of sign are dropped, and what is left is the base and the arguments with
  one space for each run of blanks;
* `cutArguments_spaced`: these spaces touch neither the base nor the first numeral;
* **`ofNative_text`**: so all spellings of a base with the same first argument give the same name.
-/

import Mathlib.Algebra.Group.Nat.Defs
import Mathlib.Data.List.Basic
import SchemaDump.NativeType
import SchemaDump.Proofs.Sql.Group
import SchemaDump.Proofs.Sql.Values
import SchemaDump.Proofs.Text.Lines
import SchemaDump.Proofs.Text.Words

namespace SchemaDump

open SchemaDump.Text SchemaDump.Sql

/-! ### Numerals -/

theorem toNat_of_isDigit {c : Char} (digit : c.isDigit = true) : 48 ≤ c.toNat ∧ c.toNat ≤ 57 := by
  simpa [Char.isDigit, UInt32.le_iff_toNat_le] using digit

theorem not_isBlank_of_isDigit {c : Char} (digit : c.isDigit = true) : isBlank c = false := by
  have range := toNat_of_isDigit digit
  exact not_isBlank_of_range (by omega) (by omega)

theorem digitValue?_of_isDigit {c : Char} (digit : c.isDigit = true) :
    digitValue? c = some (c.toNat - 48) := by
  rw [digitValue?, if_pos digit]

theorem isDigitOf_ten {c : Char} (digit : c.isDigit = true) : isDigitOf 10 c = true := by
  have range := toNat_of_isDigit digit
  rw [isDigitOf, digitValue?_of_isDigit digit, Option.any_some, decide_eq_true_eq]
  omega

namespace Sql.Numeral

/-- The number that the digits stand for, however many they are. -/
def value (numeral : Numeral) : Nat := Nat.ofDigitChars 10 numeral.text 0

theorem visible (numeral : Numeral) : ∀ c ∈ numeral.text, isBlank c = false := fun c listed =>
  not_isBlank_of_isDigit (numeral.digits c listed)

theorem digitsValue_text (numeral : Numeral) : digitsValue 10 numeral.text = numeral.value := by
  refine List.foldl_ext _ _ 0 fun value c listed => ?_
  rw [digitValue?_of_isDigit (numeral.digits c listed), Option.getD_some]
  rfl

theorem numeral?_text (numeral : Numeral) : numeral? 10 numeral.text = some numeral.value := by
  have noPlus : numeral.first ≠ '+' := by
    intro plus
    have digit := numeral.digits numeral.first List.mem_cons_self
    rw [plus] at digit
    exact absurd digit (by decide)
  have each : numeral.text.all (isDigitOf 10) = true :=
    List.all_eq_true.mpr fun c listed => isDigitOf_ten (numeral.digits c listed)
  rw [numeral?, each, digitsValue_text]
  · rfl
  · intro rest signed
    exact noPlus (List.cons.inj signed).1

/-- **A numeral is read as its value if that fits the word, and is refused otherwise.** -/
theorem wordNumeral?_text (numeral : Numeral) :
    wordNumeral? numeral.text = (some numeral.value).filter (· < 2 ^ 64) := by
  have fits : numeral.value ≤ largestWord ↔ numeral.value < 2 ^ 64 := Nat.lt_succ_iff.symm
  rw [wordNumeral?, numeral?_text]
  simp only [Option.filter_some, fits]

end Sql.Numeral

/-! ### Arguments -/

/-- A numeral with blanks around it. -/
structure TypeNumeral where
  before : List Char
  numeral : Numeral
  after : List Char
  blank : ∀ c ∈ before ++ after, isBlank c = true
  deriving DecidableEq

/-- Numerals between parentheses, the first of which is the length. -/
structure TypeNumerals where
  first : TypeNumeral
  more : List TypeNumeral
  deriving DecidableEq

def TypeNumeral.text (argument : TypeNumeral) : List Char :=
  argument.before ++ (argument.numeral.text ++ argument.after)

def TypeNumerals.text (arguments : TypeNumerals) : List Char :=
  groupText ((arguments.first :: arguments.more).map TypeNumeral.text)

theorem TypeNumeral.not_mem_of_isAlpha {c : Char} (letter : c.isAlpha = true) (argument : TypeNumeral) :
    c ∉ argument.text := by
  have visible := not_isBlank_of_isAlpha letter
  have noDigit := not_isDigit_of_isAlpha letter
  have outside : c ∉ argument.before ++ argument.after := fun listed =>
    Bool.false_ne_true (visible.symm.trans (argument.blank c listed))
  have inside : c ∉ argument.numeral.text := fun listed =>
    Bool.false_ne_true (noDigit.symm.trans (argument.numeral.digits c listed))
  rw [List.mem_append, not_or] at outside
  simp [text, outside, inside]

/-- No letter stands in the arguments. -/
theorem TypeNumerals.not_mem_of_isAlpha {c : Char} (letter : c.isAlpha = true)
    (arguments : TypeNumerals) : c ∉ arguments.text := by
  have marks : ∀ d ∈ ['(', ')', ','], d.isAlpha = false :=
    List.all_iff_forall_prop.mp (by decide)
  have other {d : Char} (mark : d ∈ ['(', ')', ',']) : c ≠ d := by
    rintro rfl
    exact Bool.false_ne_true ((marks c mark).symm.trans letter)
  rw [text, groupText, List.mem_cons, List.mem_append, List.mem_singleton, not_or, not_or]
  refine ⟨other (by decide), not_mem_commaList (other (by decide)) ?_, other (by decide)⟩
  intro written listed
  obtain ⟨argument, -, rfl⟩ := List.mem_map.mp listed
  exact argument.not_mem_of_isAlpha letter

theorem TypeNumerals.lowercase_text (arguments : TypeNumerals) :
    lowercase arguments.text = arguments.text := by
  refine (List.map_congr_left fun c listed => ?_).trans (List.map_id' arguments.text)
  refine toLower_of_not_isUpper (Bool.eq_false_iff.mpr fun upper => ?_)
  have letter : c.isAlpha = true := by
    show (c.isUpper || c.isLower) = true
    rw [upper, Bool.true_or]
  exact arguments.not_mem_of_isAlpha letter listed

/-- **Between a word and the first mark behind it, spaces for blanks leave the first numeral as it is.** -/
theorem TypeNumerals.exists_spaced (arguments : TypeNumerals) {front : List Char}
    (visible : ∀ c ∈ front, isBlank c = false) :
    ∃ before after rest, (∀ c ∈ before, isBlank c = true) ∧ (∀ c ∈ after, isBlank c = true) ∧
      BehindItem rest ∧ spaced (front ++ arguments.text) =
        front ++ '(' :: (before ++ (arguments.first.numeral.text ++ after) ++ rest) := by
  obtain ⟨⟨before, numeral, after, blank⟩, more⟩ := arguments
  obtain ⟨blankBefore, blankAfter⟩ := List.forall_mem_append.mp blank
  have opened : ∀ c ∈ front ++ ['('], isBlank c = false :=
    List.forall_mem_append.mpr ⟨visible, List.forall_mem_singleton.mpr (by decide)⟩
  obtain ⟨_, ⟨d, tail, rfl, stops⟩, items⟩ := exists_behindItem
    (before ++ (numeral.text ++ after)) (more.map TypeNumeral.text) ⟨')', [], rfl, by decide⟩
  have mark : isBlank d = false := by
    have each : ∀ mark ∈ [')', ','], isBlank mark = false :=
      List.all_iff_forall_prop.mp (by decide)
    exact each d stops
  have whole : front ++ groupText ((before ++ (numeral.text ++ after)) :: more.map TypeNumeral.text) =
      front ++ ['('] ++ (before ++ numeral.first :: (numeral.more ++ (after ++ d :: tail))) := by
    rw [groupText, items]
    simp [Numeral.text]
  obtain ⟨gap, blankGap, first⟩ := exists_spaced_append opened (by simp) blankBefore
    (numeral.visible numeral.first List.mem_cons_self) (numeral.more ++ (after ++ d :: tail))
  obtain ⟨last, blankLast, second⟩ := exists_spaced_append numeral.visible (List.cons_ne_nil _ _)
    blankAfter mark tail
  obtain ⟨rest, third⟩ := exists_spaced_cons mark tail
  refine ⟨gap, last, d :: rest, blankGap, blankLast, ⟨d, rest, rfl, stops⟩, ?_⟩
  calc spaced (front ++ groupText ((before ++ (numeral.text ++ after)) :: more.map TypeNumeral.text))
      = front ++ ['('] ++ (gap ++ spaced (numeral.text ++ (after ++ d :: tail))) := by
        rw [whole, first, Numeral.text, List.cons_append]
    _ = front ++ ['('] ++ (gap ++ (numeral.text ++ (last ++ d :: rest))) := by rw [second, third]
    _ = front ++ '(' :: (gap ++ (numeral.text ++ last) ++ d :: rest) := by simp

/-! ### Where arguments start and end -/

theorem cutArguments_subset (text : List Char) : (cutArguments text).1 ⊆ text := by
  induction text with
  | nil => exact List.Subset.refl []
  | cons c rest ih =>
    rw [cutArguments]
    split
    · exact List.nil_subset _
    · exact List.cons_subset_cons c ih

theorem cutArguments_of_not_mem {text : List Char} (free : '(' ∉ text) :
    cutArguments text = (text, none) := by
  induction text with
  | nil => rfl
  | cons c rest ih =>
    rw [List.mem_cons, not_or] at free
    rw [cutArguments, if_neg (Ne.symm free.1), ih free.2]

theorem cutArguments_append {front : List Char} (free : '(' ∉ front) (rest : List Char) :
    cutArguments (front ++ '(' :: rest) = (front, some rest) := by
  induction front with
  | nil => rw [List.nil_append, cutArguments, if_pos rfl]
  | cons c more ih =>
    rw [List.mem_cons, not_or] at free
    rw [List.cons_append, cutArguments, if_neg (Ne.symm free.1), ih free.2]

theorem Sql.Numeral.trim_margins (numeral : Numeral) {before after : List Char}
    (blankBefore : ∀ c ∈ before, isBlank c = true) (blankAfter : ∀ c ∈ after, isBlank c = true) :
    trim (before ++ (numeral.text ++ after)) = numeral.text := by
  rw [text, Text.trim_margins blankBefore blankAfter (numeral.visible _ List.mem_cons_self)]
  exact trimEnd_of_visible fun c last => numeral.visible c (List.mem_of_getLast? last)

/-- **The length is the first numeral**, whatever follows it behind a comma or the end of the arguments. -/
theorem firstLength?_append (numeral : Numeral) {before after rest : List Char}
    (blankBefore : ∀ c ∈ before, isBlank c = true) (blankAfter : ∀ c ∈ after, isBlank c = true)
    (behind : BehindItem rest) :
    firstLength? (before ++ (numeral.text ++ after) ++ rest) =
      (some numeral.value).filter (· < 2 ^ 64) := by
  have marks : ∀ d ∈ [')', ','], isBlank d = false ∧ d.isDigit = false :=
    List.all_iff_forall_prop.mp (by decide)
  have inside : ∀ c ∈ before ++ (numeral.text ++ after), c ∉ [')', ','] := by
    intro c listed mark
    obtain ⟨visible, noDigit⟩ := marks c mark
    rw [List.mem_append, List.mem_append] at listed
    rcases listed with found | found | found
    · exact Bool.false_ne_true (visible.symm.trans (blankBefore c found))
    · exact Bool.false_ne_true (noDigit.symm.trans (numeral.digits c found))
    · exact Bool.false_ne_true (visible.symm.trans (blankAfter c found))
  obtain ⟨d, more, rfl, stops⟩ := behind
  have goesOn {c : Char} : (c != ',' && c != ')') = true ↔ c ∉ [')', ','] := by
    simp [and_comm]
  have stop : (d :: more).takeWhile (fun c => c != ',' && c != ')') = [] :=
    List.takeWhile_cons_of_neg fun on => goesOn.mp on stops
  rw [firstLength?, List.takeWhile_append_of_pos fun c listed => goesOn.mpr (inside c listed), stop,
    List.append_nil, numeral.trim_margins blankBefore blankAfter, numeral.wordNumeral?_text]

/-! ### Words of sign -/

theorem isAlpha_of_mem_signWords {word : List Char} (sign : word ∈ signWords) :
    word ≠ [] ∧ ∀ c ∈ word, c.isAlpha = true := by
  have each : ∀ word ∈ signWords, word ≠ [] ∧ word.all Char.isAlpha = true := by decide
  exact (each word sign).imp_right List.all_eq_true.mp

/-- No word of a base with arguments is a word of sign: the first holds the parenthesis, and no other one
holds a letter. -/
theorem not_mem_signWords_of_opened {front rest word : List Char}
    (visible : ∀ c ∈ front, isBlank c = false) (free : ∀ c, c.isAlpha = true → c ∉ rest)
    (listed : word ∈ words (front ++ '(' :: rest)) : word ∉ signWords := by
  intro sign
  obtain ⟨some, letters⟩ := isAlpha_of_mem_signWords sign
  have opened : ∀ c ∈ front ++ ['('], isBlank c = false :=
    List.forall_mem_append.mpr ⟨visible, List.forall_mem_singleton.mpr (by decide)⟩
  rw [List.append_cons, words_append opened (by simp), List.mem_cons] at listed
  rcases listed with rfl | later
  · exact absurd (letters '(' (by simp)) (by decide)
  · obtain ⟨c, more, rfl⟩ := List.exists_cons_of_ne_nil some
    have found := subset_of_mem_words later List.mem_cons_self
    exact free c (letters c List.mem_cons_self) (List.dropWhile_subset isVisible found)

/-- A word of sign in any letter case, and the blanks between it and the base. -/
structure SignWord where
  word : List Char
  gap : List Char
  sign : lowercase word ∈ ["unsigned".toList, "signed".toList, "zerofill".toList]
  blank : ∀ c ∈ gap, isBlank c = true
  apart : gap ≠ []
  deriving DecidableEq

namespace SignWord

theorem mem_signWords (sign : SignWord) : lowercase sign.word ∈ signWords := sign.sign

theorem visible (sign : SignWord) : ∀ c ∈ sign.word, isBlank c = false := by
  intro c listed
  have letters := (isAlpha_of_mem_signWords sign.mem_signWords).2
  rw [← isBlank_toLower]
  exact not_isBlank_of_isAlpha (letters _ (List.mem_map_of_mem listed))

theorem words_word (sign : SignWord) : words sign.word = [sign.word] := by
  refine words_of_visible sign.visible fun empty => ?_
  have some := (isAlpha_of_mem_signWords sign.mem_signWords).1
  rw [empty] at some
  exact some rfl

theorem words_before (signs : List SignWord) (text : List Char) :
    words (signs.flatMap (fun sign => sign.word ++ sign.gap) ++ text) = signs.map word ++ words text := by
  induction signs with
  | nil => rfl
  | cons sign more ih =>
    rw [List.flatMap_cons, List.append_assoc, List.append_assoc,
      words_append_margin sign.blank sign.apart, ih, sign.words_word]
    rfl

theorem words_after (text : List Char) (signs : List SignWord) :
    words (text ++ signs.flatMap fun sign => sign.gap ++ sign.word) = words text ++ signs.map word := by
  induction signs generalizing text with
  | nil => rw [List.flatMap_nil, List.append_nil, List.map_nil, List.append_nil]
  | cons sign more ih =>
    rw [List.flatMap_cons, List.append_assoc, words_append_margin sign.blank sign.apart, ih,
      sign.words_word]
    rfl

end SignWord

/-! ### Spellings -/

/-- A type name as a server or a statement spells it: a base and its arguments between words of sign, and
blanks at both ends. -/
structure TypeSpelling where
  margin : List Char
  before : List SignWord
  base : List Char
  arguments : Option TypeNumerals
  after : List SignWord
  ending : List Char
  blank : ∀ c ∈ margin ++ ending, isBlank c = true
  plain : ∀ c ∈ base, c.isAlphanum = true ∨ c = '_'
  noSign : lowercase base ∉ ["unsigned".toList, "signed".toList, "zerofill".toList]
  deriving DecidableEq

namespace TypeSpelling

/-- The spelling without words of sign, and without blanks at its ends. -/
def core (spelling : TypeSpelling) : List Char :=
  spelling.base ++ (spelling.arguments.map TypeNumerals.text).getD []

def text (spelling : TypeSpelling) : List Char :=
  spelling.margin ++ (spelling.before.flatMap (fun sign => sign.word ++ sign.gap) ++
    (spelling.core ++ spelling.after.flatMap (fun sign => sign.gap ++ sign.word)) ++ spelling.ending)

theorem words_text (spelling : TypeSpelling) :
    words spelling.text =
      spelling.before.map SignWord.word ++ (words spelling.core ++ spelling.after.map SignWord.word) := by
  obtain ⟨blankMargin, blankEnding⟩ := List.forall_mem_append.mp spelling.blank
  rw [text, words_margin_append blankMargin, words_append_blanks blankEnding, SignWord.words_before,
    SignWord.words_after]

/-- A character of the base, made small. -/
theorem range_of_mem_base (spelling : TypeSpelling) {c : Char} (listed : c ∈ lowercase spelling.base) :
    48 ≤ c.toNat ∧ c.toNat ≤ 122 := by
  obtain ⟨original, found, rfl⟩ := List.mem_map.mp listed
  have range : 48 ≤ original.toNat ∧ original.toNat ≤ 122 := by
    rcases spelling.plain original found with alphanumeric | rfl
    · rw [Char.isAlphanum, Bool.or_eq_true] at alphanumeric
      rcases alphanumeric with letter | digit
      · have := toNat_of_isAlpha letter
        omega
      · have := toNat_of_isDigit digit
        omega
    · decide
  cases upper : original.isUpper with
  | false => rwa [toLower_of_not_isUpper upper]
  | true =>
    have small := toNat_toLower_of_isUpper upper
    omega

theorem visible_base (spelling : TypeSpelling) : ∀ c ∈ lowercase spelling.base, isBlank c = false := by
  intro c listed
  have range := spelling.range_of_mem_base listed
  exact not_isBlank_of_range (by omega) (by omega)

theorem not_mem_base (spelling : TypeSpelling) : '(' ∉ lowercase spelling.base := by
  intro listed
  exact absurd (spelling.range_of_mem_base listed) (by decide)

theorem lowercase_core (spelling : TypeSpelling) :
    lowercase spelling.core =
      lowercase spelling.base ++ (spelling.arguments.map TypeNumerals.text).getD [] := by
  rw [core, lowercase, List.map_append]
  cases spelling.arguments with
  | none => rfl
  | some arguments => exact congrArg _ arguments.lowercase_text

/-- No word of the core is a word of sign. -/
theorem not_mem_signWords_of_mem_core (spelling : TypeSpelling) {word : List Char}
    (listed : word ∈ words (lowercase spelling.core)) : word ∉ signWords := by
  rw [lowercase_core] at listed
  cases written : spelling.arguments with
  | none =>
    rw [written, Option.map_none, Option.getD_none, List.append_nil] at listed
    rw [eq_of_mem_words spelling.visible_base listed]
    exact spelling.noSign
  | some arguments =>
    rw [written] at listed
    refine not_mem_signWords_of_opened spelling.visible_base (fun c letter found => ?_) listed
    exact arguments.not_mem_of_isAlpha letter (List.mem_cons_of_mem _ found)

/-- **The words of sign are dropped**, in any letter case, in front of the base and behind it. -/
theorem typeWords_text (spelling : TypeSpelling) :
    typeWords spelling.text = spaced (lowercase spelling.core) := by
  have dropped (signs : List SignWord) :
      ((signs.map SignWord.word).map lowercase).filter (!signWords.contains ·) = [] := by
    rw [List.filter_eq_nil_iff, List.map_map]
    intro word listed
    obtain ⟨sign, -, rfl⟩ := List.mem_map.mp listed
    simpa using sign.mem_signWords
  have kept : ((words spelling.core).map lowercase).filter (!signWords.contains ·) =
      (words spelling.core).map lowercase := by
    rw [List.filter_eq_self, ← words_lowercase]
    intro word listed
    simpa using spelling.not_mem_signWords_of_mem_core listed
  rw [typeWords, words_lowercase, words_text, List.map_append, List.map_append, List.filter_append,
    List.filter_append, dropped, dropped, kept, List.nil_append, List.append_nil, ← words_lowercase,
    spaced]

/-- **One space for each run of blanks leaves the base and the first numeral as they are.** -/
theorem cutArguments_spaced (spelling : TypeSpelling) :
    ∃ behind, cutArguments (spaced (lowercase spelling.core)) = (lowercase spelling.base, behind) ∧
      behind.bind firstLength? =
        (spelling.arguments.map fun arguments => arguments.first.numeral.value).filter (· < 2 ^ 64) := by
  rw [lowercase_core]
  cases spelling.arguments with
  | none =>
    refine ⟨none, ?_, rfl⟩
    rw [Option.map_none, Option.getD_none, List.append_nil, spaced_of_visible spelling.visible_base,
      cutArguments_of_not_mem spelling.not_mem_base]
  | some arguments =>
    obtain ⟨before, after, rest, blankBefore, blankAfter, behind, spelled⟩ :=
      arguments.exists_spaced spelling.visible_base
    have length := firstLength?_append arguments.first.numeral blankBefore blankAfter behind
    refine ⟨some _, ?_, length⟩
    rw [Option.map_some, Option.getD_some, spelled, cutArguments_append spelling.not_mem_base]

/-- **A spelling gives the name for its base in small letters, and its first numeral as the length** if
that is below `2 ^ 64`. -/
theorem ofNative_text (spelling : TypeSpelling) :
    TypeName.ofNative (String.ofList spelling.text) =
      ⟨aliasTarget (String.ofList (lowercase spelling.base)),
        (spelling.arguments.map fun arguments => arguments.first.numeral.value).filter (· < 2 ^ 64)⟩ := by
  obtain ⟨behind, cut, length⟩ := spelling.cutArguments_spaced
  rw [TypeName.ofNative, String.toList_ofList, typeWords_text, cut]
  simp only
  rw [trim_of_visible spelling.visible_base, length]

/-- A spelling with words of sign on both sides, blanks around the numerals and a zero in front. -/
def unsignedInteger : TypeSpelling where
  margin := [' ']
  before := [⟨"UNSIGNED".toList, ['\t'], by decide, List.all_iff_forall_prop.mp (by decide), by decide⟩]
  base := "Integer".toList
  arguments := some
    { first :=
        { before := [' ']
          numeral := ⟨'0', ['0', '7'], List.all_iff_forall_prop.mp (by decide)⟩
          after := [' ']
          blank := List.all_iff_forall_prop.mp (by decide) }
      more := [
        { before := [' ']
          numeral := ⟨'2', [], List.all_iff_forall_prop.mp (by decide)⟩
          after := [' ']
          blank := List.all_iff_forall_prop.mp (by decide) }] }
  after := [⟨"zerofill".toList, [' ', ' '], by decide, List.all_iff_forall_prop.mp (by decide), by decide⟩]
  ending := []
  blank := List.all_iff_forall_prop.mp (by decide)
  plain := List.all_iff_forall_prop.mp (by decide)
  noSign := by decide

theorem ofNative_text_unsignedInteger :
    TypeName.ofNative " UNSIGNED\tInteger( 007 , 2 )  zerofill" = ⟨"int", some 7⟩ := by
  have spelled : String.ofList unsignedInteger.text = " UNSIGNED\tInteger( 007 , 2 )  zerofill" := by
    decide +kernel
  rw [← spelled, ofNative_text]
  decide

end TypeSpelling

/-! ### Blanks in names -/

theorem eq_space_of_mem_typeWords {native : List Char} {c : Char} (listed : c ∈ typeWords native)
    (blank : isBlank c = true) : c = ' ' := by
  by_contra other
  refine not_mem_intercalate (by simpa using other) (fun word found inside => ?_) listed
  have visible := visible_of_mem_words (List.mem_of_mem_filter found) c inside
  exact Bool.false_ne_true (visible.symm.trans blank)

/-- An alias stands for a name without blanks. -/
theorem aliasTarget_eq_or (base : String) :
    aliasTarget base = base ∨ ∀ c ∈ (aliasTarget base).toList, isBlank c = false := by
  fun_cases aliasTarget base with
  | case10 => exact .inl rfl
  | _ => exact .inr (List.all_iff_forall_prop.mp (by decide))

theorem mem_of_blank_mem_aliasTarget {base : String} {c : Char} (listed : c ∈ (aliasTarget base).toList)
    (blank : isBlank c = true) : c ∈ base.toList := by
  cases aliasTarget_eq_or base with
  | inl same => rwa [same] at listed
  | inr visible => exact absurd blank (Bool.eq_false_iff.mp (visible c listed))

/-- **Names for types have no blanks but spaces**, whatever the server's name. -/
theorem TypeName.eq_space_of_mem_ofNative {native : String} {c : Char}
    (listed : c ∈ (TypeName.ofNative native).canonical.toList) (blank : isBlank c = true) : c = ' ' := by
  have front := cutArguments_subset (typeWords native.toList)
  rw [TypeName.ofNative] at listed
  generalize cutArguments (typeWords native.toList) = cut at listed front
  obtain ⟨base, arguments⟩ := cut
  simp only at listed
  have inside := mem_of_blank_mem_aliasTarget listed blank
  rw [String.toList_ofList] at inside
  exact eq_space_of_mem_typeWords (front ((trim_sublist base).subset inside)) blank

end SchemaDump
