/-
**How words, blanks and marks are read from their spelling.**

What stands in front of a text is read as one token and the text is left, provided that the token does
not go on into it:

* `scanToken_word`, `reads_word`: a word, in front of a text that ends it (`EndsWord`);
* `scanToken_space`, `scanToken_loneMark`: one character;
* `scanToken_quotedName`: a name between backticks, in front of anything but a third backtick;
* `reads_commaList`: a list with commas in it, of items that are read as one token each;
* `eq_of_commaList_eq`: two such lists, the one with no longer items, are the same only item by item.
-/

import Mathlib.Data.Bool.AllAny
import SchemaDump.Proofs.Sql.Quoted
import SchemaDump.Proofs.Sql.Reads
import SchemaDump.Proofs.Text.Words
import SchemaDump.Sql.Scanner

namespace SchemaDump.Sql

open SchemaDump.Text

/-! ### Words -/

/-- A word ends in front of the text: no name character follows, and no mark that would make a single
letter open a literal. -/
def EndsWord (text : List Char) : Prop :=
  ∀ c ∈ text.head?, isNamePart c = false ∧ c ≠ apostrophe ∧ c ≠ '"'

theorem endsWord_nil : EndsWord [] := by
  intro c found
  simp at found

theorem endsWord_cons {c : Char} (stops : c ∈ [' ', '\t', '(', ')', ',', backtick])
    (rest : List Char) : EndsWord (c :: rest) := by
  have each : ∀ d ∈ [' ', '\t', '(', ')', ',', backtick],
      isNamePart d = false ∧ d ≠ apostrophe ∧ d ≠ '"' :=
    List.all_iff_forall_prop.mp (by decide +kernel)
  intro d found
  obtain rfl : c = d := by simpa using found
  exact each c stops

theorem openedLiteral?_of_unmarked {c : Char} {rest : List Char} (notMark : c ≠ apostrophe ∧ c ≠ '"')
    (unmarked : ∀ d ∈ rest.head?, d ≠ apostrophe ∧ d ≠ '"') : openedLiteral? c rest = none := by
  unfold openedLiteral?
  rw [if_neg notMark.1, if_neg notMark.2]
  cases rest with
  | nil => rfl
  | cons mark body =>
    obtain ⟨single, double⟩ := unmarked mark (by simp)
    simp only
    rw [if_neg single, if_neg fun both => double both.1]

theorem not_mark_of_isNamePart {c : Char} (part : isNamePart c = true) : c ≠ apostrophe ∧ c ≠ '"' := by
  constructor
  · rintro rfl
    exact absurd part (by decide +kernel)
  · rintro rfl
    exact absurd part (by decide +kernel)

theorem toNat_of_isAlpha {c : Char} (letter : c.isAlpha = true) :
    65 ≤ c.toNat ∧ c.toNat ≤ 90 ∨ 97 ≤ c.toNat ∧ c.toNat ≤ 122 := by
  have cases : (decide (c.val ≥ 65 ∧ c.val ≤ 90) || decide (c.val ≥ 97) && decide (c.val ≤ 122)) = true :=
    letter
  simp only [Bool.or_eq_true, Bool.and_eq_true, decide_eq_true_eq, ge_iff_le, UInt32.le_iff_toNat_le]
    at cases
  exact cases

theorem not_isDigit_of_isAlpha {c : Char} (letter : c.isAlpha = true) : c.isDigit = false := by
  have range := toNat_of_isAlpha letter
  simp only [Char.isDigit, Bool.and_eq_false_iff, decide_eq_false_iff_not, ge_iff_le,
    UInt32.le_iff_toNat_le]
  change ¬ 48 ≤ c.toNat ∨ ¬ c.toNat ≤ 57
  omega

theorem not_isBlank_of_isAlpha {c : Char} (letter : c.isAlpha = true) : isBlank c = false := by
  have range := toNat_of_isAlpha letter
  exact not_isBlank_of_range (by omega) (by omega)

/-- **A word is read up to where it ends.** -/
theorem scanToken_word {c : Char} {more after : List Char} (letter : c.isAlpha = true)
    (parts : ∀ d ∈ more, isNamePart d = true) (ends : EndsWord after) :
    scanToken c (more ++ after) = some (.word (String.ofList (c :: more)), after) := by
  have starts : startsName c = true := by simp [startsName, letter]
  have notLetter {d : Char} (other : d.isAlpha = false) : c ≠ d := by
    rintro rfl
    rw [letter] at other
    exact Bool.noConfusion other
  have notDigit : (c.isDigit || c == '.') = false := by
    rw [not_isDigit_of_isAlpha letter, Bool.false_or, beq_eq_false_iff_ne]
    exact notLetter (by decide)
  have unopened : openedLiteral? c (more ++ after) = none := by
    refine openedLiteral?_of_unmarked ⟨notLetter (by decide), notLetter (by decide)⟩ fun d found => ?_
    cases more with
    | nil => exact (ends d found).2
    | cons e rest =>
      obtain rfl : e = d := by simpa using found
      exact not_mark_of_isNamePart (parts e List.mem_cons_self)
  have stops : after.takeWhile isNamePart = [] ∧ after.dropWhile isNamePart = after := by
    cases after with
    | nil => exact ⟨rfl, rfl⟩
    | cons d rest =>
      have last := (ends d (by simp)).1
      simp [last]
  unfold scanToken
  rw [unopened]
  simp only
  rw [if_neg (notLetter (by decide)), notDigit, if_neg Bool.false_ne_true,
    if_neg (notLetter (by decide)), if_neg (notLetter (by decide)), if_pos starts, scanWord,
    List.takeWhile_append_of_pos parts, List.dropWhile_append_of_pos parts, stops.1, stops.2,
    List.append_nil, List.singleton_append]

/-- A letter, then name characters. -/
def IsWord : List Char → Prop
  | [] => False
  | c :: more => c.isAlpha = true ∧ ∀ d ∈ more, isNamePart d = true

instance : (text : List Char) → Decidable (IsWord text)
  | [] => inferInstanceAs (Decidable False)
  | c :: more => decidable_of_iff (c.isAlpha = true ∧ more.all isNamePart = true) (by
      rw [List.all_eq_true]
      rfl)

theorem reads_word {text after : List Char} (word : IsWord text) (ends : EndsWord after) :
    Reads (text ++ after) [.word (String.ofList text)] after := by
  cases text with
  | nil => exact word.elim
  | cons c more => exact .single (scanToken_word word.1 word.2 ends)

/-! ### Single characters -/

theorem scanToken_space (rest : List Char) : scanToken ' ' rest = some (.blank " ", rest) := by
  unfold scanToken
  rw [openedLiteral?_of_not_opener (by decide)]
  simp only
  rw [if_neg (by decide), if_neg (by decide), if_neg (by decide), if_neg (by decide),
    if_neg (by decide +kernel), if_pos (by decide)]
  rfl

theorem scanSymbol_eq_scanMark {c : Char} (other : c ∉ ['#', '-', '/']) (rest : List Char) :
    scanSymbol c rest = some (scanMark c rest) := by
  unfold scanSymbol
  split
  · exact absurd (by decide) other
  · exact absurd (by decide) other
  · exact absurd (by decide) other
  · rfl

/-- A character that starts no longer operator is read alone. -/
theorem scanMark_of_alone {c : Char}
    (alone : ∀ operator ∈ operators, operator.toList.head? ≠ none ∧ operator.toList.head? ≠ some c)
    (rest : List Char) :
    scanMark c rest = (markToken c, rest) := by
  have none : (operators.find? fun operator => operator.toList.isPrefixOf (c :: rest)) = none := by
    rw [List.find?_eq_none]
    intro operator listed front
    obtain ⟨more, whole⟩ := List.isPrefixOf_iff_prefix.mp front
    obtain ⟨any, other⟩ := alone operator listed
    obtain ⟨first, found⟩ := Option.ne_none_iff_exists'.mp any
    obtain ⟨tail, spelled⟩ := List.head?_eq_some_iff.mp found
    rw [spelled, List.cons_append] at whole
    exact other (found.trans (congrArg some (List.cons.inj whole).1))
  rw [scanMark, none]

/-- The marks that stand alone. -/
def loneMarks : List Char := ['(', ')', ',']

theorem scanToken_loneMark {c : Char} (lone : c ∈ loneMarks) (rest : List Char) :
    scanToken c rest = some (markToken c, rest) := by
  have tests : ∀ d ∈ loneMarks, d ∉ openers ∧ d ≠ backtick ∧ (d.isDigit || d == '.') = false ∧
      d ≠ '@' ∧ d ≠ '?' ∧ startsName d = false ∧ isBlank d = false ∧ d ∉ ['#', '-', '/'] :=
    List.all_iff_forall_prop.mp (by decide +kernel)
  have alone : ∀ d ∈ loneMarks, ∀ operator ∈ operators,
      operator.toList.head? ≠ none ∧ operator.toList.head? ≠ some d :=
    List.all_iff_forall_prop.mp (by decide +kernel)
  obtain ⟨opener, tick, digit, at', placeholder, name, blank, symbol⟩ := tests c lone
  unfold scanToken
  rw [openedLiteral?_of_not_opener opener]
  simp only
  rw [if_neg tick, digit, if_neg Bool.false_ne_true, if_neg at', if_neg placeholder, name,
    if_neg Bool.false_ne_true, blank, if_neg Bool.false_ne_true, scanSymbol_eq_scanMark symbol,
    scanMark_of_alone (alone c lone)]

theorem quotedName?_markToken (c : Char) : (markToken c).quotedName? = none := by
  unfold markToken
  split <;> rfl

/-! ### Quoted names -/

/-- **A name between backticks is read as it stands.** -/
theorem scanToken_quotedName {name : List Char} (free : backtick ∉ name) {after : List Char}
    (stop : after.head? ≠ some backtick) :
    scanToken backtick (name ++ backtick :: after) =
      some (.quotedName (String.ofList name), after) := by
  rw [scanToken_backtick, scanName_append free stop]

/-! ### Lists -/

/-- Texts with commas between them. -/
def commaList : List (List Char) → List Char
  | [] => []
  | [text] => text
  | text :: next :: rest => text ++ ',' :: commaList (next :: rest)

def commaTokens : List Token → List Token
  | [] => []
  | [token] => [token]
  | token :: next :: rest => token :: .comma :: commaTokens (next :: rest)

/-- The text goes on behind an item of a list: with the next item, or with the end of the list. -/
def BehindItem (text : List Char) : Prop := ∃ c rest, text = c :: rest ∧ c ∈ [')', ',']

namespace BehindItem

variable {text : List Char}

theorem endsWord (behind : BehindItem text) : EndsWord text := by
  obtain ⟨c, rest, rfl, stops⟩ := behind
  have each : ∀ d ∈ [')', ','], d ∈ [' ', '\t', '(', ')', ',', backtick] :=
    List.all_iff_forall_prop.mp (by decide)
  exact endsWord_cons (each c stops) rest

theorem head?_ne (behind : BehindItem text) : text.head? ≠ some backtick := by
  obtain ⟨c, rest, rfl, stops⟩ := behind
  rw [List.head?_cons, ne_eq, Option.some.injEq]
  rintro rfl
  exact absurd stops (by decide)

end BehindItem

/-- **A list is read item by item.** -/
theorem reads_commaList {α : Type} {text : α → List Char} {token : α → Token} (items : List α)
    (each : ∀ item ∈ items, ∀ {more}, BehindItem more → Reads (text item ++ more) [token item] more)
    {after : List Char} (ends : BehindItem after) :
    Reads (commaList (items.map text) ++ after) (commaTokens (items.map token)) after := by
  match items with
  | [] => exact .done after
  | [item] => exact each item List.mem_cons_self ends
  | item :: next :: rest =>
    have later := reads_commaList (next :: rest)
      (fun other found => each other (List.mem_cons_of_mem item found)) ends
    have comma : BehindItem (',' :: (commaList ((next :: rest).map text) ++ after)) :=
      ⟨',', _, rfl, by decide⟩
    show Reads (text item ++ ',' :: commaList ((next :: rest).map text) ++ after)
      ([token item] ++ .comma :: commaTokens ((next :: rest).map token)) after
    rw [List.append_assoc, List.cons_append]
    exact (each item List.mem_cons_self comma).trans (.next (scanToken_loneMark (by decide) _) later)

/-- A comma, or what ends the list, follows its first item. -/
theorem exists_behindItem (text : List Char) (rest : List (List Char)) {after : List Char}
    (ends : BehindItem after) :
    ∃ more, BehindItem more ∧ commaList (text :: rest) ++ after = text ++ more := by
  cases rest with
  | nil => exact ⟨after, ends, rfl⟩
  | cons next later =>
    refine ⟨',' :: (commaList (next :: later) ++ after), ⟨',', _, rfl, by decide⟩, ?_⟩
    rw [commaList, List.append_assoc, List.cons_append]

theorem not_mem_commaList {c : Char} (other : c ≠ ',') {texts : List (List Char)}
    (free : ∀ text ∈ texts, c ∉ text) : c ∉ commaList texts := by
  fun_induction commaList texts with
  | case1 => exact List.not_mem_nil
  | case2 text => exact free text List.mem_cons_self
  | case3 text next rest ih =>
    have later := ih fun more found => free more (List.mem_cons_of_mem text found)
    refine List.not_mem_append (free text List.mem_cons_self) ?_
    exact List.not_mem_cons_of_ne_of_not_mem other later

theorem mem_commaTokens {token : Token} {tokens : List Token} (listed : token ∈ commaTokens tokens) :
    token = .comma ∨ token ∈ tokens := by
  fun_induction commaTokens tokens with
  | case1 => exact absurd listed List.not_mem_nil
  | case2 other => exact .inr listed
  | case3 other next rest ih =>
    rcases List.mem_cons.mp listed with rfl | later
    · exact .inr List.mem_cons_self
    rcases List.mem_cons.mp later with rfl | later
    · exact .inl rfl
    · exact (ih later).imp_right (List.mem_cons_of_mem other)

theorem flatMap_commaTokens (tokens : List Token) :
    (commaTokens tokens).flatMap (fun token => token.text.toList) =
      commaList (tokens.map fun token => token.text.toList) := by
  fun_induction commaTokens tokens with
  | case1 => rfl
  | case2 token => exact List.flatMap_singleton _ token
  | case3 token next rest ih =>
    rw [List.flatMap_cons, List.flatMap_cons, ih]
    rfl

section Shorter

variable {α : Type} {short long : α → List Char}

theorem length_commaList_le (items : List α)
    (le : ∀ item ∈ items, (short item).length ≤ (long item).length) :
    (commaList (items.map short)).length ≤ (commaList (items.map long)).length := by
  match items with
  | [] => exact Nat.le_refl _
  | [item] => exact le item List.mem_cons_self
  | item :: next :: rest =>
    have first := le item List.mem_cons_self
    have later := length_commaList_le (next :: rest) fun other found =>
      le other (List.mem_cons_of_mem item found)
    show (short item ++ ',' :: commaList ((next :: rest).map short)).length ≤
      (long item ++ ',' :: commaList ((next :: rest).map long)).length
    simp only [List.length_append, List.length_cons] at later ⊢
    omega

/-- **If no item gets longer, lists are the same only if the items are.** -/
theorem eq_of_commaList_eq (items : List α)
    (le : ∀ item ∈ items, (short item).length ≤ (long item).length)
    (same : commaList (items.map short) = commaList (items.map long)) :
    ∀ item ∈ items, short item = long item := by
  match items with
  | [] => exact List.forall_mem_nil _
  | [item] => exact List.forall_mem_singleton.mpr same
  | item :: next :: rest =>
    have first := le item List.mem_cons_self
    have leRest : ∀ other ∈ next :: rest, (short other).length ≤ (long other).length :=
      fun other found => le other (List.mem_cons_of_mem item found)
    have later := length_commaList_le (next :: rest) leRest
    have whole : short item ++ ',' :: commaList ((next :: rest).map short) =
        long item ++ ',' :: commaList ((next :: rest).map long) := same
    have lengths := congrArg List.length whole
    simp only [List.length_append, List.length_cons] at lengths later
    obtain ⟨here, tail⟩ := List.append_inj whole (by omega)
    exact List.forall_mem_cons.mpr ⟨here, eq_of_commaList_eq (next :: rest) leRest (List.cons.inj tail).2⟩

end Shorter

end SchemaDump.Sql
