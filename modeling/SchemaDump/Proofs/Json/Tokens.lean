/-
**The tokens of JSON texts.**

`readTokens` cuts any text into tokens: blanks stand between them, a string may hold every escape there
is, and a number is a natural one without leading zeros. `tokens` are those of a value, in order.

* `cutString?_escape`, `ofUnits?_map_toNat`: a string is read as it was before the escapes;
* `readAs_number`: a number is read as far as its digits go;
* `readAs_block`: the layout leaves no token behind;
* **`readTokens_form`**: the form of a value is cut into the tokens of the value.
-/

import Mathlib.Data.List.Forall2
import SchemaDump.Json
import SchemaDump.Text.Numeral
import SchemaDump.Text.Utf16

namespace SchemaDump

open SchemaDump.Text

/-- A token of a JSON text. -/
inductive JsonToken where
  | openArray
  | closeArray
  | openObject
  | closeObject
  | colon
  | comma
  | string (text : String)
  /-- A value in one word or number. -/
  | plain (value : Json)

namespace Json

/-! ### Strings -/

/-- The 16-bit unit that digits in base 16 stand for. -/
def escapedUnit? (digits : List Char) : Option Nat :=
  if digits.all (isDigitOf 16) then some (digitsValue 16 digits) else none

/-- The character that a letter or mark behind a backslash stands for. -/
def escapedChar? (c : Char) : Option Char :=
  if c = '"' ∨ c = '\\' ∨ c = '/' then some c
  else if c = 'b' then some '\x08'
  else if c = 'f' then some '\x0C'
  else if c = 'n' then some '\n'
  else if c = 'r' then some '\r'
  else if c = 't' then some '\t'
  else none

/-- A code in front of those of the rest of a string. -/
def addCode (code : Nat) (cut : List Nat × List Char) : List Nat × List Char := (code :: cut.1, cut.2)

/-- The code points and 16-bit units of a string up to its closing quote, and the text behind that. A
character below 20 in base 16 must be escaped. -/
def cutString? : List Char → Option (List Nat × List Char)
  | [] => none
  | c :: rest =>
    if c = '"' then some ([], rest)
    else if c = '\\' then
      match rest with
      | 'u' :: first :: second :: third :: fourth :: more =>
        (escapedUnit? [first, second, third, fourth]).bind fun unit =>
          (cutString? more).map (addCode unit)
      | mark :: more =>
        (escapedChar? mark).bind fun char => (cutString? more).map (addCode char.toNat)
      | [] => none
    else if c.toNat < 0x20 then none
    else (cutString? rest).map (addCode c.toNat)

/-- Reads a string behind its opening quote; two surrogates in the right order are one character. -/
def readString? (text : List Char) : Option (JsonToken × List Char) :=
  (cutString? text).bind fun (codes, after) =>
    (Utf16.ofUnits? codes).map fun chars => (.string (String.ofList chars), after)

/-! ### Numbers, words and marks -/

/-- Reads a number as far as there are digits; only 0 itself starts with the digit 0. -/
def readNumber? (text : List Char) : Option (JsonToken × List Char) :=
  let digits := text.takeWhile Char.isDigit
  if digits.head? = some '0' ∧ digits ≠ ['0'] then none
  else some (.plain (.number (Nat.ofDigitChars 10 digits 0)), text.dropWhile Char.isDigit)

/-- The values that are a word. -/
def wordValues : List (List Char × Json) :=
  [("null".toList, .null), ("true".toList, .bool true), ("false".toList, .bool false)]

/-- Reads a word. -/
def readWord? (text : List Char) : Option (JsonToken × List Char) :=
  wordValues.findSome? fun (word, value) =>
    (word.isPrefixOf? text).map fun after => (.plain value, after)

/-- The token of a mark. -/
def markToken? (c : Char) : Option JsonToken :=
  if c = '[' then some .openArray
  else if c = ']' then some .closeArray
  else if c = '\x7b' then some .openObject
  else if c = '\x7d' then some .closeObject
  else if c = ':' then some .colon
  else if c = ',' then some .comma
  else none

/-- Reads the token that starts with the character `c`. -/
def readToken? (c : Char) (rest : List Char) : Option (JsonToken × List Char) :=
  match markToken? c with
  | some token => some (token, rest)
  | none =>
    if c = '"' then readString? rest
    else if c.isDigit then readNumber? (c :: rest)
    else readWord? (c :: rest)

/-! ### A whole text -/

/-- May the character stand between tokens? -/
def isSpace (c : Char) : Bool := c == ' ' || c == '\t' || c == '\n' || c == '\r'

theorem length_cutString?_le {text : List Char} {cut : List Nat × List Char}
    (found : cutString? text = some cut) : cut.2.length ≤ text.length := by
  fun_induction cutString? text generalizing cut with
  | case1 => exact nomatch found
  | case2 =>
    obtain rfl := Option.some.inj found
    exact Nat.le_succ _
  | case3 =>
    next ih =>
    obtain ⟨unit, -, rest, later, rfl⟩ : ∃ unit, _ ∧ ∃ rest, _ ∧ addCode unit rest = cut := by
      simpa only [Option.bind_eq_some_iff, Option.map_eq_some_iff] using found
    have shorter := ih later
    simp only [addCode, List.length_cons]
    omega
  | case4 =>
    next ih =>
    obtain ⟨char, -, rest, later, rfl⟩ : ∃ char : Char, _ ∧ ∃ rest, _ ∧ addCode char.toNat rest = cut := by
      simpa only [Option.bind_eq_some_iff, Option.map_eq_some_iff] using found
    have shorter := ih later
    simp only [addCode, List.length_cons]
    omega
  | case5 => exact nomatch found
  | case6 => exact nomatch found
  | case7 =>
    next ih =>
    obtain ⟨rest, later, rfl⟩ := Option.map_eq_some_iff.mp found
    have shorter := ih later
    exact Nat.le_succ_of_le shorter

/-- What is read is at least the character that the token starts with. -/
theorem length_readToken?_le {c : Char} {rest after : List Char} {token : JsonToken}
    (read : readToken? c rest = some (token, after)) : after.length ≤ rest.length := by
  unfold readToken? at read
  split at read
  · simp_all
  split at read
  · obtain ⟨cut, found, chars⟩ := Option.bind_eq_some_iff.mp read
    obtain ⟨_, -, same⟩ := Option.map_eq_some_iff.mp chars
    obtain ⟨-, rfl⟩ := Prod.mk.inj same
    exact length_cutString?_le found
  split at read
  · next digit =>
    simp only [readNumber?] at read
    split at read
    · exact nomatch read
    · obtain ⟨-, rfl⟩ := Prod.mk.inj (Option.some.inj read)
      rw [List.dropWhile_cons_of_pos digit]
      exact (List.dropWhile_suffix _).length_le
  · obtain ⟨⟨word, value⟩, known, found⟩ := List.exists_of_findSome?_eq_some read
    obtain ⟨_, cut, same⟩ := Option.map_eq_some_iff.mp found
    obtain ⟨-, rfl⟩ := Prod.mk.inj same
    have whole := congrArg List.length (List.isPrefixOf?_eq_some_iff_append_eq.mp cut)
    have some : 0 < word.length := by
      revert known
      simp only [wordValues, List.mem_cons, Prod.mk.injEq, List.not_mem_nil, or_false]
      rintro (⟨rfl, -⟩ | ⟨rfl, -⟩ | ⟨rfl, -⟩) <;> decide
    simp only [List.length_append, List.length_cons] at whole
    omega

/-- The tokens of a text. -/
def readTokens : List Char → Option (List JsonToken)
  | [] => some []
  | c :: rest =>
    if isSpace c then readTokens rest
    else match _read : readToken? c rest with
      | some (token, after) => (readTokens after).map (token :: ·)
      | none => none
termination_by text => text.length
decreasing_by
  · exact Nat.lt_succ_self _
  · exact Nat.lt_succ_of_le (length_readToken?_le _read)

/-! ### The tokens of a value -/

mutual

/-- The tokens of a value, in order. -/
def tokens : Json → List JsonToken
  | null => [.plain null]
  | bool value => [.plain (bool value)]
  | number value => [.plain (number value)]
  | string text => [.string text]
  | array items => .openArray :: [.comma].intercalate (itemTokens items) ++ [.closeArray]
  | object members => .openObject :: [.comma].intercalate (memberTokens members) ++ [.closeObject]

/-- The tokens of the items of an array. -/
def itemTokens : List Json → List (List JsonToken)
  | [] => []
  | item :: rest => tokens item :: itemTokens rest

/-- The tokens of the members of an object. -/
def memberTokens : List (String × Json) → List (List JsonToken)
  | [] => []
  | (name, value) :: rest => (.string name :: .colon :: tokens value) :: memberTokens rest

end

/-! ### One token -/

theorem readTokens_of_isSpace {c : Char} (space : isSpace c = true) (rest : List Char) :
    readTokens (c :: rest) = readTokens rest := by
  rw [readTokens, if_pos space]

theorem readTokens_of_readToken? {c : Char} {rest after : List Char} {token : JsonToken}
    (solid : isSpace c = false) (read : readToken? c rest = some (token, after)) :
    readTokens (c :: rest) = (readTokens after).map (token :: ·) := by
  rw [readTokens, if_neg (by simp [solid])]
  split
  · next other _ found =>
    obtain ⟨rfl, rfl⟩ := Prod.mk.inj (Option.some.inj (found.symm.trans read))
    rfl
  · next none => exact nomatch none.symm.trans read

theorem readTokens_mark {c : Char} {token : JsonToken} (known : markToken? c = some token)
    (solid : isSpace c = false) (rest : List Char) :
    readTokens (c :: rest) = (readTokens rest).map (token :: ·) :=
  readTokens_of_readToken? solid (by rw [readToken?, known])

/-! ### Strings -/

theorem escapedUnit?_hexDigit :
    ∀ code < 0x20, escapedUnit? ['0', '0', hexDigit (code / 16), hexDigit (code % 16)] = some code := by
  decide

theorem cutString?_quote (rest : List Char) : cutString? ('"' :: rest) = some ([], rest) := by
  rw [cutString?.eq_def]
  rfl

theorem cutString?_mark {mark char : Char} (known : escapedChar? mark = some char) (rest : List Char) :
    cutString? ('\\' :: mark :: rest) = (cutString? rest).map (addCode char.toNat) := by
  have other : mark ≠ 'u' := by
    rintro rfl
    exact nomatch known
  rw [cutString?.eq_def]
  simp only [Char.reduceEq, if_false, if_true]
  split
  · next same => exact absurd (List.cons.inj same).1 other
  · next same =>
    obtain ⟨rfl, rfl⟩ := List.cons.inj same
    rw [known, Option.bind_some]
  · next same => exact nomatch same

theorem cutString?_unit {first second third fourth : Char} {unit : Nat}
    (known : escapedUnit? [first, second, third, fourth] = some unit) (rest : List Char) :
    cutString? ('\\' :: 'u' :: first :: second :: third :: fourth :: rest) =
      (cutString? rest).map (addCode unit) := by
  rw [cutString?.eq_def]
  simp [known]

theorem cutString?_plain {c : Char} (noQuote : c ≠ '"') (noBackslash : c ≠ '\\')
    (printed : ¬ c.toNat < 0x20) (rest : List Char) :
    cutString? (c :: rest) = (cutString? rest).map (addCode c.toNat) := by
  rw [cutString?.eq_def]
  simp only [if_neg noQuote, if_neg noBackslash, if_neg printed]

/-- **A character is read as it was before it was escaped.** -/
theorem cutString?_escape (c : Char) (rest : List Char) :
    cutString? (escape c ++ rest) = (cutString? rest).map (addCode c.toNat) := by
  unfold escape
  split
  · next same => subst same; exact cutString?_mark rfl rest
  split
  · next same => subst same; exact cutString?_mark rfl rest
  split
  · next same => subst same; exact cutString?_mark rfl rest
  split
  · next same => subst same; exact cutString?_mark rfl rest
  split
  · next same => subst same; exact cutString?_mark rfl rest
  split
  · next same => subst same; exact cutString?_mark rfl rest
  split
  · next same => subst same; exact cutString?_mark rfl rest
  split
  · next low => exact cutString?_unit (escapedUnit?_hexDigit c.toNat low) rest
  · next noQuote noBackslash _ _ _ _ _ printed => exact cutString?_plain noQuote noBackslash printed rest

/-- **No character is a surrogate,** so codes of characters are read as these. -/
theorem ofUnits?_map_toNat (text : List Char) : Utf16.ofUnits? (text.map Char.toNat) = some text := by
  induction text with
  | nil => rfl
  | cons c rest ih =>
    have valid : c.toNat < 0xD800 ∨ 0xDFFF < c.toNat := c.valid.imp id And.left
    have noHigh : ¬ (0xD800 ≤ c.toNat ∧ c.toNat < 0xDC00) := by omega
    have noLow : ¬ (0xDC00 ≤ c.toNat ∧ c.toNat < 0xE000) := by omega
    rw [List.map_cons, Utf16.ofUnits?.eq_def]
    simp only [if_neg noHigh, if_neg noLow, ih, Option.map_some, Char.ofNat_toNat]

theorem cutString?_flatMap_escape (text rest : List Char) :
    cutString? (text.flatMap escape ++ '"' :: rest) = some (text.map Char.toNat, rest) := by
  induction text with
  | nil => exact cutString?_quote rest
  | cons c text ih =>
    rw [List.flatMap_cons, List.append_assoc, cutString?_escape, ih]
    rfl

theorem readTokens_quote (text : String) (rest : List Char) :
    readTokens (quote text ++ rest) = (readTokens rest).map (.string text :: ·) := by
  have read : readString? (text.toList.flatMap escape ++ '"' :: rest) = some (.string text, rest) := by
    rw [readString?, cutString?_flatMap_escape, Option.bind_some]
    simp only [ofUnits?_map_toNat, Option.map_some, String.ofList_toList]
  rw [quote, List.append_assoc, List.cons_append, List.singleton_append]
  exact readTokens_of_readToken? rfl read

/-! ### Numbers and words -/

/-- A form is read as tokens whatever follows that is no digit. -/
def ReadAs (form : List Char) (tokens : List JsonToken) : Prop :=
  ∀ rest : List Char, (∀ c ∈ rest.head?, c.isDigit = false) →
    readTokens (form ++ rest) = (readTokens rest).map (tokens ++ ·)

/-- Only 0 itself starts with the digit 0. -/
theorem toDigits_of_head? (value : Nat) (zero : (Nat.toDigits 10 value).head? = some '0') :
    Nat.toDigits 10 value = ['0'] := by
  induction value using Nat.strongRecOn with
  | ind value ih =>
    rcases Nat.lt_or_ge value 10 with small | large
    · rw [Nat.toDigits_of_lt_base small] at zero ⊢
      exact congrArg (fun c => [c]) (Option.some.inj zero)
    · rw [Nat.toDigits_of_base_le (by decide) large,
        List.head?_append_of_ne_nil _ Nat.toDigits_ne_nil] at zero
      -- The digits in front are those of a smaller number, which would be 0.
      have front := ih (value / 10) (by omega) zero
      have none : value / 10 = 0 := by
        rw [← Nat.ofDigitChars_ten_toDigits (n := value / 10), front]
        rfl
      omega

theorem takeWhile_isDigit {digits rest : List Char} (all : ∀ c ∈ digits, c.isDigit = true)
    (stops : ∀ c ∈ rest.head?, c.isDigit = false) :
    (digits ++ rest).takeWhile Char.isDigit = digits ∧ (digits ++ rest).dropWhile Char.isDigit = rest := by
  rw [List.takeWhile_append_of_pos all, List.dropWhile_append_of_pos all]
  cases rest with
  | nil => simp
  | cons c rest =>
    have stop : ¬ c.isDigit = true := by simp [stops c rfl]
    simp [List.takeWhile_cons_of_neg stop, List.dropWhile_cons_of_neg stop]

/-- **A number is read as far as its digits go.** -/
theorem readAs_number (value : Nat) : ReadAs (toString value).toList [.plain (number value)] := by
  intro rest stops
  have all : ∀ c ∈ Nat.toDigits 10 value, c.isDigit = true := fun c listed =>
    Nat.isDigit_of_mem_toDigits (by decide) (by decide) listed
  obtain ⟨taken, left⟩ := takeWhile_isDigit all stops
  rw [Nat.toString_eq_ofList_toDigits, String.toList_ofList]
  have read : readNumber? (Nat.toDigits 10 value ++ rest) = some (.plain (number value), rest) := by
    have canonical : ¬ ((Nat.toDigits 10 value).head? = some '0' ∧ Nat.toDigits 10 value ≠ ['0']) :=
      fun ⟨zero, other⟩ => other (toDigits_of_head? value zero)
    simp only [readNumber?, taken, left, if_neg canonical, Nat.ofDigitChars_ten_toDigits]
  obtain ⟨c, more, split⟩ := List.exists_cons_of_ne_nil (Nat.toDigits_ne_nil (n := value) (b := 10))
  rw [split] at all read ⊢
  have digit : c.isDigit = true := all c List.mem_cons_self
  have other : ∀ mark : Char, mark.isDigit = false → c ≠ mark := by
    rintro mark noDigit rfl
    exact absurd digit (by simp [noDigit])
  have noMark : markToken? c = none := by
    simp only [markToken?, if_neg (other '[' rfl), if_neg (other ']' rfl), if_neg (other '\x7b' rfl),
      if_neg (other '\x7d' rfl), if_neg (other ':' rfl), if_neg (other ',' rfl)]
  have solid : isSpace c = false := by
    simp [isSpace, other ' ' rfl, other '\t' rfl, other '\n' rfl, other '\r' rfl]
  have token : readToken? c (more ++ rest) = some (.plain (number value), rest) := by
    rw [readToken?, noMark]
    simp only [if_neg (other '"' rfl), if_pos digit]
    exact read
  exact readTokens_of_readToken? solid token

theorem readAs_word {word : List Char} {value : Json} (known : (word, value) ∈ wordValues) :
    ReadAs word [.plain value] := by
  intro rest _
  simp only [wordValues, List.mem_cons, Prod.mk.injEq, List.not_mem_nil, or_false] at known
  rcases known with ⟨rfl, rfl⟩ | ⟨rfl, rfl⟩ | ⟨rfl, rfl⟩
  · exact readTokens_of_readToken? rfl rfl
  · exact readTokens_of_readToken? rfl rfl
  · exact readTokens_of_readToken? rfl rfl

/-! ### Layout -/

theorem readTokens_indent (level : Nat) (rest : List Char) :
    readTokens (indent level ++ rest) = readTokens rest := by
  rw [indent, List.cons_append, readTokens_of_isSpace rfl]
  generalize 2 * level = width
  induction width with
  | zero => rfl
  | succ width ih => rw [List.replicate_succ, List.cons_append, readTokens_of_isSpace rfl, ih]

/-- Behind the last item a new line starts, so every item ends where its form ends. -/
theorem readTokens_itemLines {forms : List (List Char)} {tokens : List (List JsonToken)}
    (each : List.Forall₂ ReadAs forms tokens) (level outer : Nat) (rest : List Char) :
    readTokens (itemLines level forms ++ (indent outer ++ rest)) =
      (readTokens rest).map ([.comma].intercalate tokens ++ ·) := by
  induction each with
  | nil => simpa [itemLines] using readTokens_indent outer rest
  | cons first others ih =>
    cases others with
    | nil =>
      have last := first (indent outer ++ rest) (by simp [indent])
      simpa [itemLines, List.append_assoc, readTokens_indent] using last
    | cons second others =>
      have next : ∀ more : List Char, readTokens (_ ++ ',' :: more) = _ := fun more =>
        first (',' :: more) (by simp)
      simp only [itemLines, List.map_cons, List.intercalate_cons_cons, List.append_assoc,
        readTokens_indent, List.cons_append, List.nil_append] at ih ⊢
      rw [next, readTokens_mark rfl rfl, ih]
      cases readTokens rest <;> simp

/-- **The layout leaves no token behind.** -/
theorem readAs_block {opening closing : Char} {first last : JsonToken}
    (opens : markToken? opening = some first ∧ isSpace opening = false)
    (closes : markToken? closing = some last ∧ isSpace closing = false)
    {forms : List (List Char)} {tokens : List (List JsonToken)} (each : List.Forall₂ ReadAs forms tokens)
    (level : Nat) :
    ReadAs (block opening closing level forms) (first :: [.comma].intercalate tokens ++ [last]) := by
  intro rest _
  have final : ∀ inner : List JsonToken, ((readTokens (closing :: rest)).map (inner ++ ·)).map (first :: ·) =
      (readTokens rest).map fun others => first :: (inner ++ last :: others) := by
    intro inner
    rw [readTokens_mark closes.1 closes.2]
    cases readTokens rest <;> simp
  unfold block
  split
  · next empty =>
    obtain rfl := List.isEmpty_iff.mp empty
    cases each
    rw [List.cons_append, readTokens_mark opens.1 opens.2]
    simpa using final []
  · have inside := readTokens_itemLines each (level + 1) level (closing :: rest)
    simp only [List.cons_append, List.append_assoc, List.nil_append, readTokens_mark opens.1 opens.2, inside]
    exact final _

/-! ### Values -/

theorem readAs_member {name : String} {form : List Char} {tokens : List JsonToken}
    (value : ReadAs form tokens) :
    ReadAs (quote name ++ [':', ' '] ++ form) (.string name :: .colon :: tokens) := by
  intro rest stops
  rw [List.append_assoc, List.append_assoc, readTokens_quote, List.cons_append, List.singleton_append,
    readTokens_mark rfl rfl, readTokens_of_isSpace rfl, value rest stops]
  cases readTokens rest <;> simp

mutual

/-- **The form of a value is cut into the tokens of the value,** at any level. -/
theorem readAs_form (level : Nat) : (value : Json) → ReadAs (form level value) value.tokens
  | null => readAs_word (by simp [wordValues, form])
  | bool true => readAs_word (by simp [wordValues, form])
  | bool false => readAs_word (by simp [wordValues, form])
  | number value => readAs_number value
  | string text => fun rest _ => readTokens_quote text rest
  | array items => readAs_block ⟨rfl, rfl⟩ ⟨rfl, rfl⟩ (forall₂_itemForms (level + 1) items) level
  | object members => readAs_block ⟨rfl, rfl⟩ ⟨rfl, rfl⟩ (forall₂_memberForms (level + 1) members) level

theorem forall₂_itemForms (level : Nat) :
    (items : List Json) → List.Forall₂ ReadAs (itemForms level items) (itemTokens items)
  | [] => .nil
  | item :: rest => .cons (readAs_form level item) (forall₂_itemForms level rest)

theorem forall₂_memberForms (level : Nat) :
    (members : List (String × Json)) →
      List.Forall₂ ReadAs (memberForms level members) (memberTokens members)
  | [] => .nil
  | (_, value) :: rest => .cons (readAs_member (readAs_form level value)) (forall₂_memberForms level rest)

end

/-- **The text of a value is cut into the tokens of the value.** -/
theorem readTokens_text (value : Json) : readTokens value.text.toList = some value.tokens := by
  have whole := readAs_form 0 value [] (by simp)
  have none : readTokens [] = some [] := by rw [readTokens]
  simpa [text, none] using whole

end Json

end SchemaDump
