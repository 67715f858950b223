/-
**How a server spells strings and numerals, and how they are read.**

* `quoteString`: a string between apostrophes on one line, with apostrophes and backslashes doubled and
  line feeds written as an escape. **`scanToken_quoteString`** reads it as a literal with the same
  content.
* `Decimal`: decimal digits, perhaps with a point, which are read as a number without a mark
  (**`reads_decimal`**), and `Numeral`: digits alone.
* `argumentList`: numerals between parentheses, which are read as a group as it is written
  (`group_argumentTokens`).
-/

import SchemaDump.Proofs.Sql.Group

namespace SchemaDump.Sql

open SchemaDump.Text

/-! ### Strings -/

/-- A character as it stands in a quoted string. -/
def escapeChar (c : Char) : List Char :=
  if c = apostrophe then [apostrophe, apostrophe]
  else if c = '\\' then ['\\', '\\']
  else if c = lineFeed then ['\\', 'n']
  else [c]

/-- A string as a server writes it. -/
def quoteString (content : String) : List Char :=
  apostrophe :: (content.toList.flatMap escapeChar ++ [apostrophe])

theorem scanQuoted_escapeChar (c : Char) (rest : List Char) :
    scanQuoted apostrophe true (escapeChar c ++ rest) =
      withFirst c (scanQuoted apostrophe true rest) := by
  have slash : '\\' ≠ apostrophe := by decide
  unfold escapeChar
  split
  · next same => rw [same, List.cons_append, List.singleton_append, scanQuoted_mark_mark]
  split
  · next same =>
    rw [List.cons_append, List.singleton_append, scanQuoted_escape slash, same]
    rfl
  split
  · next same =>
    rw [List.cons_append, List.singleton_append, scanQuoted_escape slash, same]
    rfl
  · next mark backslash _ =>
    refine scanQuoted_cons mark ?_ rest
    rw [Bool.true_and, beq_eq_false_iff_ne]
    exact backslash

theorem scanQuoted_escaped (content : List Char) {after : List Char}
    (stop : after.head? ≠ some apostrophe) :
    scanQuoted apostrophe true (content.flatMap escapeChar ++ apostrophe :: after) =
      some (content, after) := by
  induction content with
  | nil => exact scanQuoted_end stop
  | cons c rest ih =>
    rw [List.flatMap_cons, List.append_assoc, scanQuoted_escapeChar, ih, withFirst_some]

/-- **A quoted string is read as a literal with its content.** -/
theorem scanToken_quoteString (content : String) {after : List Char}
    (stop : after.head? ≠ some apostrophe) :
    scanToken apostrophe (content.toList.flatMap escapeChar ++ apostrophe :: after) =
      some (.literal .single content, after) := by
  have opened (rest : List Char) : openedLiteral? apostrophe rest = some (.single, rest) := by
    unfold openedLiteral?
    rw [if_pos rfl]
  unfold scanToken
  rw [opened]
  simp only
  rw [scanLiteral, scanBody, LiteralStyle.mark, scanQuoted_escaped content.toList stop, Option.map_some]
  simp only [String.ofList_toList]

theorem reads_quoteString (content : String) {after : List Char}
    (stop : after.head? ≠ some apostrophe) :
    Reads (quoteString content ++ after) [.literal .single content] after := by
  rw [quoteString, List.cons_append, List.append_assoc, List.singleton_append]
  exact .single (scanToken_quoteString content stop)

/-- The characters that are escaped. -/
def escapedChars : List Char := [apostrophe, '\\', lineFeed]

theorem length_escapeChar {c : Char} (listed : c ∈ escapedChars) : (escapeChar c).length = 2 := by
  have each : ∀ d ∈ escapedChars, (escapeChar d).length = 2 :=
    List.all_iff_forall_prop.mp (by decide)
  exact each c listed

theorem escapeChar_of_not_mem {c : Char} (other : c ∉ escapedChars) : escapeChar c = [c] := by
  simp only [escapedChars, List.mem_cons, List.not_mem_nil, or_false, not_or] at other
  rw [escapeChar, if_neg other.1, if_neg other.2.1, if_neg other.2.2]

theorem length_le_escaped (text : List Char) : text.length ≤ (text.flatMap escapeChar).length := by
  induction text with
  | nil => exact Nat.le_refl _
  | cons c rest ih =>
    have positive : 1 ≤ (escapeChar c).length := by
      by_cases listed : c ∈ escapedChars
      · rw [length_escapeChar listed]
        decide
      · rw [escapeChar_of_not_mem listed]
        exact Nat.le_refl 1
    rw [List.flatMap_cons, List.length_append, List.length_cons]
    omega

/-- **Escaping leaves a text as it is exactly if nothing in it is escaped.** -/
theorem escaped_eq_iff {text : List Char} :
    text.flatMap escapeChar = text ↔ ∀ c ∈ text, c ∉ escapedChars := by
  induction text with
  | nil => simp
  | cons c rest ih =>
    rw [List.forall_mem_cons, ← ih, List.flatMap_cons]
    by_cases listed : c ∈ escapedChars
    · refine iff_of_false (fun same => ?_) fun both => both.1 listed
      have longer := length_le_escaped rest
      have lengths := congrArg List.length same
      rw [List.length_append, length_escapeChar listed, List.length_cons] at lengths
      omega
    · rw [escapeChar_of_not_mem listed, List.singleton_append, List.cons_inj_right]
      exact (and_iff_right listed).symm

theorem free_quoteString (content : String) : lineFeed ∉ quoteString content := by
  have each (c : Char) : lineFeed ∉ escapeChar c := by
    unfold escapeChar
    split
    · decide
    split
    · decide
    split
    · decide
    · next other => simp [Ne.symm other]
  have mark : lineFeed ≠ apostrophe := by decide
  simp [quoteString, mark, each]

/-! ### Numerals -/

/-- Decimal digits, at least one. -/
structure Numeral where
  first : Char
  more : List Char
  digits : ∀ c ∈ first :: more, c.isDigit = true
  deriving DecidableEq

namespace Numeral

def text (numeral : Numeral) : List Char := numeral.first :: numeral.more

def token (numeral : Numeral) : Token := .number (String.ofList numeral.text) false

theorem toList_text_token (numeral : Numeral) : numeral.token.text.toList = numeral.text :=
  String.toList_ofList

end Numeral

/-- A numeral ends in front of the text: neither a name character nor a point follows. -/
def EndsNumeral (text : List Char) : Prop := ∀ c ∈ text.head?, isNamePart c = false ∧ c ≠ '.'

theorem BehindItem.endsNumeral {text : List Char} (behind : BehindItem text) : EndsNumeral text := by
  obtain ⟨c, rest, rfl, stops⟩ := behind
  have each : ∀ d ∈ [')', ','], isNamePart d = false ∧ d ≠ '.' :=
    List.all_iff_forall_prop.mp (by decide +kernel)
  intro d found
  obtain rfl : c = d := by simpa using found
  exact each c stops

theorem isNamePart_of_isDigit {c : Char} (digit : c.isDigit = true) : isNamePart c = true := by
  rw [isNamePart, digit, Bool.or_true]

/-- No letter that could carry a numeral on is other than a name character. -/
theorem not_carries {c : Char} (ends : isNamePart c = false) :
    c ≠ 'x' ∧ c ≠ 'e' ∧ c ≠ 'E' ∧ c ≠ 'L' := by
  have letters : ∀ d ∈ ['x', 'e', 'E', 'L'], isNamePart d = true :=
    List.all_iff_forall_prop.mp (by decide +kernel)
  refine ⟨?_, ?_, ?_, ?_⟩ <;>
  · rintro rfl
    rw [letters _ (by decide)] at ends
    exact Bool.noConfusion ends

theorem scanExponent_ends (mantissa : List Char) {after : List Char} (ends : EndsNumeral after) :
    scanExponent mantissa after = (.number (String.ofList mantissa) false, after) := by
  cases after with
  | nil => rfl
  | cons c rest =>
    obtain ⟨stops, -⟩ := ends c (by simp)
    obtain ⟨-, small, big, long⟩ := not_carries stops
    rw [scanExponent, if_neg (not_or.mpr ⟨small, big⟩), stops, if_neg Bool.false_ne_true]
    unfold scanLong
    split
    · next same => exact absurd (List.cons.inj same).1 long
    · rfl

theorem scanFraction_ends (whole : List Char) {after : List Char} (ends : EndsNumeral after) :
    scanFraction whole after = (.number (String.ofList whole) false, after) := by
  unfold scanFraction
  split
  · exact absurd rfl (ends '.' rfl).2
  · exact scanExponent_ends whole ends

/-- Decimal digits with at most one point before, among or behind them. -/
structure Decimal where
  whole : List Char
  fraction : Option (List Char)
  digits : ∀ c ∈ whole ++ fraction.getD [], c.isDigit = true
  counts : whole ++ fraction.getD [] ≠ []
  deriving DecidableEq

namespace Decimal

/-- The point and the digits behind it. -/
def fractionText : Option (List Char) → List Char
  | none => []
  | some digits => '.' :: digits

def text (decimal : Decimal) : List Char := decimal.whole ++ fractionText decimal.fraction

def token (decimal : Decimal) : Token := .number (String.ofList decimal.text) false

theorem exists_first (decimal : Decimal) :
    ∃ c more, decimal.text = c :: more ∧ (c.isDigit || c == '.') = true := by
  obtain ⟨whole, fraction, digits, counts⟩ := decimal
  cases whole with
  | cons c more =>
    refine ⟨c, more ++ fractionText fraction, rfl, ?_⟩
    rw [digits c List.mem_cons_self, Bool.true_or]
  | nil =>
    cases fraction with
    | none => exact absurd rfl counts
    | some behind => exact ⟨'.', behind, rfl, rfl⟩

end Decimal

theorem not_isDigit_of_endsNumeral {text : List Char} (ends : EndsNumeral text) :
    ∀ c ∈ text.head?, c.isDigit = false := by
  intro c found
  rw [← Bool.not_eq_true]
  intro digit
  exact Bool.false_ne_true ((ends c found).1.symm.trans (isNamePart_of_isDigit digit))

/-- Digits are cut where they end. -/
theorem cut_digits {digits after : List Char} (each : ∀ c ∈ digits, c.isDigit = true)
    (stop : ∀ c ∈ after.head?, c.isDigit = false) :
    (digits ++ after).takeWhile Char.isDigit = digits ∧
      (digits ++ after).dropWhile Char.isDigit = after := by
  rw [List.takeWhile_append_of_pos each, List.dropWhile_append_of_pos each]
  cases after with
  | nil => exact ⟨List.append_nil digits, rfl⟩
  | cons c rest => simp [stop c rfl]

theorem scanFraction_decimal (decimal : Decimal) {after : List Char} (ends : EndsNumeral after) :
    scanFraction decimal.whole (Decimal.fractionText decimal.fraction ++ after) =
      (decimal.token, after) := by
  obtain ⟨whole, fraction, digits, counts⟩ := decimal
  cases fraction with
  | none =>
    rw [Decimal.fractionText, List.nil_append, scanFraction_ends whole ends, Decimal.token,
      Decimal.text, Decimal.fractionText, List.append_nil]
  | some behind =>
    have cut := cut_digits (List.forall_mem_append.mp digits).2 (not_isDigit_of_endsNumeral ends)
    rw [Option.getD_some] at cut counts
    have counted : (whole.isEmpty && behind.isEmpty) = false := by
      rw [← Bool.not_eq_true, Bool.and_eq_true, List.isEmpty_iff, List.isEmpty_iff, ← List.append_eq_nil_iff]
      exact counts
    rw [Decimal.fractionText, List.cons_append, scanFraction, cut.1, cut.2, counted,
      if_neg Bool.false_ne_true, scanExponent_ends _ ends]
    rfl

/-- **A decimal number is read as it is written.** -/
theorem reads_decimal (decimal : Decimal) {after : List Char} (ends : EndsNumeral after) :
    Reads (decimal.text ++ after) [decimal.token] after := by
  have stops : ∀ c ∈ (Decimal.fractionText decimal.fraction ++ after).head?,
      c.isDigit = false ∧ c ≠ 'x' := by
    cases decimal.fraction with
    | none => exact fun c found => ⟨not_isDigit_of_endsNumeral ends c found, (not_carries (ends c found).1).1⟩
    | some behind =>
      intro c found
      obtain rfl := Option.some.inj found
      decide
  have cut := cut_digits (List.forall_mem_append.mp decimal.digits).1 fun c found => (stops c found).1
  have number : scanNumber (decimal.text ++ after) = (decimal.token, after) := by
    rw [Decimal.text, List.append_assoc]
    unfold scanNumber
    rw [cut.1, cut.2]
    simp only
    split
    · next same => exact absurd rfl (stops 'x' (by rw [same]; rfl)).2
    · exact scanFraction_decimal decimal ends
  -- The first character is a digit or a point, so nothing else is tried in front of a number.
  obtain ⟨c, more, spelled, opens⟩ := decimal.exists_first
  have others : ∀ d ∈ backtick :: openers, (d.isDigit || d == '.') = false :=
    List.all_iff_forall_prop.mp (by decide)
  have other : c ∉ backtick :: openers := fun listed =>
    Bool.false_ne_true ((others c listed).symm.trans opens)
  simp only [List.mem_cons, not_or] at other
  rw [spelled] at number ⊢
  refine .single ?_
  unfold scanToken
  rw [openedLiteral?_of_not_opener other.2]
  simp only
  rw [if_neg other.1, opens, if_pos rfl]
  exact congrArg some number

/-- A numeral is a decimal number without a point. -/
def Numeral.decimal (numeral : Numeral) : Decimal where
  whole := numeral.text
  fraction := none
  digits := by
    rw [Option.getD_none, List.append_nil]
    exact numeral.digits
  counts := List.cons_ne_nil _ _

theorem reads_numeral (numeral : Numeral) {after : List Char} (behind : BehindItem after) :
    Reads (numeral.text ++ after) [numeral.token] after := by
  have same : numeral.decimal.text = numeral.text := List.append_nil numeral.text
  have read := reads_decimal numeral.decimal behind.endsNumeral
  rwa [Decimal.token, same] at read

/-! ### Groups -/

/-- Numerals between parentheses. -/
def argumentList (numerals : List Numeral) : List Char :=
  '(' :: (commaList (numerals.map Numeral.text) ++ [')'])

def argumentTokens (numerals : List Numeral) : List Token :=
  .leftParen :: (commaTokens (numerals.map Numeral.token) ++ [.rightParen])

theorem reads_argumentList (numerals : List Numeral) (after : List Char) :
    Reads (argumentList numerals ++ after) (argumentTokens numerals) after :=
  reads_groupText numerals (fun numeral _ _ => reads_numeral numeral) after

/-- **The arguments of a type are read as they are written.** -/
theorem group_argumentTokens (numerals : List Numeral) (rest : List Token) :
    group (argumentTokens numerals ++ rest) =
      (some (String.ofList (argumentList numerals)), rest) :=
  group_groupTokens numerals (fun _ => ⟨Token.noConfusion, Token.noConfusion⟩)
    Numeral.toList_text_token rest

end SchemaDump.Sql
