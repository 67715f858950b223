/-
**Numbers in SQL.**

A number is digits with at most one point before, among or after them, then perhaps an exponent, then
perhaps a letter `L`. Another name character behind the digits makes the whole a word; only a letter `e`
without an exponent ends the number in front of it. The digit `0` and a letter `x` open digits in base 16.
-/

import SchemaDump.Sql.Name

namespace SchemaDump.Sql

open SchemaDump.Text

/-- Ends a number here, or after a letter `L`. -/
def scanLong (digits rest : List Char) : Token × List Char :=
  match rest with
  | 'L' :: after => (.number (String.ofList digits) true, after)
  | _ => (.number (String.ofList digits) false, rest)

/-- The sign at the front of the text, if any, and the rest. -/
def cutSign (text : List Char) : List Char × List Char :=
  match text with
  | c :: rest => if c = '+' ∨ c = '-' then ([c], rest) else ([], text)
  | [] => ([], [])

/-- Reads what follows the digits before and after the point. A letter `e` must be followed by an
exponent to belong to the number; any other name character makes the whole a word. -/
def scanExponent (mantissa rest : List Char) : Token × List Char :=
  match rest with
  | [] => scanLong mantissa []
  | c :: after =>
    if c = 'e' ∨ c = 'E' then
      if ((cutSign after).2.takeWhile Char.isDigit).isEmpty then scanLong mantissa rest
      else scanLong (mantissa ++ c :: (cutSign after).1 ++ (cutSign after).2.takeWhile Char.isDigit)
        ((cutSign after).2.dropWhile Char.isDigit)
    else if isNamePart c then scanWord mantissa rest
    else scanLong mantissa rest

/-- Reads the point and the digits after it, if any; a point without digits is a mark. -/
def scanFraction (whole rest : List Char) : Token × List Char :=
  match rest with
  | '.' :: after =>
    if whole.isEmpty && (after.takeWhile Char.isDigit).isEmpty then (.symbol ".", after)
    else scanExponent (whole ++ '.' :: after.takeWhile Char.isDigit) (after.dropWhile Char.isDigit)
  | _ => scanExponent whole rest

/-- Reads a text that starts with a digit or a point. The digit `0` before a letter `x` opens digits
in base 16, printed as a literal. -/
def scanNumber (text : List Char) : Token × List Char :=
  let whole := text.takeWhile Char.isDigit
  match whole, text.dropWhile Char.isDigit with
  | ['0'], 'x' :: rest =>
    (.literal .hex (String.ofList (rest.takeWhile (isDigitOf 16))), rest.dropWhile (isDigitOf 16))
  | _, rest => scanFraction whole rest

/-! ### A number does not give characters back -/

theorem length_scanLong_le (digits rest : List Char) :
    (scanLong digits rest).2.length ≤ rest.length := by
  unfold scanLong
  split <;> simp

theorem length_cutSign_le (text : List Char) : (cutSign text).2.length ≤ text.length := by
  unfold cutSign
  split
  · split <;> simp
  · simp

theorem length_scanExponent_le (mantissa rest : List Char) :
    (scanExponent mantissa rest).2.length ≤ rest.length := by
  unfold scanExponent
  split
  · exact length_scanLong_le _ _
  · next c after =>
    split
    · split
      · exact length_scanLong_le _ _
      · have sign := length_cutSign_le after
        have digits := length_dropWhile_le Char.isDigit (cutSign after).2
        refine Nat.le_trans (length_scanLong_le _ _) ?_
        simp only [List.length_cons]
        omega
    · split
      · exact length_scanWord_le _ _
      · exact length_scanLong_le _ _

theorem length_scanFraction_le (whole rest : List Char) :
    (scanFraction whole rest).2.length ≤ rest.length := by
  unfold scanFraction
  split
  · next after =>
    split
    · simp
    · have exponent := length_scanExponent_le (whole ++ '.' :: after.takeWhile Char.isDigit)
        (after.dropWhile Char.isDigit)
      have digits := length_dropWhile_le Char.isDigit after
      simp only [List.length_cons]
      omega
  · exact length_scanExponent_le _ _

/-- A numeral takes the digit or point that it starts with. -/
theorem length_scanNumber_le {c : Char} {rest : List Char} (opens : c.isDigit ∨ c = '.') :
    (scanNumber (c :: rest)).2.length ≤ rest.length := by
  by_cases digit : c.isDigit
  · have left := length_dropWhile_le Char.isDigit rest
    simp only [scanNumber, List.dropWhile_cons, digit, if_true]
    split
    · next more _ found =>
      have hex := length_dropWhile_le (isDigitOf 16) more
      rw [found] at left
      exact Nat.le_trans (Nat.le_succ_of_le hex) left
    · exact Nat.le_trans (length_scanFraction_le _ _) left
  · obtain rfl : c = '.' := opens.resolve_left digit
    have exponent := length_scanExponent_le ('.' :: rest.takeWhile Char.isDigit)
      (rest.dropWhile Char.isDigit)
    have digits := length_dropWhile_le Char.isDigit rest
    simp only [scanNumber, List.takeWhile_cons, List.dropWhile_cons, digit]
    simp only [scanFraction, Bool.false_eq_true, if_false, List.nil_append]
    split
    · simp
    · omega

end SchemaDump.Sql
