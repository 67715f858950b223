/-
**Numerals.**

Reading of unsigned numerals: a base, digits only, one optional plus sign, and a largest value. A
numeral above the largest value is refused, never reduced.
-/

namespace SchemaDump.Text

/-- The largest value of an unsigned 64-bit word. -/
def largestWord : Nat := 0xFFFFFFFFFFFFFFFF

/-- The value of a digit up to `f`, in either case. -/
def digitValue? (c : Char) : Option Nat :=
  if c.isDigit then some (c.toNat - 48)
  else if 'a' ≤ c ∧ c ≤ 'f' then some (c.toNat - 87)
  else if 'A' ≤ c ∧ c ≤ 'F' then some (c.toNat - 55)
  else none

/-- Is the character a digit of the base? -/
def isDigitOf (base : Nat) (c : Char) : Bool := (digitValue? c).any (· < base)

/-- The value that the digits have in the base, the most significant digit first. -/
def digitsValue (base : Nat) (digits : List Char) : Nat :=
  digits.foldl (fun value c => base * value + (digitValue? c).getD 0) 0

/-- Reads one or more digits of the base, after at most one plus sign. -/
def numeral? (base : Nat) (text : List Char) : Option Nat :=
  let digits := match text with
    | '+' :: rest => rest
    | _ => text
  if !digits.isEmpty && digits.all (isDigitOf base) then some (digitsValue base digits) else none

/-- Reads a decimal numeral that fits an unsigned 64-bit word. -/
def wordNumeral? (text : List Char) : Option Nat :=
  (numeral? 10 text).filter (· ≤ largestWord)

end SchemaDump.Text
