/-
**UTF-16 in either byte order.**

`decode?` reads pairs of bytes as 16-bit units, and two surrogates in the right order as one
character. A lone surrogate and an odd last byte are refused.
-/

namespace SchemaDump.Text.Utf16

/-- The order of the two bytes of a unit. -/
inductive ByteOrder where
  | littleEndian
  | bigEndian
  deriving DecidableEq, Repr

/-- The value of a unit. -/
def ByteOrder.unit (order : ByteOrder) (first second : UInt8) : Nat :=
  match order with
  | .littleEndian => first.toNat + 256 * second.toNat
  | .bigEndian => 256 * first.toNat + second.toNat

/-- The units of the bytes, if there is an even number of bytes. -/
def units? (order : ByteOrder) : List UInt8 → Option (List Nat)
  | [] => some []
  | [_] => none
  | first :: second :: rest => (units? order rest).map (order.unit first second :: ·)

/-- The characters of the units, if every surrogate has its partner. -/
def ofUnits? : List Nat → Option (List Char)
  | [] => some []
  | high :: rest =>
    if 0xD800 ≤ high ∧ high < 0xDC00 then
      match rest with
      | low :: more =>
        if 0xDC00 ≤ low ∧ low < 0xE000 then
          (ofUnits? more).map
            (Char.ofNat (0x10000 + 1024 * (high - 0xD800) + (low - 0xDC00)) :: ·)
        else none
      | [] => none
    else if 0xDC00 ≤ high ∧ high < 0xE000 then none
    else (ofUnits? rest).map (Char.ofNat high :: ·)

/-- The text of the bytes, if they are well formed. -/
def decode? (order : ByteOrder) (bytes : List UInt8) : Option (List Char) :=
  (units? order bytes).bind ofUnits?

end SchemaDump.Text.Utf16
