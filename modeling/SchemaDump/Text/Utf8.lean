/-
**UTF-8: writing, reading, and repairing.**

A sequence of bytes is read unit by unit. A unit is either one character or a *broken stretch*: the
longest run of bytes that begins some character's form and cannot be carried on, or one byte that
begins none.

* `encode` writes characters;
* `decode?` reads bytes that hold no broken stretch, and refuses all others;
* `decodeRepaired` reads any bytes, with one replacement character for each broken stretch.
-/

namespace SchemaDump.Text.Utf8

/-- The form of a character: one byte below 80, else a lead byte and one to three more. -/
def encodeChar (c : Char) : List UInt8 :=
  let point := c.toNat
  if point < 0x80 then [UInt8.ofNat point]
  else if point < 0x800 then
    [UInt8.ofNat (0xC0 + point / 64), UInt8.ofNat (0x80 + point % 64)]
  else if point < 0x10000 then
    [UInt8.ofNat (0xE0 + point / 4096), UInt8.ofNat (0x80 + point / 64 % 64),
      UInt8.ofNat (0x80 + point % 64)]
  else
    [UInt8.ofNat (0xF0 + point / 262144), UInt8.ofNat (0x80 + point / 4096 % 64),
      UInt8.ofNat (0x80 + point / 64 % 64), UInt8.ofNat (0x80 + point % 64)]

/-- The bytes of a text. -/
def encode (text : List Char) : List UInt8 := text.flatMap encodeChar

/-! ### Units -/

/-- The six bits that a byte carries on with, if it lies between the two bounds. -/
def continuation? (low high : Nat) (byte : UInt8) : Option Nat :=
  if low ≤ byte.toNat ∧ byte.toNat ≤ high then some (byte.toNat - 0x80) else none

/-- The bounds of the byte after a lead byte. They keep out forms longer than needed, surrogates and
values above 10FFFF. -/
def secondBounds (lead : Nat) : Nat × Nat :=
  if lead = 0xE0 then (0xA0, 0xBF)
  else if lead = 0xED then (0x80, 0x9F)
  else if lead = 0xF0 then (0x90, 0xBF)
  else if lead = 0xF4 then (0x80, 0x8F)
  else (0x80, 0xBF)

/-- Carries on with the value so far for `count` more bytes. The second component is what is left of
the bytes; a byte that cannot carry on is left. -/
def carryOn (value : Nat) : (count : Nat) → List UInt8 → Option Char × List UInt8
  | 0, rest => (some (Char.ofNat value), rest)
  | _ + 1, [] => (none, [])
  | count + 1, byte :: rest =>
    match continuation? 0x80 0xBF byte with
    | some bits => carryOn (64 * value + bits) count rest
    | none => (none, byte :: rest)

/-- Reads the byte after a lead byte, then `count` more. -/
def afterLead (lead value count : Nat) : List UInt8 → Option Char × List UInt8
  | [] => (none, [])
  | byte :: rest =>
    match continuation? (secondBounds lead).1 (secondBounds lead).2 byte with
    | some bits => carryOn (64 * value + bits) count rest
    | none => (none, byte :: rest)

/-- Reads one unit that starts with the byte `first`: a character, or nothing for a broken stretch,
with the bytes that follow it. -/
def readUnit (first : UInt8) (rest : List UInt8) : Option Char × List UInt8 :=
  let lead := first.toNat
  if lead < 0x80 then (some (Char.ofNat lead), rest)
  else if 0xC2 ≤ lead ∧ lead ≤ 0xDF then afterLead lead (lead - 0xC0) 0 rest
  else if 0xE0 ≤ lead ∧ lead ≤ 0xEF then afterLead lead (lead - 0xE0) 1 rest
  else if 0xF0 ≤ lead ∧ lead ≤ 0xF4 then afterLead lead (lead - 0xF0) 2 rest
  else (none, rest)

theorem length_carryOn_le (value count : Nat) (bytes : List UInt8) :
    (carryOn value count bytes).2.length ≤ bytes.length := by
  induction count generalizing value bytes with
  | zero => simp [carryOn]
  | succ count ih =>
    cases bytes with
    | nil => simp [carryOn]
    | cons byte rest =>
      cases found : continuation? 0x80 0xBF byte with
      | none => simp [carryOn, found]
      | some bits =>
        simp only [carryOn, found, List.length_cons]
        exact Nat.le_succ_of_le (ih _ _)

theorem length_afterLead_le (lead value count : Nat) (bytes : List UInt8) :
    (afterLead lead value count bytes).2.length ≤ bytes.length := by
  cases bytes with
  | nil => simp [afterLead]
  | cons byte rest =>
    simp only [afterLead]
    split
    · exact Nat.le_succ_of_le (length_carryOn_le _ _ _)
    · simp

/-- A unit is at least one byte long. -/
theorem length_readUnit_le (first : UInt8) (rest : List UInt8) :
    (readUnit first rest).2.length ≤ rest.length := by
  simp only [readUnit]
  split
  · exact Nat.le_refl _
  split
  · exact length_afterLead_le _ _ _ _
  split
  · exact length_afterLead_le _ _ _ _
  split
  · exact length_afterLead_le _ _ _ _
  · exact Nat.le_refl _

/-- The units of the bytes, in order; a broken stretch is `none`. -/
def units : List UInt8 → List (Option Char)
  | [] => []
  | first :: rest => (readUnit first rest).1 :: units (readUnit first rest).2
termination_by bytes => bytes.length
decreasing_by exact Nat.lt_succ_of_le (length_readUnit_le first rest)

/-! ### Reading -/

/-- The text that the bytes are, if they hold no broken stretch. -/
def decode? (bytes : List UInt8) : Option (List Char) := (units bytes).mapM id

/-- The character that stands for a broken stretch. -/
def replacement : Char := '\uFFFD'

/-- The text of the bytes, with a replacement character for each broken stretch. -/
def decodeRepaired (bytes : List UInt8) : List Char :=
  (units bytes).map fun unit => unit.getD replacement

end SchemaDump.Text.Utf8
