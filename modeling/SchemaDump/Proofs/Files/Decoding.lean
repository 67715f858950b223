/-
**Statement files are decoded without loss.**

A file is tried as UTF-8, and taken as Windows-1252 if it is none and no byte order mark says otherwise.
The two never compete: bytes that are those of a text are read as that text
(`decodeStatement?_encode`), and only other bytes come to Windows-1252, which takes any byte for a
character (`decodeStatement?_of_unmarked`). No byte of Windows-1252 is a byte order mark
(`charOfByte_ne_byteOrderMark`), so a mark is dropped from no text but one that was written with it.

* **`readStatement_decodes`**: what a file reads as, by its bytes.
-/

import Mathlib.Data.List.Forall2
import SchemaDump.Files.Decoding
import SchemaDump.Proofs.Text.Utf8

namespace SchemaDump

open SchemaDump.Text

/-! ### Byte order marks -/

/-- The bytes with which a text in UTF-8, or in one of the two orders of UTF-16, may start. -/
def byteOrderMarks : List (List UInt8) := [[0xEF, 0xBB, 0xBF], [0xFF, 0xFE], [0xFE, 0xFF]]

theorem encode_cons_byteOrderMark (text : List Char) :
    Utf8.encode (byteOrderMark :: text) = [0xEF, 0xBB, 0xBF] ++ Utf8.encode text := rfl

theorem dropByteOrderMark_cons (text : List Char) : dropByteOrderMark (byteOrderMark :: text) = text := rfl

theorem dropByteOrderMark_of_head?_ne {text : List Char} (other : text.head? ≠ some byteOrderMark) :
    dropByteOrderMark text = text := by
  cases text with
  | nil => rfl
  | cons c rest => exact if_neg fun same => other (congrArg some same)

/-! ### Windows-1252 -/

/-- An ASCII byte is itself. -/
theorem toNat_charOfByte {byte : UInt8} (ascii : byte < 0x80) :
    (Windows1252.charOfByte byte).toNat = byte.toNat := by
  have small : byte.toNat < 0x80 := ascii
  have valid : byte.toNat.isValidChar := .inl (by omega)
  rw [Windows1252.charOfByte, if_neg (by omega), Char.ofNat, dif_pos valid]
  rfl

/-- Every byte has another character than the byte order mark. -/
theorem charOfByte_ne_byteOrderMark (byte : UInt8) : Windows1252.charOfByte byte ≠ byteOrderMark := by
  have size := byte.toNat_lt
  unfold Windows1252.charOfByte
  split
  · have listed : ∀ place < 32,
        Char.ofNat (Windows1252.upperControls.getD place 0) ≠ byteOrderMark := by decide
    exact listed _ (by omega)
  · intro same
    have valid : byte.toNat.isValidChar := .inl (by omega)
    have points := congrArg Char.toNat same
    rw [Char.ofNat, dif_pos valid] at points
    change byte.toNat = 0xFEFF at points
    omega

/-! ### Statements -/

/-- **A text is read from its own bytes,** less one byte order mark that it starts with. -/
theorem decodeStatement?_encode (text : List Char) :
    decodeStatement? (Utf8.encode text) = some (dropByteOrderMark text) := by
  rw [decodeStatement?, Utf8.decode?_eq_some_iff.mpr rfl]
  rfl

/-- **Other bytes are taken one by one,** if no mark says how they are to be read. -/
theorem decodeStatement?_of_unmarked {bytes : List UInt8} (other : ¬ bytes.toByteArray.IsValidUTF8)
    (unmarked : ∀ mark ∈ byteOrderMarks, ¬ mark <+: bytes) :
    decodeStatement? bytes = some (Windows1252.decode bytes) := by
  have taken : decodeOther? bytes = some (Windows1252.decode bytes) := by
    unfold decodeOther?
    split
    · next rest => exact absurd ⟨rest, rfl⟩ (unmarked [0xEF, 0xBB, 0xBF] (by decide))
    · next rest => exact absurd ⟨rest, rfl⟩ (unmarked [0xFF, 0xFE] (by decide))
    · next rest => exact absurd ⟨rest, rfl⟩ (unmarked [0xFE, 0xFF] (by decide))
    · rfl
  have kept : dropByteOrderMark (Windows1252.decode bytes) = Windows1252.decode bytes := by
    refine dropByteOrderMark_of_head?_ne fun marked => ?_
    rw [Windows1252.decode, List.head?_map, Option.map_eq_some_iff] at marked
    obtain ⟨byte, -, same⟩ := marked
    exact charOfByte_ne_byteOrderMark byte same
  rw [decodeStatement?, Utf8.decode?_eq_none_iff.mpr other, taken]
  exact congrArg some kept

theorem readStatement_of_decoded {files : FileSystem} {path : Path} {bytes : List UInt8}
    (stored : files.content path = .ok bytes) {text : List Char}
    (decoded : decodeStatement? bytes = some text) :
    readStatement files path = .ok (String.ofList text) := by
  rw [readStatement, stored]
  simp only [decoded]

/-- **A statement file is read as the text that was written.** Behind the bytes of a byte order mark that
may be any text, and without them any text that does not start with the mark itself. If the bytes are not
UTF-8 and no byte order mark is in front of them, reading succeeds as well: each byte is one character, in
order, and an ASCII byte is itself. -/
theorem readStatement_decodes {files : FileSystem} {path : Path} {bytes : List UInt8}
    (stored : files.content path = .ok bytes) :
    (∀ text : String, bytes = [0xEF, 0xBB, 0xBF] ++ text.toUTF8.data.toList →
      readStatement files path = .ok text) ∧
    (∀ text : String, text.toList.head? ≠ some byteOrderMark → bytes = text.toUTF8.data.toList →
      readStatement files path = .ok text) ∧
    (¬ bytes.toByteArray.IsValidUTF8 → (∀ mark ∈ byteOrderMarks, ¬ mark <+: bytes) →
      ∃ text, readStatement files path = .ok text ∧
        List.Forall₂ (fun byte c => c = Windows1252.charOfByte byte ∧
          (byte < 0x80 → c.toNat = byte.toNat)) bytes text.toList) := by
  refine ⟨fun text marked => ?_, fun text plain written => ?_, fun other unmarked => ?_⟩
  · rw [← Utf8.encode_toList, ← encode_cons_byteOrderMark] at marked
    rw [readStatement_of_decoded stored (marked ▸ decodeStatement?_encode _), dropByteOrderMark_cons,
      String.ofList_toList]
  · rw [← Utf8.encode_toList] at written
    rw [readStatement_of_decoded stored (written ▸ decodeStatement?_encode _),
      dropByteOrderMark_of_head?_ne plain, String.ofList_toList]
  · refine ⟨_, readStatement_of_decoded stored (decodeStatement?_of_unmarked other unmarked), ?_⟩
    rw [String.toList_ofList, Windows1252.decode, List.forall₂_map_right_iff, List.forall₂_same]
    exact fun byte _ => ⟨rfl, toNat_charOfByte⟩

/-- A word with an accent, in UTF-8 behind a mark and without it, and in Windows-1252. -/
theorem readStatement_decodes_accent :
    readStatement (.ofEntry ⟨"t"⟩ (.file [0xEF, 0xBB, 0xBF, 0x63, 0x61, 0x66, 0xC3, 0xA9])) ⟨"t"⟩ =
      .ok "café" ∧
    readStatement (.ofEntry ⟨"t"⟩ (.file [0x63, 0x61, 0x66, 0xC3, 0xA9])) ⟨"t"⟩ = .ok "café" ∧
    ∃ text, readStatement (.ofEntry ⟨"t"⟩ (.file [0x63, 0x61, 0x66, 0xE9])) ⟨"t"⟩ = .ok text ∧
      List.Forall₂ (fun byte c => c = Windows1252.charOfByte byte ∧
        (byte < 0x80 → c.toNat = byte.toNat)) [0x63, 0x61, 0x66, 0xE9] text.toList := by
  have other : Utf8.decode? [0x63, 0x61, 0x66, 0xE9] = none := by decide +kernel
  exact ⟨(readStatement_decodes rfl).1 "café" (by decide +kernel),
    (readStatement_decodes rfl).2.1 "café" (by decide) (by decide +kernel),
    (readStatement_decodes rfl).2.2 (Utf8.decode?_eq_none_iff.mp other) (by decide)⟩

end SchemaDump
