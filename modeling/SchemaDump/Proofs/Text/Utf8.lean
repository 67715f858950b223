/-
**Reading UTF-8 undoes writing it, and bytes stand in the order of texts.**

Every character is read from its form, whatever follows (`units_encodeChar_append`): the bounds of the
second byte let through what `encodeChar` writes, since a character is no surrogate and its form is the
shortest. So the units of a text are its characters, and nothing in it is repaired.

The bounds let through nothing else (`encodeChar_of_readUnit`), so bytes are read exactly if they are those
of a text (`decode?_eq_some_iff`). These are the bytes that Lean's own strings have (`encode_toList`,
`decode?_eq_none_iff`).

Of two characters, the one with the smaller code point has the smaller bytes (`encodeChar_append_lt`), so
texts compared by code points compare alike by bytes (`encode_lt_encode`).
-/

import SchemaDump.Text.Utf8

namespace SchemaDump.Text.Utf8

/-! ### Bytes that carry on -/

theorem continuation?_ofNat {low high bits : Nat} (small : bits < 64) (above : low ≤ 0x80 + bits)
    (below : 0x80 + bits ≤ high) : continuation? low high (UInt8.ofNat (0x80 + bits)) = some bits := by
  have value : (UInt8.ofNat (0x80 + bits)).toNat = 0x80 + bits := UInt8.toNat_ofNat_of_lt (by
    show _ < 256
    omega)
  rw [continuation?, value, if_pos ⟨above, below⟩, Nat.add_sub_cancel_left]

theorem carryOn_ofNat {bits : Nat} (small : bits < 64) (value count : Nat) (rest : List UInt8) :
    carryOn value (count + 1) (UInt8.ofNat (0x80 + bits) :: rest) =
      carryOn (64 * value + bits) count rest := by
  rw [carryOn, continuation?_ofNat small (by omega) (by omega)]

/-- What a second byte must carry behind the lead bytes with bounds of their own. -/
structure SecondFits (lead bits : Nat) : Prop where
  small : bits < 64
  notLong : lead = 0xE0 → 0x20 ≤ bits
  noSurrogate : lead = 0xED → bits < 0x20
  notLonger : lead = 0xF0 → 0x10 ≤ bits
  inRange : lead = 0xF4 → bits < 0x10

theorem afterLead_ofNat {lead bits : Nat} (fits : SecondFits lead bits) (value count : Nat)
    (rest : List UInt8) : afterLead lead value count (UInt8.ofNat (0x80 + bits) :: rest) =
      carryOn (64 * value + bits) count rest := by
  obtain ⟨small, notLong, noSurrogate, notLonger, inRange⟩ := fits
  have bounds : (secondBounds lead).1 ≤ 0x80 + bits ∧ 0x80 + bits ≤ (secondBounds lead).2 := by
    unfold secondBounds
    repeat' split
    all_goals
      simp only
      omega
  rw [afterLead, continuation?_ofNat small bounds.1 bounds.2]

/-! ### Characters and texts -/

theorem readUnit_ofNat {lead : Nat} (byte : lead < 256) (rest : List UInt8) :
    readUnit (UInt8.ofNat lead) rest =
      if lead < 0x80 then (some (Char.ofNat lead), rest)
      else if 0xC2 ≤ lead ∧ lead ≤ 0xDF then afterLead lead (lead - 0xC0) 0 rest
      else if 0xE0 ≤ lead ∧ lead ≤ 0xEF then afterLead lead (lead - 0xE0) 1 rest
      else if 0xF0 ≤ lead ∧ lead ≤ 0xF4 then afterLead lead (lead - 0xF0) 2 rest
      else (none, rest) := by
  have value : (UInt8.ofNat lead).toNat = lead := UInt8.toNat_ofNat_of_lt byte
  rw [readUnit, value]

/-- **A character is read from its form, whatever follows.** -/
theorem units_encodeChar_append (c : Char) (rest : List UInt8) :
    units (encodeChar c ++ rest) = some c :: units rest := by
  have valid : c.toNat < 0xD800 ∨ 0xDFFF < c.toNat ∧ c.toNat < 0x110000 := c.valid
  have unit {first : UInt8} {more : List UInt8}
      (read : readUnit first (more ++ rest) = (some c, rest)) :
      units (first :: more ++ rest) = some c :: units rest := by
    rw [List.cons_append, units, read]
  have value {bits : Nat} (same : bits = c.toNat) : some (Char.ofNat bits) = some c := by
    rw [same, Char.ofNat_toNat]
  unfold encodeChar
  simp only
  split
  · next one =>
    refine unit ?_
    rw [readUnit_ofNat (by omega), if_pos one, value rfl]
    rfl
  split
  · refine unit ?_
    rw [readUnit_ofNat (by omega), if_neg (by omega), if_pos (by omega), List.singleton_append,
      afterLead_ofNat (by constructor <;> omega), carryOn, value (by omega)]
  split
  · refine unit ?_
    rw [readUnit_ofNat (by omega), if_neg (by omega), if_neg (by omega), if_pos (by omega),
      List.cons_append, afterLead_ofNat (by constructor <;> omega), List.singleton_append,
      carryOn_ofNat (by omega), carryOn, value (by omega)]
  · refine unit ?_
    rw [readUnit_ofNat (by omega), if_neg (by omega), if_neg (by omega), if_neg (by omega),
      if_pos (by omega), List.cons_append, afterLead_ofNat (by constructor <;> omega), List.cons_append,
      carryOn_ofNat (by omega), List.singleton_append, carryOn_ofNat (by omega), carryOn,
      value (by omega)]

theorem units_encode (text : List Char) : units (encode text) = text.map some := by
  induction text with
  | nil => rw [encode, List.flatMap_nil, units, List.map_nil]
  | cons c rest ih =>
    rw [encode, List.flatMap_cons, units_encodeChar_append, List.map_cons]
    exact congrArg (some c :: ·) ih

/-- **Nothing in a written text is repaired.** -/
theorem decodeRepaired_encode (text : List Char) : decodeRepaired (encode text) = text := by
  rw [decodeRepaired, units_encode, List.map_map]
  exact List.map_id text

/-! ### Only written texts are read -/

theorem continuation?_eq_some_iff {low high bits : Nat} {byte : UInt8} :
    continuation? low high byte = some bits ↔
      (low ≤ byte.toNat ∧ byte.toNat ≤ high) ∧ byte.toNat - 0x80 = bits := by
  unfold continuation?
  split
  · next within => simp [within]
  · next outside => simp [outside]

theorem carryOn_eq_some {value count : Nat} {bytes after : List UInt8} {c : Char}
    (read : carryOn value (count + 1) bytes = (some c, after)) :
    ∃ byte rest, bytes = byte :: rest ∧ 0x80 ≤ byte.toNat ∧ byte.toNat ≤ 0xBF ∧
      carryOn (64 * value + (byte.toNat - 0x80)) count rest = (some c, after) := by
  cases bytes with
  | nil => simp [carryOn] at read
  | cons byte rest =>
    rw [carryOn] at read
    split at read
    · next bits found =>
      obtain ⟨⟨low, high⟩, rfl⟩ := continuation?_eq_some_iff.mp found
      exact ⟨byte, rest, rfl, low, high, read⟩
    · simp at read

theorem afterLead_eq_some {lead value count : Nat} {bytes after : List UInt8} {c : Char}
    (read : afterLead lead value count bytes = (some c, after)) :
    ∃ byte rest, bytes = byte :: rest ∧ 0x80 ≤ byte.toNat ∧ SecondFits lead (byte.toNat - 0x80) ∧
      carryOn (64 * value + (byte.toNat - 0x80)) count rest = (some c, after) := by
  cases bytes with
  | nil => simp [afterLead] at read
  | cons byte rest =>
    rw [afterLead] at read
    split at read
    · next bits found =>
      obtain ⟨⟨low, high⟩, rfl⟩ := continuation?_eq_some_iff.mp found
      unfold secondBounds at low high
      exact ⟨byte, rest, rfl, by grind, by constructor <;> grind, read⟩
    · simp at read

/-- **A character that is read has the form that it is read from.** -/
theorem encodeChar_of_readUnit {first : UInt8} {rest after : List UInt8} {c : Char}
    (read : readUnit first rest = (some c, after)) : encodeChar c ++ after = first :: rest := by
  have size := first.toNat_lt
  have point {value : Nat} (valid : value.isValidChar) (char : some (Char.ofNat value) = some c) :
      c.toNat = value := by
    rw [← Option.some.inj char, Char.ofNat, dif_pos valid]
    rfl
  have byteOf (byte : UInt8) {value : Nat} (same : value = byte.toNat) : UInt8.ofNat value = byte := by
    rw [same, UInt8.ofNat_toNat]
  unfold readUnit at read
  simp only at read
  unfold encodeChar
  simp only
  -- The value lies in the range of its length, and each byte is found in its share of the bits.
  split at read
  · next one =>
    obtain ⟨char, rfl⟩ := Prod.mk.inj read
    rw [point (.inl (by omega)) char, if_pos one, byteOf first rfl, List.singleton_append]
  split at read
  · obtain ⟨second, _, rfl, low, ⟨small, -, -, -, -⟩, read⟩ := afterLead_eq_some read
    obtain ⟨char, rfl⟩ := Prod.mk.inj read
    rw [point (.inl (by omega)) char, if_neg (by omega), if_pos (by omega),
      byteOf first (by omega), byteOf second (by omega)]
    rfl
  split at read
  · obtain ⟨second, _, rfl, low, ⟨small, notLong, noSurrogate, -, -⟩, read⟩ := afterLead_eq_some read
    obtain ⟨third, _, rfl, low', high', read⟩ := carryOn_eq_some read
    obtain ⟨char, rfl⟩ := Prod.mk.inj read
    rw [point (by unfold Nat.isValidChar; omega) char, if_neg (by omega), if_neg (by omega),
      if_pos (by omega), byteOf first (by omega), byteOf second (by omega),
      byteOf third (by omega)]
    rfl
  split at read
  · obtain ⟨second, _, rfl, low, ⟨small, -, -, notLonger, inRange⟩, read⟩ := afterLead_eq_some read
    obtain ⟨third, _, rfl, low', high', read⟩ := carryOn_eq_some read
    obtain ⟨fourth, _, rfl, low'', high'', read⟩ := carryOn_eq_some read
    obtain ⟨char, rfl⟩ := Prod.mk.inj read
    rw [point (by unfold Nat.isValidChar; omega) char, if_neg (by omega), if_neg (by omega),
      if_neg (by omega), byteOf first (by omega), byteOf second (by omega),
      byteOf third (by omega), byteOf fourth (by omega)]
    rfl
  · simp at read

/-- Bytes without a broken stretch are those of their characters. -/
theorem encode_of_units {bytes : List UInt8} {text : List Char} (read : units bytes = text.map some) :
    encode text = bytes := by
  induction text generalizing bytes with
  | nil =>
    cases bytes with
    | nil => rfl
    | cons first rest =>
      rw [units] at read
      exact absurd read (List.cons_ne_nil _ _)
  | cons c more ih =>
    cases bytes with
    | nil =>
      rw [units] at read
      exact absurd read.symm (List.cons_ne_nil _ _)
    | cons first rest =>
      rw [units, List.map_cons, List.cons.injEq] at read
      have unit : readUnit first rest = (some c, (readUnit first rest).2) := Prod.ext read.1 rfl
      rw [encode, List.flatMap_cons, ← encode, ih read.2, encodeChar_of_readUnit unit]

theorem mapM_id_eq_some_iff {read : List (Option Char)} {text : List Char} :
    read.mapM id = some text ↔ read = text.map some := by
  induction read generalizing text with
  | nil => cases text <;> simp
  | cons unit rest ih =>
    simp only [List.mapM_cons, id_eq, Option.bind_eq_bind, Option.bind_eq_some_iff, ih, Option.pure_def]
    constructor
    · rintro ⟨c, rfl, more, rfl, ⟨⟩⟩
      rfl
    · cases text with
      | nil => exact nofun
      | cons c more =>
        rintro ⟨⟩
        exact ⟨c, rfl, more, rfl, rfl⟩

/-- **Bytes are read exactly if they are those of a text, and then as that text.** -/
theorem decode?_eq_some_iff {bytes : List UInt8} {text : List Char} :
    decode? bytes = some text ↔ encode text = bytes := by
  rw [decode?, mapM_id_eq_some_iff]
  constructor
  · exact encode_of_units
  · rintro rfl
    exact units_encode text

/-! ### The bytes of strings -/

theorem encodeChar_eq (c : Char) : encodeChar c = String.utf8EncodeChar c := by
  have valid : c.toNat < 0xD800 ∨ 0xDFFF < c.toNat ∧ c.toNat < 0x110000 := c.valid
  have lead {value mark bound : Nat} (small : value < bound) : value % bound + mark = mark + value := by
    rw [Nat.mod_eq_of_lt small, Nat.add_comm]
  unfold encodeChar String.utf8EncodeChar
  simp only [show c.val.toNat = c.toNat from rfl]
  split
  · rw [if_pos (by omega)]
  split
  · rw [if_neg (by omega), if_pos (by omega), lead (by omega), Nat.add_comm (c.toNat % 64)]
  split
  · rw [if_neg (by omega), if_neg (by omega), if_pos (by omega), lead (by omega),
      Nat.add_comm (c.toNat / 64 % 64), Nat.add_comm (c.toNat % 64)]
  · rw [if_neg (by omega), if_neg (by omega), if_neg (by omega), lead (by omega),
      Nat.add_comm (c.toNat / 4096 % 64), Nat.add_comm (c.toNat / 64 % 64), Nat.add_comm (c.toNat % 64)]

theorem toByteArray_encode (text : List Char) : (encode text).toByteArray = text.utf8Encode := by
  rw [encode, funext encodeChar_eq, List.utf8Encode]

theorem encode_toList (text : String) : encode text.toList = text.toUTF8.data.toList := by
  have bytes : text.toUTF8 = text.toList.utf8Encode := by
    conv => lhs; rw [← String.ofList_toList (s := text)]
    exact String.toByteArray_ofList
  rw [bytes, ← toByteArray_encode, List.data_toByteArray]

theorem isValidUTF8_iff {bytes : List UInt8} :
    bytes.toByteArray.IsValidUTF8 ↔ ∃ text, encode text = bytes := by
  constructor
  · rintro ⟨text, same⟩
    rw [← toByteArray_encode] at same
    have arrays := congrArg (fun array => array.data.toList) same
    exact ⟨text, by simpa using arrays.symm⟩
  · rintro ⟨text, rfl⟩
    exact ⟨text, toByteArray_encode text⟩

/-- **No text is read exactly from bytes that are not UTF-8.** -/
theorem decode?_eq_none_iff {bytes : List UInt8} :
    decode? bytes = none ↔ ¬ bytes.toByteArray.IsValidUTF8 := by
  rw [Option.eq_none_iff_forall_ne_some, isValidUTF8_iff, not_exists]
  exact forall_congr' fun text => not_congr decode?_eq_some_iff

/-! ### Order -/

/-- Bytes are compared at the first place where they differ. -/
theorem cons_lt_cons_of_le {first second : Nat} (byte : second < 256) (le : first ≤ second)
    {rest more : List UInt8} (later : first = second → rest < more) :
    UInt8.ofNat first :: rest < UInt8.ofNat second :: more := by
  rcases Nat.lt_or_eq_of_le le with less | same
  · have bytes : (UInt8.ofNat first).toNat < (UInt8.ofNat second).toNat := by
      rwa [UInt8.toNat_ofNat_of_lt' (Nat.lt_trans less byte), UInt8.toNat_ofNat_of_lt' byte]
    exact List.cons_lt_cons_iff.mpr (.inl bytes)
  · exact List.cons_lt_cons_iff.mpr (.inr ⟨by rw [same], later same⟩)

/-- **A smaller character has smaller bytes, whatever follows.** -/
theorem encodeChar_append_lt {first second : Char} (before : first < second) (rest more : List UInt8) :
    encodeChar first ++ rest < encodeChar second ++ more := by
  have less : first.toNat < second.toNat := before
  have valid : second.toNat < 0xD800 ∨ 0xDFFF < second.toNat ∧ second.toNat < 0x110000 := second.valid
  unfold encodeChar
  simp only
  -- A longer form has the larger lead byte; forms of one length are compared byte by byte.
  split
  · repeat' split
    all_goals exact cons_lt_cons_of_le (by omega) (by omega) (by omega)
  split
  · rw [if_neg (by omega)]
    split
    · exact cons_lt_cons_of_le (by omega) (by omega) fun _ =>
        cons_lt_cons_of_le (by omega) (by omega) (by omega)
    split
    all_goals exact cons_lt_cons_of_le (by omega) (by omega) (by omega)
  split
  · rw [if_neg (by omega), if_neg (by omega)]
    split
    · exact cons_lt_cons_of_le (by omega) (by omega) fun _ =>
        cons_lt_cons_of_le (by omega) (by omega) fun _ =>
          cons_lt_cons_of_le (by omega) (by omega) (by omega)
    · exact cons_lt_cons_of_le (by omega) (by omega) (by omega)
  · rw [if_neg (by omega), if_neg (by omega), if_neg (by omega)]
    exact cons_lt_cons_of_le (by omega) (by omega) fun _ =>
      cons_lt_cons_of_le (by omega) (by omega) fun _ =>
        cons_lt_cons_of_le (by omega) (by omega) fun _ =>
          cons_lt_cons_of_le (by omega) (by omega) (by omega)

theorem encodeChar_ne_nil (c : Char) : encodeChar c ≠ [] := by
  unfold encodeChar
  simp only
  repeat' split
  all_goals exact List.cons_ne_nil _ _

/-- **Texts stand in the order of their bytes.** -/
theorem encode_lt_encode {first second : List Char} (before : first < second) :
    encode first < encode second := by
  have lex : List.Lex (· < ·) first second := before
  induction lex with
  | @nil c rest =>
    obtain ⟨byte, more, spelled⟩ := List.exists_cons_of_ne_nil (encodeChar_ne_nil c)
    rw [encode, encode, List.flatMap_nil, List.flatMap_cons, spelled]
    exact List.nil_lt_cons byte _
  | rel less =>
    rw [encode, encode, List.flatMap_cons, List.flatMap_cons]
    exact encodeChar_append_lt less _ _
  | cons later ih =>
    rw [encode, encode, List.flatMap_cons, List.flatMap_cons]
    exact List.append_left_lt (ih later)

end SchemaDump.Text.Utf8
