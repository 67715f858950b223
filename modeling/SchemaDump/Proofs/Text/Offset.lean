/-
**Text by byte offsets.**

* Dropping bytes leaves the rest exactly if the bytes are those of some characters in front
  (`dropBytes?_eq_some_iff`), and so at the offsets that the library's strings have for places
  (`isValid_iff`).
* `textBetween?`: the text between two offsets, if both are places, in order. There is one exactly if the
  text can be cut there (`textBetween?_eq_some_iff`).
* `placesOf`: the offsets at which a character stands, from the left. There is one for each time that it
  stands in the text (`length_placesOf`), and behind a front they are moved by its size
  (`placesOf_append`).
-/

import SchemaDump.Text.Offset

namespace SchemaDump.Text

@[simp] theorem byteSize_nil : byteSize [] = 0 := rfl

@[simp] theorem byteSize_cons (c : Char) (text : List Char) :
    byteSize (c :: text) = c.utf8Size + byteSize text := rfl

@[simp] theorem byteSize_append (first second : List Char) :
    byteSize (first ++ second) = byteSize first + byteSize second := by
  induction first with
  | nil => rw [List.nil_append, byteSize_nil, Nat.zero_add]
  | cons c rest ih => rw [List.cons_append, byteSize_cons, ih, byteSize_cons, Nat.add_assoc]

theorem byteSize_eq_utf8ByteSize (text : List Char) :
    byteSize text = (String.ofList text).utf8ByteSize := by
  induction text with
  | nil => rfl
  | cons c rest ih =>
    rw [byteSize_cons, ih, String.ofList_cons, String.utf8ByteSize_append,
      String.utf8ByteSize_singleton]

/-! ### Dropping bytes -/

/-- **Bytes can be dropped part by part.** -/
theorem dropBytes?_append (before text : List Char) (offset : Nat) :
    dropBytes? (byteSize before + offset) (before ++ text) = dropBytes? offset text := by
  induction before with
  | nil => rw [byteSize_nil, Nat.zero_add, List.nil_append]
  | cons c rest ih =>
    have positive := c.utf8Size_pos
    obtain ⟨size, sized⟩ : ∃ size, byteSize (c :: rest) + offset = size + 1 :=
      Nat.exists_eq_succ_of_ne_zero (by rw [byteSize_cons]; omega)
    rw [sized, List.cons_append, dropBytes?, ← sized, byteSize_cons, if_pos (by omega), ← ih]
    congr 1
    omega

theorem dropBytes?_byteSize (before after : List Char) :
    dropBytes? (byteSize before) (before ++ after) = some after := by
  have dropped := dropBytes?_append before after 0
  rwa [Nat.add_zero, dropBytes?] at dropped

/-- **Bytes can be dropped where characters end.** -/
theorem dropBytes?_eq_some_iff {start : Nat} {text rest : List Char} :
    dropBytes? start text = some rest ↔ ∃ before, text = before ++ rest ∧ byteSize before = start := by
  constructor
  · intro left
    fun_induction dropBytes? start text with
    | case1 text => exact ⟨[], by simpa using left, rfl⟩
    | case2 => simp at left
    | case3 offset c more fits ih =>
      obtain ⟨before, rfl, sized⟩ := ih left
      refine ⟨c :: before, rfl, ?_⟩
      rw [byteSize_cons]
      omega
    | case4 => simp at left
  · rintro ⟨before, rfl, rfl⟩
    exact dropBytes?_byteSize before rest

/-- **The places where bytes can be dropped are those of the library's strings.** -/
theorem isValid_iff {text : String} {offset : Nat} :
    (String.Pos.Raw.mk offset).IsValid text ↔ ∃ rest, dropBytes? offset text.toList = some rest := by
  rw [String.Pos.Raw.isValid_iff_exists_append]
  simp only [dropBytes?_eq_some_iff]
  constructor
  · rintro ⟨before, after, rfl, place⟩
    refine ⟨after.toList, before.toList, String.toList_append, ?_⟩
    rw [byteSize_eq_utf8ByteSize, String.ofList_toList]
    exact (congrArg String.Pos.Raw.byteIdx place).symm
  · rintro ⟨after, before, whole, rfl⟩
    refine ⟨String.ofList before, String.ofList after, ?_, ?_⟩
    · rw [← String.ofList_append, ← whole, String.ofList_toList]
    · rw [String.Pos.Raw.ext_iff, String.byteIdx_rawEndPos, byteSize_eq_utf8ByteSize]

/-! ### The text between two places -/

/-- The text between two offsets, if both are places, and the second is not in front of the first. -/
def textBetween? (start stop : Nat) (text : List Char) : Option (List Char) := do
  let behind ← dropBytes? start text
  let after ← dropBytes? stop text
  if start ≤ stop then some (behind.take (behind.length - after.length)) else none

theorem eq_nil_of_byteSize_eq_zero {text : List Char} (none : byteSize text = 0) : text = [] := by
  cases text with
  | nil => rfl
  | cons c rest =>
    have positive := c.utf8Size_pos
    rw [byteSize_cons] at none
    omega

/-- Of two fronts of a text, the one with no more bytes is a front of the other. -/
theorem suffix_of_byteSize_le {before behind front after : List Char}
    (same : before ++ behind = front ++ after) (le : byteSize before ≤ byteSize front) :
    ∃ between, front = before ++ between ∧ behind = between ++ after := by
  rcases List.append_eq_append_iff.mp same with ⟨between, rfl, rfl⟩ | ⟨extra, rfl, rfl⟩
  · exact ⟨between, rfl, rfl⟩
  · rw [byteSize_append] at le
    have empty : byteSize extra = 0 := by omega
    obtain rfl := eq_nil_of_byteSize_eq_zero empty
    exact ⟨[], by simp⟩

/-- **There is a text between two offsets exactly if the text can be cut at both.** -/
theorem textBetween?_eq_some_iff {start stop : Nat} {text between : List Char} :
    textBetween? start stop text = some between ↔
      ∃ before after, text = before ++ between ++ after ∧ byteSize before = start ∧
        byteSize (before ++ between) = stop := by
  simp only [textBetween?, Option.bind_eq_bind, Option.bind_eq_some_iff]
  constructor
  · rintro ⟨behind, first, after, second, cut⟩
    obtain ⟨before, rfl, rfl⟩ := dropBytes?_eq_some_iff.mp first
    obtain ⟨front, same, rfl⟩ := dropBytes?_eq_some_iff.mp second
    split at cut
    · next ordered =>
      obtain ⟨inner, rfl, rfl⟩ := suffix_of_byteSize_le same ordered
      obtain rfl : inner = between := by simpa using cut
      exact ⟨before, after, (List.append_assoc _ _ _).symm, rfl, rfl⟩
    · exact absurd cut (Option.some_ne_none _).symm
  · rintro ⟨before, after, rfl, rfl, rfl⟩
    refine ⟨between ++ after, ?_, after, dropBytes?_byteSize _ _, ?_⟩
    · rw [List.append_assoc]
      exact dropBytes?_byteSize _ _
    · rw [if_pos (by rw [byteSize_append]; omega)]
      simp

theorem textBetween?_append (before text : List Char) (start stop : Nat) :
    textBetween? (byteSize before + start) (byteSize before + stop) (before ++ text) =
      textBetween? start stop text := by
  rw [textBetween?, dropBytes?_append, dropBytes?_append, textBetween?]
  simp only [Nat.add_le_add_iff_left]

/-! ### The places of a character -/

/-- The offsets at which the character stands, from the left. -/
def placesOf (mark : Char) : List Char → List Nat
  | [] => []
  | c :: rest =>
    let later := (placesOf mark rest).map (c.utf8Size + ·)
    if c = mark then 0 :: later else later

theorem placesOf_append (mark : Char) (before after : List Char) :
    placesOf mark (before ++ after) =
      placesOf mark before ++ (placesOf mark after).map (byteSize before + ·) := by
  induction before with
  | nil => simp [placesOf]
  | cons c rest ih =>
    have moved : (placesOf mark (rest ++ after)).map (c.utf8Size + ·) =
        (placesOf mark rest).map (c.utf8Size + ·) ++
          (placesOf mark after).map (byteSize (c :: rest) + ·) := by
      rw [ih, List.map_append, List.map_map]
      simp only [byteSize_cons, Nat.add_assoc, Function.comp_def]
    rw [List.cons_append, placesOf, moved, placesOf]
    split <;> rfl

theorem length_placesOf (mark : Char) (text : List Char) :
    (placesOf mark text).length = text.count mark := by
  induction text with
  | nil => rfl
  | cons c rest ih =>
    by_cases same : c = mark
    · simp [placesOf, same, ih]
    · simp [placesOf, same, ih]

theorem placesOf_of_not_mem {mark : Char} {text : List Char} (free : mark ∉ text) :
    placesOf mark text = [] := by
  rw [← List.length_eq_zero_iff, length_placesOf, List.count_eq_zero_of_not_mem free]

theorem lt_of_mem_placesOf {mark : Char} {text : List Char} {place : Nat}
    (listed : place ∈ placesOf mark text) : place < byteSize text := by
  induction text generalizing place with
  | nil => exact absurd listed List.not_mem_nil
  | cons c rest ih =>
    have positive := c.utf8Size_pos
    have later : place ∈ (placesOf mark rest).map (c.utf8Size + ·) → place < byteSize (c :: rest) := by
      intro moved
      obtain ⟨inner, behind, rfl⟩ := List.mem_map.mp moved
      exact Nat.add_lt_add_left (ih behind) _
    rw [placesOf] at listed
    split at listed
    · rcases List.mem_cons.mp listed with rfl | moved
      · rw [byteSize_cons]
        omega
      · exact later moved
    · exact later listed

/-- **From a place on, the places of the character are those in the text that is left.** -/
theorem filter_placesOf (mark : Char) (before after : List Char) :
    (placesOf mark (before ++ after)).filter (byteSize before ≤ ·) =
      (placesOf mark after).map (byteSize before + ·) := by
  rw [placesOf_append, List.filter_append, List.filter_eq_nil_iff.mpr, List.nil_append,
    List.filter_eq_self.mpr]
  · intro place listed
    obtain ⟨inner, -, rfl⟩ := List.mem_map.mp listed
    simp
  · intro place listed
    have := lt_of_mem_placesOf listed
    simp
    omega

end SchemaDump.Text
