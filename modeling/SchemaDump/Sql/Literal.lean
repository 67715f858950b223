/-
**Quoted text in SQL: bodies of literals and quoted names.**

A body is read from the first character after its opening mark to its closing mark; the result is the
content and what follows the closing mark.

* `scanQuoted`: the mark doubled is the mark; a backslash, where escapes are on, stands with the
  character after it for one character. There is no body without a closing mark.
* `scanEscaped`: the richer escapes of an `E` literal, with code points in base 16 and bytes in base 16
  or 8. An escape that names no character, or the character 0, spoils the body.
* `openedLiteral?` tells the style of a literal from its mark and the letter in front of the mark, and
  `scanLiteral` reads the body by the rules of that style.
-/

import SchemaDump.Sql.Token
import SchemaDump.Text.Numeral

namespace SchemaDump.Sql

open SchemaDump.Text

/-- A content with one more character in front. -/
def withFirst (c : Char) : Option (List Char × List Char) → Option (List Char × List Char) :=
  Option.map fun (content, rest) => (c :: content, rest)

/-! ### Plain escapes -/

/-- The character that a backslash and the given character stand for. -/
def unescaped (c : Char) : Char :=
  match c with
  | '0' => '\x00'
  | 'a' => '\x07'
  | 'b' => '\x08'
  | 'f' => '\x0C'
  | 'n' => '\n'
  | 'r' => '\r'
  | 't' => '\t'
  | 'Z' => '\x1A'
  | other => other

/-- Reads a body up to the closing mark. -/
def scanQuoted (mark : Char) (escapes : Bool) : List Char → Option (List Char × List Char)
  | [] => none
  | [c] => if c = mark then some ([], []) else none
  | c :: d :: rest =>
    if c = mark then
      if d = mark then withFirst mark (scanQuoted mark escapes rest) else some ([], d :: rest)
    else if escapes && c == '\\' then withFirst (unescaped d) (scanQuoted mark escapes rest)
    else withFirst c (scanQuoted mark escapes (d :: rest))

/-! ### Rich escapes -/

/-- The character of a code point, if it is one and no surrogate. -/
def charOfPoint? (point : Nat) : Option Char :=
  if point.isValidChar then some (Char.ofNat point) else none

/-- The character of the low byte of a number, if it is ASCII. -/
def charOfLowByte? (value : Nat) : Option Char :=
  if value % 256 < 128 then some (Char.ofNat (value % 256)) else none

/-- Reads exactly `count` characters as a code point in base 16. -/
def scanPoint (count : Nat) (text : List Char) : Option (Char × List Char) :=
  if text.length < count then none
  else do
    let c ← (numeral? 16 (text.take count)).bind charOfPoint?
    pure (c, text.drop count)

/-- Reads at most `count` digits of the base as the low byte of a number, after the digits `before`. -/
def scanByte (base count : Nat) (before text : List Char) : Option (Char × List Char) :=
  let digits := (text.take count).takeWhile (isDigitOf base)
  (charOfLowByte? (digitsValue base (before ++ digits))).map fun c =>
    (c, text.drop digits.length)

/-- Reads the rest of a rich escape after its backslash and the character `c`. -/
def scanEscape (c : Char) (rest : List Char) : Option (Char × List Char) :=
  match c with
  | 'b' => some ('\x08', rest)
  | 'f' => some ('\x0C', rest)
  | 'n' => some ('\n', rest)
  | 'r' => some ('\r', rest)
  | 't' => some ('\t', rest)
  | 'u' => scanPoint 4 rest
  | 'U' => scanPoint 8 rest
  | 'x' => if rest.head?.any (isDigitOf 16) then scanByte 16 2 [] rest else some ('x', rest)
  | other => if isDigitOf 8 other then scanByte 8 2 [other] rest else some (other, rest)

/-- An escape does not give characters back. -/
theorem length_scanEscape_le {c d : Char} {rest after : List Char}
    (read : scanEscape c rest = some (d, after)) : after.length ≤ rest.length := by
  have point : ∀ count, scanPoint count rest = some (d, after) → after.length ≤ rest.length := by
    intro count found
    simp only [scanPoint] at found
    split at found
    · simp at found
    · simp only [Option.pure_def, Option.bind_eq_bind, Option.bind_eq_some_iff, Option.some.injEq,
        Prod.mk.injEq] at found
      obtain ⟨_, _, _, rfl⟩ := found
      simp
  have byte : ∀ base count before, scanByte base count before rest = some (d, after) →
      after.length ≤ rest.length := by
    intro base count before found
    simp only [scanByte, Option.map_eq_some_iff, Prod.mk.injEq] at found
    obtain ⟨_, _, _, rfl⟩ := found
    simp
  have plain : ∀ e, some (e, rest) = some (d, after) → after.length ≤ rest.length := by
    intro e same
    simp only [Option.some.injEq, Prod.mk.injEq] at same
    simp [same.2]
  unfold scanEscape at read
  split at read
  · exact plain _ read
  · exact plain _ read
  · exact plain _ read
  · exact plain _ read
  · exact plain _ read
  · exact point _ read
  · exact point _ read
  · split at read
    · exact byte _ _ _ read
    · exact plain _ read
  · split at read
    · exact byte _ _ _ read
    · exact plain _ read

/-- Reads the body of an `E` literal up to its closing apostrophe. -/
def scanEscaped : List Char → Option (List Char × List Char)
  | [] => none
  | [c] => if c = apostrophe then some ([], []) else none
  | c :: d :: rest =>
    if c = apostrophe then
      if d = apostrophe then withFirst apostrophe (scanEscaped rest) else some ([], d :: rest)
    else if c = '\\' then
      match _read : scanEscape d rest with
      | some (e, after) => if e = '\x00' then none else withFirst e (scanEscaped after)
      | none => none
    else withFirst c (scanEscaped (d :: rest))
termination_by text => text.length
decreasing_by
  · simp only [List.length_cons]
    omega
  · have := length_scanEscape_le _read
    simp only [List.length_cons]
    omega
  · simp

/-! ### Literals -/

/-- The style of the literal that the character opens, with the text of its body. -/
def openedLiteral? (c : Char) (rest : List Char) : Option (LiteralStyle × List Char) :=
  if c = apostrophe then some (.single, rest)
  else if c = '"' then some (.double, rest)
  else match rest with
    | [] => none
    | mark :: body =>
      if mark = apostrophe then
        if c = 'b' ∨ c = 'B' then some (.bytes, body)
        else if c = 'n' ∨ c = 'N' then some (.national, body)
        else if c = 'e' ∨ c = 'E' then some (.escaped, body)
        else if c = 'x' ∨ c = 'X' then some (.hex, body)
        else none
      else if mark = '"' ∧ (c = 'b' ∨ c = 'B') then some (.bytesDouble, body)
      else none

/-- Reads the body of a literal by the rules of its style. -/
def scanBody (style : LiteralStyle) (body : List Char) : Option (List Char × List Char) :=
  match style with
  | .single | .double | .national | .hex => scanQuoted style.mark true body
  | .bytes | .bytesDouble => scanQuoted style.mark false body
  | .escaped => scanEscaped body

/-- Reads a literal whose body starts here. -/
def scanLiteral (style : LiteralStyle) (body : List Char) : Option (Token × List Char) :=
  (scanBody style body).map fun (content, rest) =>
    (.literal style (String.ofList content), rest)

/-! ### A body does not give characters back -/

theorem length_scanQuoted_le {mark : Char} {escapes : Bool} {text content after : List Char}
    (read : scanQuoted mark escapes text = some (content, after)) :
    after.length ≤ text.length := by
  fun_induction scanQuoted mark escapes text generalizing content with
  | case1 => simp at read
  | case2 => simp_all
  | case3 => simp at read
  | case4 rest ih =>
    simp only [withFirst, Option.map_eq_some_iff, Prod.mk.injEq, Prod.exists] at read
    obtain ⟨_, _, found, _, rfl⟩ := read
    have := ih found
    simp only [List.length_cons]
    omega
  | case5 => simp_all
  | case6 c d rest _ _ ih =>
    simp only [withFirst, Option.map_eq_some_iff, Prod.mk.injEq, Prod.exists] at read
    obtain ⟨_, _, found, _, rfl⟩ := read
    have := ih found
    simp only [List.length_cons]
    omega
  | case7 c d rest _ _ ih =>
    simp only [withFirst, Option.map_eq_some_iff, Prod.mk.injEq, Prod.exists] at read
    obtain ⟨_, _, found, _, rfl⟩ := read
    have := ih found
    simp only [List.length_cons] at this ⊢
    omega

theorem length_scanEscaped_le {text content after : List Char}
    (read : scanEscaped text = some (content, after)) : after.length ≤ text.length := by
  fun_induction scanEscaped text generalizing content with
  | case1 => simp at read
  | case2 => simp_all
  | case3 => simp at read
  | case4 rest ih =>
    simp only [withFirst, Option.map_eq_some_iff, Prod.mk.injEq, Prod.exists] at read
    obtain ⟨_, _, found, _, rfl⟩ := read
    have := ih found
    simp only [List.length_cons]
    omega
  | case5 => simp_all
  | case6 => simp at read
  | case7 d rest e tail escape _ _ ih =>
    simp only [withFirst, Option.map_eq_some_iff, Prod.mk.injEq, Prod.exists] at read
    obtain ⟨_, _, found, _, rfl⟩ := read
    have body := ih found
    have head := length_scanEscape_le escape
    simp only [List.length_cons]
    omega
  | case8 => simp at read
  | case9 c d rest _ _ ih =>
    simp only [withFirst, Option.map_eq_some_iff, Prod.mk.injEq, Prod.exists] at read
    obtain ⟨_, _, found, _, rfl⟩ := read
    have := ih found
    simp only [List.length_cons] at this ⊢
    omega

theorem length_openedLiteral?_le {c : Char} {rest body : List Char} {style : LiteralStyle}
    (opened : openedLiteral? c rest = some (style, body)) : body.length ≤ rest.length := by
  unfold openedLiteral? at opened
  split at opened
  · simp_all
  split at opened
  · simp_all
  cases rest with
  | nil => simp at opened
  | cons mark more =>
    have tail : more = body := by
      revert opened
      simp only
      repeat' split
      all_goals simp
    simp [← tail]

theorem length_scanLiteral_le {style : LiteralStyle} {body after : List Char} {token : Token}
    (read : scanLiteral style body = some (token, after)) : after.length ≤ body.length := by
  simp only [scanLiteral, Option.map_eq_some_iff, Prod.mk.injEq, Prod.exists] at read
  obtain ⟨content, _, found, _, rfl⟩ := read
  cases style with
  | escaped => exact length_scanEscaped_le found
  | _ => exact length_scanQuoted_le found

end SchemaDump.Sql
