/-
**File name patterns.**

A pattern is a list of pieces that the whole text must match, in order:

* `?` is any character, and `[...]` or `[!...]` any character of a class or outside it;
* `*` is any text;
* `**` as a whole path component, with the `/` behind it if there is one, is no text, or any text up to
  and with a `/`, or all the text that is left;
* any other character is itself.

A `/` is a character like any other, except next to `**`. A misplaced `**`, three stars and an open class are
faults, told with the position of a character.
-/

import SchemaDump.Failure

namespace SchemaDump

/-- A range of characters, both ends included. -/
structure CharRange where
  first : Char
  last : Char
  deriving DecidableEq, Repr

/-- Does the character lie in one of the ranges? -/
def inClass (ranges : List CharRange) (c : Char) : Bool :=
  ranges.any fun range => range.first ≤ c && c ≤ range.last

/-- A piece of a pattern. -/
inductive PatternPiece where
  | char (c : Char)
  | anyChar
  | oneOf (ranges : List CharRange)
  | noneOf (ranges : List CharRange)
  | anyText
  | anyComponents
  deriving DecidableEq, Repr

/-! ### Reading a pattern -/

/-- The ranges of the text of a class: three characters with a hyphen between are a range, any other
character is a range by itself. -/
def classRanges : List Char → List CharRange
  | first :: hyphen :: last :: rest =>
    if hyphen = '-' then ⟨first, last⟩ :: classRanges rest
    else ⟨first, first⟩ :: classRanges (hyphen :: last :: rest)
  | c :: rest => ⟨c, c⟩ :: classRanges rest
  | [] => []

/-- The text of a class and the text behind it. The first character belongs to the class whatever it
is, and the next `]` ends it. -/
def cutClass? : List Char → Option (List Char × List Char)
  | [] => none
  | c :: rest =>
    match rest.dropWhile (· != ']') with
    | [] => none
    | _ :: after => some (c :: rest.takeWhile (· != ']'), after)

/-- Reads a class behind its `[`: the piece, and the text left. -/
def readClass? (text : List Char) : Option (PatternPiece × List Char) :=
  match text with
  | '!' :: rest => (cutClass? rest).map fun (ranges, after) => (.noneOf (classRanges ranges), after)
  | _ => (cutClass? text).map fun (ranges, after) => (.oneOf (classRanges ranges), after)

/-- The fault of two stars that are no whole component. -/
def looseComponents : String := "recursive wildcards must form a single path component"

/-- The fault of three stars. -/
def tooManyStars : String := "wildcards are either regular `*` or recursive `**`"

/-- The fault of a class that is not closed. -/
def openClass : String := "invalid range pattern"

/-- Reads a run of `count` stars that starts at a position, behind the character `before` if there is
one: the piece, and the text left. -/
def readStars (position : Nat) (before : Option Char) (count : Nat) (rest : List Char) :
    Except PatternFault (PatternPiece × List Char) :=
  if 2 < count then .error ⟨position + 2, tooManyStars⟩
  else if count < 2 then .ok (.anyText, rest)
  else if before.any (· != '/') then .error ⟨position - 1, looseComponents⟩
  else match rest with
    | [] => .ok (.anyComponents, [])
    | c :: after =>
      if c = '/' then .ok (.anyComponents, after)
      else .error ⟨position + count, looseComponents⟩

/-- Reads one piece that starts with the character `c` at a position, behind the character `before`. -/
def readPiece (position : Nat) (before : Option Char) (c : Char) (rest : List Char) :
    Except PatternFault (PatternPiece × List Char) :=
  if c = '?' then .ok (.anyChar, rest)
  else if c = '*' then
    readStars position before (1 + (rest.takeWhile (· == '*')).length) (rest.dropWhile (· == '*'))
  else if c = '[' then
    match readClass? rest with
    | some read => .ok read
    | none => .error ⟨position, openClass⟩
  else .ok (.char c, rest)

theorem length_cutClass?_le {text ranges after : List Char}
    (cut : cutClass? text = some (ranges, after)) : after.length ≤ text.length := by
  cases text with
  | nil => simp [cutClass?] at cut
  | cons c rest =>
    have behind := (List.dropWhile_suffix (l := rest) (· != ']')).length_le
    simp only [cutClass?] at cut
    split at cut
    · simp at cut
    · next found =>
      rw [found] at behind
      simp only [Option.some.injEq, Prod.mk.injEq] at cut
      rw [← cut.2]
      simp only [List.length_cons] at behind ⊢
      omega

theorem length_readClass?_le {text after : List Char} {piece : PatternPiece}
    (read : readClass? text = some (piece, after)) : after.length ≤ text.length := by
  unfold readClass? at read
  split at read
  · simp only [Option.map_eq_some_iff, Prod.mk.injEq, Prod.exists] at read
    obtain ⟨_, _, cut, _, rfl⟩ := read
    exact Nat.le_succ_of_le (length_cutClass?_le cut)
  · simp only [Option.map_eq_some_iff, Prod.mk.injEq, Prod.exists] at read
    obtain ⟨_, _, cut, _, rfl⟩ := read
    exact length_cutClass?_le cut

theorem length_readStars_le {position count : Nat} {before : Option Char} {rest after : List Char}
    {piece : PatternPiece} (read : readStars position before count rest = .ok (piece, after)) :
    after.length ≤ rest.length := by
  unfold readStars at read
  split at read
  · simp at read
  split at read
  · simp only [Except.ok.injEq, Prod.mk.injEq] at read
    simp [read.2]
  split at read
  · simp at read
  split at read
  · simp only [Except.ok.injEq, Prod.mk.injEq] at read
    simp [← read.2]
  · split at read
    · simp only [Except.ok.injEq, Prod.mk.injEq] at read
      simp [read.2]
    · simp at read

/-- A piece takes at least its first character. -/
theorem length_readPiece_le {position : Nat} {before : Option Char} {c : Char}
    {rest after : List Char} {piece : PatternPiece}
    (read : readPiece position before c rest = .ok (piece, after)) :
    after.length ≤ rest.length := by
  unfold readPiece at read
  split at read
  · simp only [Except.ok.injEq, Prod.mk.injEq] at read
    simp [read.2]
  split at read
  · exact Nat.le_trans (length_readStars_le read) (List.dropWhile_suffix _).length_le
  split at read
  · split at read
    · next found =>
      simp only [Except.ok.injEq] at read
      exact length_readClass?_le (found.trans (congrArg some read))
    · simp at read
  · simp only [Except.ok.injEq, Prod.mk.injEq] at read
    simp [read.2]

/-- The pieces of a text that starts at a position of the pattern, behind the character `before`. -/
def readPieces (position : Nat) (before : Option Char) :
    List Char → Except PatternFault (List PatternPiece)
  | [] => .ok []
  | c :: rest =>
    match _read : readPiece position before c rest with
    | .ok (piece, after) =>
      let taken := (c :: rest).take (rest.length + 1 - after.length)
      (readPieces (position + taken.length) taken.getLast? after).map (piece :: ·)
    | .error fault => .error fault
termination_by text => text.length
decreasing_by exact Nat.lt_succ_of_le (length_readPiece_le _read)

/-- A pattern. -/
structure Pattern where
  pieces : List PatternPiece
  deriving DecidableEq, Repr

/-- Reads a pattern. -/
def Pattern.ofText (text : String) : Except PatternFault Pattern :=
  (readPieces 0 none text.toList).map Pattern.mk

end SchemaDump
