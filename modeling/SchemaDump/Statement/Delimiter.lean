/-
**Names between backticks, found by their delimiters.**

A quoted name is what stands between two backticks, whatever it is; a doubled backtick ends one name and
starts the next. Places are byte offsets:

* `nextDelimiter` is the place of the next backtick;
* `quotedNameAt` is the next quoted name, with the place behind its second backtick;
* `cutQuotedName?` is the same reading on characters, with the text left behind the name.
-/

import SchemaDump.Text.Blank
import SchemaDump.Text.Offset

namespace SchemaDump

open SchemaDump.Text

/-- The text up to the first backtick, and the text behind it. -/
def cutDelimiter? : List Char → Option (List Char × List Char)
  | [] => none
  | c :: rest =>
    if c = backtick then some ([], rest)
    else (cutDelimiter? rest).map fun (before, after) => (c :: before, after)

/-- A text cut at its first two backticks. -/
structure QuotedCut where
  before : List Char
  name : List Char
  after : List Char
  deriving DecidableEq, Repr

/-- Cuts a text at its first two backticks, if it has two. -/
def cutQuotedName? (text : List Char) : Option QuotedCut := do
  let (before, opened) ← cutDelimiter? text
  let (name, after) ← cutDelimiter? opened
  pure ⟨before, name, after⟩

/-- The place of the first backtick at or behind the given place. There is none if the given place is
past the end or inside a character. -/
def nextDelimiter (line : String) (start : Nat) : Option Nat := do
  let text ← dropBytes? start line.toList
  let (before, _) ← cutDelimiter? text
  pure (start + byteSize before)

/-- The text between the first two backticks at or behind the given place, and the place behind the
second one. -/
def quotedNameAt (line : String) (start : Nat) : Option (String × Nat) := do
  let text ← dropBytes? start line.toList
  let cut ← cutQuotedName? text
  pure (String.ofList cut.name,
    start + byteSize cut.before + backtick.utf8Size + byteSize cut.name + backtick.utf8Size)

end SchemaDump
