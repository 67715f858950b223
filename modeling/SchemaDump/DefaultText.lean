/-
**The text of a default.**

A source answers a default as bytes. Its text is decoded with broken stretches replaced, trimmed, and, if
it stands between apostrophes, freed of these, a doubled apostrophe in it written once.
-/

import SchemaDump.Text.Blank
import SchemaDump.Text.Utf8

namespace SchemaDump

open SchemaDump.Text

/-- The text between the apostrophes that it starts and ends with, if these are two. -/
def unquoted? (text : List Char) : Option (List Char) :=
  match text with
  | [] => none
  | c :: rest =>
    if c = apostrophe ∧ rest.getLast? = some apostrophe then some rest.dropLast else none

/-- The text of a default that a source answered. -/
def defaultText (raw : List UInt8) : String :=
  let text := trim (Utf8.decodeRepaired raw)
  String.ofList (((unquoted? text).map (undoubleMarks apostrophe)).getD text)

end SchemaDump
