/-
**The text of a default is what was quoted.**

A source answers a string between apostrophes, with the apostrophes in it doubled. Decoding repairs
nothing, trimming stops at the outer apostrophes, and each pair in between is read as one.
-/

import SchemaDump.DefaultText
import SchemaDump.Proofs.Text.Doubling
import SchemaDump.Proofs.Text.Lines
import SchemaDump.Proofs.Text.Utf8
import SchemaDump.Sql.Scanner

namespace SchemaDump

open SchemaDump.Text SchemaDump.Sql

theorem unquoted?_quoted (content : List Char) :
    unquoted? (apostrophe :: content ++ [apostrophe]) = some content := by
  rw [List.cons_append, unquoted?, if_pos ⟨rfl, List.getLast?_concat⟩, List.dropLast_concat]

/-- **A quoted string is read back, whatever it holds.** -/
theorem defaultText_quotedString (content : String) :
    defaultText (Utf8.encode (quotedString content).toList) = content := by
  have text : trim (Utf8.decodeRepaired (Utf8.encode (quotedString content).toList)) =
      apostrophe :: doubleMarks apostrophe content.toList ++ [apostrophe] := by
    rw [Utf8.decodeRepaired_encode, quotedString, String.toList_ofList]
    exact trim_between (by decide) (by decide) _
  rw [defaultText, text, unquoted?_quoted, Option.map_some, Option.getD_some,
    undoubleMarks_doubleMarks, String.ofList_toList]

theorem unquoted?_sublist {text content : List Char} (quoted : unquoted? text = some content) :
    content.Sublist text := by
  unfold unquoted? at quoted
  split at quoted
  · cases quoted
  · split at quoted
    · obtain rfl := Option.some.inj quoted
      exact (List.dropLast_sublist _).cons _
    · cases quoted

/-- The text of a default has only characters of what was answered. -/
theorem defaultText_sublist (text : List Char) : (defaultText (Utf8.encode text)).toList.Sublist text := by
  rw [defaultText, Utf8.decodeRepaired_encode, String.toList_ofList]
  cases quoted : unquoted? (trim text) with
  | none => exact trim_sublist text
  | some content =>
    exact (undoubleMarks_sublist apostrophe content).trans
      ((unquoted?_sublist quoted).trans (trim_sublist text))

theorem defaultText_currentTimestamp :
    defaultText (Utf8.encode "CURRENT_TIMESTAMP".toList) = "CURRENT_TIMESTAMP" := by
  rw [defaultText, Utf8.decodeRepaired_encode]
  decide

end SchemaDump
