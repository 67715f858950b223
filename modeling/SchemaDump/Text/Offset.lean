/-
**Byte offsets into text.**

A place in a line is told by the number of UTF-8 bytes in front of it. `dropBytes?` is the text from
such a place on, and there is none past the end or inside a character.
-/

namespace SchemaDump.Text

/-- The number of bytes of the text in UTF-8. -/
def byteSize : List Char → Nat
  | [] => 0
  | c :: rest => c.utf8Size + byteSize rest

/-- What is left of the text after its first `offset` bytes, if a character ends there. -/
def dropBytes? : (offset : Nat) → List Char → Option (List Char)
  | 0, text => some text
  | _ + 1, [] => none
  | offset + 1, c :: rest =>
    if c.utf8Size ≤ offset + 1 then dropBytes? (offset + 1 - c.utf8Size) rest else none

end SchemaDump.Text
