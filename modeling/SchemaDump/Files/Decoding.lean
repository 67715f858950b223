/-
**The text of a statement file.**

Bytes in UTF-8 are taken so. Other bytes are taken as Windows-1252, unless a byte order mark says that
they are UTF-8, which they are not, or UTF-16, which they must then be. One byte order mark at the front
of the text is dropped.
-/

import SchemaDump.Files.Tree
import SchemaDump.Text.Utf8
import SchemaDump.Text.Utf16
import SchemaDump.Text.Windows1252

namespace SchemaDump

open SchemaDump.Text

/-- The byte order mark as a character. -/
def byteOrderMark : Char := '\uFEFF'

/-- The text of bytes that are not UTF-8. -/
def decodeOther? (bytes : List UInt8) : Option (List Char) :=
  match bytes with
  | 0xEF :: 0xBB :: 0xBF :: rest => Utf8.decode? rest
  | 0xFF :: 0xFE :: rest => Utf16.decode? .littleEndian rest
  | 0xFE :: 0xFF :: rest => Utf16.decode? .bigEndian rest
  | _ => some (Windows1252.decode bytes)

/-- The text without one byte order mark that it starts with. -/
def dropByteOrderMark (text : List Char) : List Char :=
  match text with
  | c :: rest => if c = byteOrderMark then rest else text
  | [] => []

/-- The text of a statement file with the given bytes. -/
def decodeStatement? (bytes : List UInt8) : Option (List Char) :=
  (Utf8.decode? bytes <|> decodeOther? bytes).map dropByteOrderMark

/-- Reads the statement file at a path. -/
def readStatement (files : FileSystem) (path : Path) : Except Failure String :=
  match files.content path with
  | .error reason => .error (.unreadableFile path.text reason)
  | .ok bytes =>
    match decodeStatement? bytes with
    | some text => .ok (String.ofList text)
    | none => .error (.undecodableFile path.text)

end SchemaDump
