/-
**Type names of a server, and the names used in their place.**

A server's type name is a base of one or more words, with words of sign anywhere between them, and
arguments from the first parenthesis on. `TypeName.ofNative` lowers ASCII case, drops the words of sign,
replaces an alias of the base, and takes the first argument as a length if it is a numeral that fits an
unsigned 64-bit word.
-/

import SchemaDump.Text.Blank
import SchemaDump.Text.Numeral

namespace SchemaDump

open SchemaDump.Text

/-- The name used for a type, and the length that the server's name gives. -/
structure TypeName where
  canonical : String
  length : Option Nat
  deriving DecidableEq, Repr

/-- The words that tell the sign and not the type. -/
def signWords : List (List Char) :=
  ["unsigned".toList, "signed".toList, "zerofill".toList]

/-- The base that an alias stands for; any other base stands for itself. -/
def aliasTarget (base : String) : String :=
  match base with
  | "integer" => "int"
  | "dec" | "numeric" | "fixed" => "decimal"
  | "real" | "double precision" => "double"
  | "boolean" => "bool"
  | "character" => "char"
  | "character varying" => "varchar"
  | other => other

/-- The words of a server's type name that tell the type, in small letters with one space between. -/
def typeWords (native : List Char) : List Char :=
  [' '].intercalate ((words (lowercase native)).filter fun word => !signWords.contains word)

/-- The text in front of the first parenthesis, and the text behind it if there is one. -/
def cutArguments : List Char → List Char × Option (List Char)
  | [] => ([], none)
  | c :: rest =>
    if c = '(' then ([], some rest)
    else (c :: (cutArguments rest).1, (cutArguments rest).2)

/-- The length that the arguments start with. -/
def firstLength? (arguments : List Char) : Option Nat :=
  wordNumeral? (trim (arguments.takeWhile fun c => c != ',' && c != ')'))

/-- The name and length for a server's type name. -/
def TypeName.ofNative (native : String) : TypeName :=
  let (base, arguments) := cutArguments (typeWords native.toList)
  ⟨aliasTarget (String.ofList (trim base)), arguments.bind firstLength?⟩

/-- Does the name tell of a type whose values are text? -/
def isTextType (name : String) : Bool :=
  occursIn "char".toList (lowercase name.toList) || occursIn "text".toList (lowercase name.toList)

end SchemaDump
