/-
**JSON values and their indented form.**

A value is printed over several lines, two spaces deeper at each level, one item or member to a line, and
an empty array or object on one line. In a string only the quote, the backslash and the characters below
20 are escaped, by a letter where there is one and else by four digits in base 16.
-/

namespace SchemaDump

/-- A JSON value; the members of an object are in the order of printing. -/
inductive Json where
  | null
  | bool (value : Bool)
  | number (value : Nat)
  | string (text : String)
  | array (items : List Json)
  | object (members : List (String × Json))

namespace Json

/-! ### Strings -/

/-- A digit in base 16, in small letters. -/
def hexDigit (value : Nat) : Char :=
  if value < 10 then Char.ofNat (48 + value) else Char.ofNat (87 + value)

/-- The form of a character in a string. -/
def escape (c : Char) : List Char :=
  if c = '"' then ['\\', '"']
  else if c = '\\' then ['\\', '\\']
  else if c = '\x08' then ['\\', 'b']
  else if c = '\x0C' then ['\\', 'f']
  else if c = '\n' then ['\\', 'n']
  else if c = '\r' then ['\\', 'r']
  else if c = '\t' then ['\\', 't']
  else if c.toNat < 0x20 then
    ['\\', 'u', '0', '0', hexDigit (c.toNat / 16), hexDigit (c.toNat % 16)]
  else [c]

/-- The form of a string. -/
def quote (text : String) : List Char := '"' :: text.toList.flatMap escape ++ ['"']

/-! ### Layout -/

/-- The start of a line at the given level. -/
def indent (level : Nat) : List Char := '\n' :: List.replicate (2 * level) ' '

/-- Items on lines of their own at the given level, with commas between them. -/
def itemLines (level : Nat) (items : List (List Char)) : List Char :=
  [','].intercalate (items.map (indent level ++ ·))

/-- Items between two marks, each on its own line one level deeper; without items the marks alone. -/
def block (opening closing : Char) (level : Nat) (items : List (List Char)) : List Char :=
  if items.isEmpty then [opening, closing]
  else opening :: itemLines (level + 1) items ++ indent level ++ [closing]

mutual

/-- The form of a value that starts at the given level. -/
def form (level : Nat) : Json → List Char
  | null => "null".toList
  | bool value => if value then "true".toList else "false".toList
  | number value => (toString value).toList
  | string text => quote text
  | array items => block '[' ']' level (itemForms (level + 1) items)
  | object members => block '\x7b' '\x7d' level (memberForms (level + 1) members)

/-- The forms of the items of an array. -/
def itemForms (level : Nat) : List Json → List (List Char)
  | [] => []
  | item :: rest => form level item :: itemForms level rest

/-- The forms of the members of an object. -/
def memberForms (level : Nat) : List (String × Json) → List (List Char)
  | [] => []
  | (name, value) :: rest =>
    (quote name ++ [':', ' '] ++ form level value) :: memberForms level rest

end

/-- The text of a value. -/
def text (value : Json) : String := String.ofList (form 0 value)

end Json

end SchemaDump
