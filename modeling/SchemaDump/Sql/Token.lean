/-
**Tokens of one line of SQL.**

A token keeps what later readers need: the text of a word or a quoted name, the content of a
literal with its escapes undone, the spelling of all else. `Token.text` is the printed form. It
is the source text for words, numbers, blanks and marks, but a literal or a quoted name is printed
with its content as it stands, so marks and escapes that were undone are not written again.
-/

import SchemaDump.Text.Blank

namespace SchemaDump.Sql

open SchemaDump.Text

/-- The ways to write a string literal. -/
inductive LiteralStyle where
  | single
  | double
  | national
  | escaped
  | hex
  | bytes
  | bytesDouble
  deriving DecidableEq, Repr

/-- What is printed in front of the content of a literal. -/
def LiteralStyle.opening : LiteralStyle → String
  | .single => "'"
  | .double => "\""
  | .national => "N'"
  | .escaped => "E'"
  | .hex => "X'"
  | .bytes => "B'"
  | .bytesDouble => "B\""

/-- The mark that ends a literal. -/
def LiteralStyle.mark : LiteralStyle → Char
  | .double | .bytesDouble => '"'
  | .single | .national | .escaped | .hex | .bytes => apostrophe

/-- A token. -/
inductive Token where
  /-- A name or keyword without quotes, as written. -/
  | word (text : String)
  /-- A name between backticks, a doubled backtick in it written once. -/
  | quotedName (name : String)
  /-- A number as written; `long` tells of a letter `L` after it. -/
  | number (digits : String) (long : Bool)
  /-- A string literal with its content, escapes undone. -/
  | literal (style : LiteralStyle) (content : String)
  /-- A blank or a comment, as printed. -/
  | blank (text : String)
  | leftParen
  | rightParen
  | comma
  | minus
  /-- Any other mark, operator or placeholder. -/
  | symbol (spelling : String)
  deriving DecidableEq, Repr

namespace Token

/-- The printed form of a token. -/
def text : Token → String
  | word text => text
  | quotedName name => "`" ++ name ++ "`"
  | number digits long => if long then digits ++ "L" else digits
  | literal style content => style.opening ++ content ++ style.mark.toString
  | blank text => text
  | leftParen => "("
  | rightParen => ")"
  | comma => ","
  | minus => "-"
  | symbol spelling => spelling

/-- Is the token a blank or a comment? -/
def isBlank : Token → Bool
  | blank _ => true
  | _ => false

end Token

/-- The printed forms of the tokens, one after the other. -/
def printed (tokens : List Token) : String := String.join (tokens.map Token.text)

/-! ### Keywords -/

/-- The words with a meaning of their own in column and key lines. -/
inductive Keyword where
  | primary
  | unique
  | key
  | not
  | null
  | default
  deriving DecidableEq, Repr

/-- The keyword in capitals. -/
def Keyword.spelling : Keyword → String
  | .primary => "PRIMARY"
  | .unique => "UNIQUE"
  | .key => "KEY"
  | .not => "NOT"
  | .null => "NULL"
  | .default => "DEFAULT"

/-- The capital of a letter, as far as it is an ASCII letter in a keyword: the dotless `ı` (131) has
the capital `I`. -/
def capital (c : Char) : Char := if c = '\u0131' then 'I' else c.toUpper

/-- Is the token the keyword, in any case and without quotes? -/
def Token.isKeyword (keyword : Keyword) : Token → Bool
  | .word text => text.toList.map capital == keyword.spelling.toList
  | _ => false

end SchemaDump.Sql
