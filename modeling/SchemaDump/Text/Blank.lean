/-
**Blank characters, and cutting text at them.**

Text is cut as a list of characters. A blank is a character with the Unicode property White_Space:

* `trim` drops the blanks at both ends and touches nothing between them;
* `words` are the longest blank-free pieces, in order;
* `lines` are the pieces between line feeds; a text that ends in a line feed has no empty last line.
-/

namespace SchemaDump.Text

/-- A blank is a character with the Unicode property White_Space. -/
def isBlank (c : Char) : Bool :=
  let point := c.toNat
  (9 ≤ point && point ≤ 13) || point == 0x20 || point == 0x85 || point == 0xA0 ||
    point == 0x1680 || (0x2000 ≤ point && point ≤ 0x200A) || point == 0x2028 ||
    point == 0x2029 || point == 0x202F || point == 0x205F || point == 0x3000

/-- The mark around quoted names. -/
def backtick : Char := '\x60'

/-- The mark around string literals. -/
def apostrophe : Char := '\x27'

/-- The character that ends a line. -/
def lineFeed : Char := '\n'

/-! ### Trimming -/

/-- The text without the blanks it starts with. -/
def trimStart (text : List Char) : List Char := text.dropWhile isBlank

/-- The text without the blanks it ends with. -/
def trimEnd (text : List Char) : List Char := (text.reverse.dropWhile isBlank).reverse

/-- The text without the blanks at its two ends. -/
def trim (text : List Char) : List Char := trimEnd (trimStart text)

/-! ### Cutting -/

/-- The longest pieces of the text that hold no blank, in order. -/
def words (text : List Char) : List (List Char) :=
  (text.splitOnP isBlank).filter fun piece => !piece.isEmpty

/-- The lines of the text: a line feed ends a line, and what follows the last one is a line only if
it is not empty. -/
def lines : List Char → List (List Char)
  | [] => []
  | c :: rest =>
    if c = lineFeed then [] :: lines rest
    else match lines rest with
      | [] => [[c]]
      | line :: more => (c :: line) :: more

/-- Does the pattern stand somewhere in the text? -/
def occursIn (pattern : List Char) : List Char → Bool
  | [] => pattern.isEmpty
  | c :: rest => pattern.isPrefixOf (c :: rest) || occursIn pattern rest

/-! ### Case -/

/-- The text with its ASCII capitals made small. -/
def lowercase (text : List Char) : List Char := text.map Char.toLower

/-! ### Doubled marks -/

/-- The text with every mark written twice. -/
def doubleMarks (mark : Char) (text : List Char) : List Char :=
  text.flatMap fun c => if c = mark then [mark, mark] else [c]

/-- The text with every two marks that stand side by side, read from the left, written once. -/
def undoubleMarks (mark : Char) : List Char → List Char
  | first :: second :: rest =>
    if first = mark ∧ second = mark then mark :: undoubleMarks mark rest
    else first :: undoubleMarks mark (second :: rest)
  | rest => rest

end SchemaDump.Text
