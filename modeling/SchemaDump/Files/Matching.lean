/-
**Matching a text against a pattern.**

`matchesPieces` is the rule, piece by piece. It is not how a pattern is run, since each `*` would try the
same places again. `fits` answers for all places of the text at once, from the last piece to the first:

* `fits_eq`: the answer at a place is that of the rule for the text from there on;
* `Pattern.admits_eq`: a pattern admits what the rule says.
-/

import SchemaDump.Files.Pattern

namespace SchemaDump

/-! ### The rule -/

/-- May the character stand for the piece, if the piece is a single character? -/
def PatternPiece.admitsChar : PatternPiece → Char → Bool
  | .char wanted, c => wanted == c
  | .anyChar, _ => true
  | .oneOf ranges, c => inClass ranges c
  | .noneOf ranges, c => !inClass ranges c
  | .anyText, _ => false
  | .anyComponents, _ => false

/-- The texts from each place on, the first and the last place included. -/
def suffixes : List Char → List (List Char)
  | [] => [[]]
  | c :: rest => (c :: rest) :: suffixes rest

/-- The texts left behind each `/`, and the empty text. -/
def behindSlashes : List Char → List (List Char)
  | [] => [[]]
  | c :: rest => if c = '/' then rest :: behindSlashes rest else behindSlashes rest

/-- Does the whole text match the pieces? -/
def matchesPieces : List PatternPiece → List Char → Bool
  | [], text => text.isEmpty
  | .anyText :: pieces, text => (suffixes text).any (matchesPieces pieces)
  | .anyComponents :: pieces, text => (text :: behindSlashes text).any (matchesPieces pieces)
  | piece :: pieces, text =>
    match text with
    | c :: rest => piece.admitsChar c && matchesPieces pieces rest
    | [] => false

/-! ### All places at once -/

/-- From the answers at the places of a text, the answers for a character that passes the test and then
what was asked. -/
def fitsAfterChar (test : Char → Bool) : List Char → List Bool → List Bool
  | c :: rest, _ :: behind => (test c && behind.headD false) :: fitsAfterChar test rest behind
  | _, _ => [false]

/-- From the answers at the places of a text, the answers for any text and then what was asked. -/
def fitsAfterText : List Bool → List Bool
  | [] => []
  | here :: behind =>
    let later := fitsAfterText behind
    (here || later.headD false) :: later

/-- From the answers at the places of a text, the answers for some text up to a `/` or the end and then
what was asked. -/
def fitsAfterSlash : List Char → List Bool → List Bool
  | c :: rest, _ :: behind =>
    let later := fitsAfterSlash rest behind
    ((c == '/' && behind.headD false) || later.headD false) :: later
  | _, answers => answers

/-- From the answers at the places of a text, the answers for the piece and then what was asked. -/
def PatternPiece.fitsBefore (piece : PatternPiece) (text : List Char) (answers : List Bool) :
    List Bool :=
  match piece with
  | .anyText => fitsAfterText answers
  | .anyComponents => answers.zipWith or (fitsAfterSlash text answers)
  | piece => fitsAfterChar piece.admitsChar text answers

/-- For each place of the text, does the text from there on match the pieces? -/
def fits (pieces : List PatternPiece) (text : List Char) : List Bool :=
  pieces.foldr (fun piece answers => piece.fitsBefore text answers) ((suffixes text).map List.isEmpty)

/-- Does the whole text match the pattern? -/
def Pattern.admits (pattern : Pattern) (text : String) : Bool :=
  (fits pattern.pieces text.toList).headD false

/-! ### The answers are those of the rule -/

theorem headD_map_suffixes (ask : List Char → Bool) (text : List Char) :
    ((suffixes text).map ask).headD false = ask text := by
  cases text <;> rfl

theorem fitsAfterChar_map_suffixes (test : Char → Bool) (ask : List Char → Bool) (text : List Char) :
    fitsAfterChar test text ((suffixes text).map ask) =
      (suffixes text).map fun
        | c :: rest => test c && ask rest
        | [] => false := by
  induction text with
  | nil => rfl
  | cons c rest ih => simp only [suffixes, List.map_cons, fitsAfterChar, headD_map_suffixes, ih]

theorem fitsAfterText_map_suffixes (ask : List Char → Bool) (text : List Char) :
    fitsAfterText ((suffixes text).map ask) =
      (suffixes text).map fun left => (suffixes left).any ask := by
  induction text with
  | nil => simp [suffixes, fitsAfterText]
  | cons c rest ih =>
    simp only [suffixes, List.map_cons, fitsAfterText, ih, headD_map_suffixes, List.any_cons]

theorem fitsAfterSlash_map_suffixes (ask : List Char → Bool) (text : List Char) :
    fitsAfterSlash text ((suffixes text).map ask) =
      (suffixes text).map fun left => (behindSlashes left).any ask := by
  induction text with
  | nil => simp [suffixes, behindSlashes, fitsAfterSlash]
  | cons c rest ih =>
    simp only [suffixes, List.map_cons, fitsAfterSlash, ih, headD_map_suffixes, behindSlashes]
    by_cases slash : c = '/' <;> simp [slash]

/-- The answers for a piece and a list of pieces behind it are those of the rule. -/
theorem fitsBefore_map_suffixes (piece : PatternPiece) (pieces : List PatternPiece)
    (text : List Char) :
    piece.fitsBefore text ((suffixes text).map (matchesPieces pieces)) =
      (suffixes text).map (matchesPieces (piece :: pieces)) := by
  cases piece with
  | anyText => exact fitsAfterText_map_suffixes _ _
  | anyComponents =>
    simp only [PatternPiece.fitsBefore, fitsAfterSlash_map_suffixes, List.zipWith_map_left,
      List.zipWith_map_right, List.zipWith_self]
    rfl
  | _ => exact fitsAfterChar_map_suffixes _ _ _

/-- **One answer for each place**, and it is that of the rule. -/
theorem fits_eq (pieces : List PatternPiece) (text : List Char) :
    fits pieces text = (suffixes text).map (matchesPieces pieces) := by
  induction pieces with
  | nil => rfl
  | cons piece pieces ih =>
    rw [← fitsBefore_map_suffixes, ← ih]
    rfl

/-- **A pattern admits a text if the whole text matches its pieces.** -/
theorem Pattern.admits_eq (pattern : Pattern) (text : String) :
    pattern.admits text = matchesPieces pattern.pieces text.toList := by
  rw [admits, fits_eq, headD_map_suffixes]

end SchemaDump
