/-
**Columns as a server writes them.**

A column has a name, a type, and its attributes in a fixed order, each of them or not.

* `ofClause?_clause`: its clause defines the type, the nullability and the default that were written.
* **`isClause_clause`**: its clause stands on one line and ends in nothing that reading drops, so a
  statement can declare the column by it.
-/

import SchemaDump.Proofs.Statement.ColumnClause
import SchemaDump.Proofs.Statement.Layout

namespace SchemaDump

open SchemaDump.Text SchemaDump.Sql

/-- A column and what is written about it. -/
structure WrittenColumn where
  name : String
  type : WrittenType
  unsigned : Bool
  notNull : Bool
  default : Option WrittenDefault
  autoIncrement : Bool
  comment : Option String
  quotable : Quotable name
  deriving DecidableEq

namespace WrittenColumn

/-- The attributes, in the order in which they are written. -/
def attributes (column : WrittenColumn) : List WrittenAttribute :=
  (if column.unsigned then [.unsigned] else []) ++ (if column.notNull then [.notNull] else []) ++
    (column.default.map WrittenAttribute.default).toList ++
    (if column.autoIncrement then [.autoIncrement] else []) ++
    (column.comment.map WrittenAttribute.comment).toList

def clause (column : WrittenColumn) : String := String.ofList (clauseText column.type column.attributes)

/-- The column as its line declares it. -/
def declared (column : WrittenColumn) : DeclaredColumn := ⟨column.name, column.clause⟩

/-- The type as it is written. -/
def typeText (column : WrittenColumn) : String := String.ofList column.type.text

/-- The default as a user reads it. -/
def defaultText (column : WrittenColumn) : String :=
  match column.default with
  | some (.string content) => content
  | some .currentTimestamp => "CURRENT_TIMESTAMP"
  | some .null => ""
  | none => ""

/-! ### What the clause defines -/

theorem filterMap_meaning (column : WrittenColumn) :
    column.attributes.filterMap WrittenAttribute.meaning =
      (if column.notNull then [.notNull] else []) ++
        (column.default.map fun value => Attribute.default value.literal?).toList := by
  obtain ⟨name, type, unsigned, notNull, default, autoIncrement, comment, quotable⟩ := column
  cases unsigned <;> cases notNull <;> cases default <;> cases autoIncrement <;> cases comment <;> rfl

/-- **A clause defines what was written.** -/
theorem ofClause?_clause (column : WrittenColumn) :
    Declaration.ofClause? column.clause =
      some ⟨column.typeText, !column.notNull, column.default.bind WrittenDefault.literal?⟩ := by
  rw [clause, ofClause?_text, filterMap_meaning, typeText]
  cases column.notNull <;> cases column.default <;> rfl

end WrittenColumn

/-! ### The clause on its line -/

theorem TypeWord.free_text (word : TypeWord) : lineFeed ∉ word.text := by
  intro found
  rcases List.mem_cons.mp found with first | later
  · have letter := word.letter
    rw [← first] at letter
    exact absurd letter (by decide)
  · exact absurd (word.parts lineFeed later).1 (by decide +kernel)

theorem Numeral.free_text (numeral : Numeral) : lineFeed ∉ numeral.text := by
  intro found
  exact absurd (numeral.digits lineFeed found) (by decide)

theorem free_argumentList (numerals : List Numeral) : lineFeed ∉ argumentList numerals := by
  have marks : lineFeed ≠ '(' ∧ lineFeed ≠ ')' := by decide
  have list : lineFeed ∉ commaList (numerals.map Numeral.text) := by
    refine not_mem_commaList (by decide) ?_
    rw [List.forall_mem_map]
    exact fun numeral _ => Numeral.free_text numeral
  simp [argumentList, list, marks]

theorem WrittenType.free_text (type : WrittenType) : lineFeed ∉ type.text := by
  have arguments : lineFeed ∉ type.argumentText := by
    rw [argumentText]
    split
    · exact List.not_mem_nil
    · exact free_argumentList type.arguments
  simp [text, type.word.free_text, arguments]

theorem WrittenAttribute.free_text (item : WrittenAttribute) : lineFeed ∉ item.text := by
  have quoted {front : List Char} (free : lineFeed ∉ front) (content : String) :
      lineFeed ∉ front ++ quoteString content := List.not_mem_append free (free_quoteString content)
  cases item with
  | default value =>
    cases value with
    | string content => exact quoted (by decide : lineFeed ∉ " DEFAULT ".toList) content
    | _ => decide
  | comment content => exact quoted (by decide : lineFeed ∉ " COMMENT ".toList) content
  | _ => decide

namespace WrittenColumn

theorem free_clauseText (column : WrittenColumn) :
    lineFeed ∉ clauseText column.type column.attributes := by
  have space : lineFeed ≠ ' ' := by decide
  have attributes : lineFeed ∉ column.attributes.flatMap WrittenAttribute.text := by
    rw [List.mem_flatMap]
    rintro ⟨item, _, found⟩
    exact item.free_text found
  simp [clauseText, space, column.type.free_text, attributes]

end WrittenColumn

theorem EndsVisibly.append {first second : List Char} (ends : EndsVisibly first)
    (endsSecond : EndsVisibly second) : EndsVisibly (first ++ second) := by
  intro c found
  rw [List.getLast?_append] at found
  cases last : second.getLast? with
  | none =>
    rw [last, Option.none_or] at found
    exact ends c found
  | some d =>
    rw [last, Option.some_or] at found
    exact endsSecond c (last ▸ found)

theorem EndsVisibly.behind (front : List Char) {text : List Char} (any : text ≠ [])
    (ends : EndsVisibly text) : EndsVisibly (front ++ text) := by
  intro c found
  rw [List.getLast?_append, List.getLast?_eq_some_getLast any, Option.some_or] at found
  exact ends c (List.getLast?_eq_some_getLast any ▸ found)

theorem endsVisibly_quoteString (content : String) : EndsVisibly (quoteString content) := by
  have mark : EndsVisibly [apostrophe] := by decide
  exact mark.behind (apostrophe :: content.toList.flatMap escapeChar) (List.cons_ne_nil _ _)

theorem TypeWord.endsVisibly (word : TypeWord) : EndsVisibly word.text := by
  intro c found
  rcases List.mem_cons.mp (List.mem_of_getLast? found) with rfl | later
  · refine ⟨not_isBlank_of_isAlpha word.letter, fun comma => ?_⟩
    have letter := word.letter
    rw [comma] at letter
    exact absurd letter (by decide)
  · obtain ⟨part, visible⟩ := word.parts c later
    refine ⟨visible, ?_⟩
    rintro rfl
    exact absurd part (by decide +kernel)

theorem WrittenType.endsVisibly (type : WrittenType) : EndsVisibly type.text := by
  rw [text, argumentText]
  split
  · rw [List.append_nil]
    exact type.word.endsVisibly
  · have close : EndsVisibly [')'] := by decide
    refine EndsVisibly.behind _ (List.cons_ne_nil _ _) ?_
    exact close.behind ('(' :: commaList (type.arguments.map Numeral.text)) (List.cons_ne_nil _ _)

theorem WrittenAttribute.endsVisibly (item : WrittenAttribute) : EndsVisibly item.text := by
  cases item with
  | default value =>
    cases value with
    | string content =>
      exact (endsVisibly_quoteString content).behind " DEFAULT ".toList (List.cons_ne_nil _ _)
    | _ => decide
  | comment content =>
    exact (endsVisibly_quoteString content).behind " COMMENT ".toList (List.cons_ne_nil _ _)
  | _ => decide

namespace WrittenColumn

/-- **The clause is one that a line can declare.** -/
theorem isClause_clause (column : WrittenColumn) : IsClause column.clause := by
  have attributes : EndsVisibly (column.attributes.flatMap WrittenAttribute.text) := by
    induction column.attributes with
    | nil => decide
    | cons item rest ih => exact item.endsVisibly.append ih
  rw [IsClause, clause, String.toList_ofList]
  refine ⟨column.free_clauseText, ?_⟩
  have type : EndsVisibly (' ' :: column.type.text) :=
    column.type.endsVisibly.behind [' '] (List.cons_ne_nil _ _)
  exact type.append attributes

end WrittenColumn

end SchemaDump
