/-
**Arguments of a type: quoted labels and decimal numbers.**

The type is printed from its tokens. A number is printed as it is written; a label is printed between
apostrophes with the marks in it as they stand, although they are written doubled or behind a backslash.

* `typeName_arguments`: the type that is read, in front of any text;
* `TypeArgument.printed_eq_text_iff`: an argument is printed as it is written if it is plain;
* **`nativeType_eq_written_iff`**: so the type is kept as written exactly if all arguments are plain.
-/

import SchemaDump.Proofs.Statement.ColumnClause

namespace SchemaDump

open SchemaDump.Text SchemaDump.Sql

/-! ### Arguments -/

/-- An argument of a type. -/
inductive TypeArgument where
  | label (content : String)
  | number (value : Decimal)
  deriving DecidableEq

namespace TypeArgument

/-- The argument as it is written. -/
def text : TypeArgument → List Char
  | label content => quoteString content
  | number value => value.text

def token : TypeArgument → Token
  | label content => .literal .single content
  | number value => value.token

/-- The argument as its token is printed. -/
def printed : TypeArgument → List Char
  | label content => apostrophe :: (content.toList ++ [apostrophe])
  | number value => value.text

/-- Nothing in the argument is escaped. -/
def Plain : TypeArgument → Prop
  | label content => ∀ c ∈ content.toList, c ∉ escapedChars
  | number _ => True

instance : (argument : TypeArgument) → Decidable argument.Plain
  | label content =>
    decidable_of_iff (content.toList.all (fun c => c ∉ escapedChars) = true) List.all_iff_forall_prop
  | number _ => inferInstanceAs (Decidable True)

theorem toList_text_token (argument : TypeArgument) : argument.token.text.toList = argument.printed := by
  cases argument with
  | label content =>
    show ("'" ++ content ++ "'").toList = apostrophe :: (content.toList ++ [apostrophe])
    rw [String.toList_append, String.toList_append]
    rfl
  | number value => exact String.toList_ofList

theorem reads (argument : TypeArgument) {after : List Char} (behind : BehindItem after) :
    Reads (argument.text ++ after) [argument.token] after := by
  cases argument with
  | label content =>
    refine reads_quoteString content fun same => ?_
    exact (behind.endsWord apostrophe same).2.1 rfl
  | number value => exact reads_decimal value behind.endsNumeral

/-- A printed argument is never longer than the written one. -/
theorem length_printed_le (argument : TypeArgument) :
    argument.printed.length ≤ argument.text.length := by
  cases argument with
  | label content =>
    have longer := length_le_escaped content.toList
    simp only [printed, text, quoteString, List.length_cons, List.length_append]
    omega
  | number value => exact Nat.le_refl _

/-- **An argument is printed as it is written exactly if it is plain.** -/
theorem printed_eq_text_iff (argument : TypeArgument) :
    argument.printed = argument.text ↔ argument.Plain := by
  cases argument with
  | label content =>
    rw [printed, text, quoteString, List.cons_inj_right, List.append_left_inj, eq_comm, escaped_eq_iff]
    rfl
  | number value => exact iff_of_true rfl trivial

end TypeArgument

/-! ### The type -/

variable (word : TypeWord) (arguments : List TypeArgument)

/-- The type as it is written. -/
def typeText : List Char := word.text ++ groupText (arguments.map TypeArgument.text)

/-- The type as it is printed. -/
def typePrinted : List Char := word.text ++ groupText (arguments.map TypeArgument.printed)

theorem reads_typeText (after : List Char) :
    Reads (typeText word arguments ++ after)
      (.word (String.ofList word.text) :: groupTokens (arguments.map TypeArgument.token)) after := by
  rw [typeText, List.append_assoc]
  have opened : EndsWord (groupText (arguments.map TypeArgument.text) ++ after) :=
    endsWord_cons (by decide) _
  exact (reads_word word.isWord opened).trans
    (reads_groupText arguments (fun argument _ _ => argument.reads) after)

theorem typeName_arguments (rest : List Token) :
    typeName (.word (String.ofList word.text) ::
        (groupTokens (arguments.map TypeArgument.token) ++ rest)) =
      (some (String.ofList (typePrinted word arguments)), rest) := by
  have flat (argument : TypeArgument) :
      argument.token ≠ .leftParen ∧ argument.token ≠ .rightParen := by
    cases argument <;> exact ⟨Token.noConfusion, Token.noConfusion⟩
  rw [typeName, Sql.word]
  simp only
  rw [group_groupTokens arguments flat TypeArgument.toList_text_token]
  simp only
  rw [← String.ofList_append, typePrinted]

theorem typePrinted_eq_iff :
    typePrinted word arguments = typeText word arguments ↔ ∀ argument ∈ arguments, argument.Plain := by
  rw [typePrinted, typeText, List.append_cancel_left_eq, groupText, groupText, List.cons_inj_right,
    List.append_left_inj]
  constructor
  · intro same argument listed
    refine argument.printed_eq_text_iff.mp ?_
    exact eq_of_commaList_eq arguments (fun argument _ => argument.length_printed_le) same argument listed
  · intro plain
    have each : ∀ argument ∈ arguments, argument.printed = argument.text :=
      fun argument listed => argument.printed_eq_text_iff.mpr (plain argument listed)
    rw [List.map_congr_left each]

/-- **A type is kept as written exactly if all its arguments are plain.** -/
theorem nativeType_eq_written_iff {after : List Char} {more : List Token}
    (rest : tokens? after = some more) :
    ∃ declaration,
      Declaration.ofClause? (String.ofList (' ' :: (typeText word arguments ++ after))) =
        some declaration ∧
      declaration.nativeType = String.ofList (typePrinted word arguments) ∧
      (declaration.nativeType = String.ofList (typeText word arguments) ↔
        ∀ argument ∈ arguments, argument.Plain) := by
  have parts : clauseParts? (String.ofList (' ' :: (typeText word arguments ++ after))) =
      some (String.ofList (typePrinted word arguments), more) := by
    have front := reads_space (reads_typeText word arguments after)
    have skipped : skipBlanks (.blank " " :: .word (String.ofList word.text) ::
        groupTokens (arguments.map TypeArgument.token) ++ more) =
        .word (String.ofList word.text) :: (groupTokens (arguments.map TypeArgument.token) ++ more) := rfl
    rw [clauseParts?, String.toList_ofList, front.tokens?_eq, rest, Option.map_some, Option.bind_some,
      skipped, typeName_arguments]
  refine ⟨_, ofClause?_of_parts parts, rfl, ?_⟩
  rw [String.ofList_inj, typePrinted_eq_iff]

/-- The word `enum`. -/
def enumWord : TypeWord where
  first := 'e'
  more := "num".toList
  letter := by decide
  parts := List.all_iff_forall_prop.mp (by decide +kernel)

theorem nativeType_eq_written_enum :
    ∃ declaration, Declaration.ofClause? " enum('a','b') NOT NULL" = some declaration ∧
      declaration.nativeType = "enum('a','b')" := by
  have rest : tokens? " NOT NULL".toList =
      some [.blank " ", .word "NOT", .blank " ", .word "NULL"] := by decide +kernel
  obtain ⟨declaration, read, -, written⟩ :=
    nativeType_eq_written_iff enumWord [.label "a", .label "b"] rest
  exact ⟨declaration, read, written.mpr (by decide)⟩

/-- A label with an apostrophe in it is not kept as written. -/
theorem nativeType_ne_written_enum :
    Declaration.ofClause? " enum('it''s') NOT NULL" = some ⟨"enum('it's')", false, none⟩ ∧
    ¬ ∀ (word : TypeWord) (arguments : List TypeArgument) (after : List Char) (more : List Token),
      (∀ c ∈ word.text, c.isAlpha = true) →
      (∀ content, .label content ∈ arguments → lineFeed ∉ content.toList ∧ '\r' ∉ content.toList) →
      tokens? after = some more → ∃ declaration,
        Declaration.ofClause? (String.ofList (' ' :: (typeText word arguments ++ after))) =
          some declaration ∧
        declaration.nativeType = String.ofList (typeText word arguments) := by
  have read : Declaration.ofClause? " enum('it''s') NOT NULL" = some ⟨"enum('it's')", false, none⟩ := by
    decide +kernel
  refine ⟨read, fun kept => ?_⟩
  obtain ⟨declaration, found, written⟩ := kept enumWord [.label "it's"] " NOT NULL".toList
    [.blank " ", .word "NOT", .blank " ", .word "NULL"]
    (List.all_iff_forall_prop.mp (by decide)) (by simp [lineFeed]) (by decide +kernel)
  obtain rfl := Option.some.inj (read.symm.trans found)
  exact absurd written (by decide)

end SchemaDump
