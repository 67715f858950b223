/-
**A written column clause defines what it says.**

A clause is a type, perhaps with arguments, and attributes behind it, each set off by a space.

* `WrittenAttribute`: what a server writes behind a type, with its text and its tokens
  (`reads_attributes`).
* `attributes_tokens`: the attributes that are read off these tokens. A literal is one token, so nothing
  in it is taken for a keyword.
* **`ofClause?_text`**: so a clause defines its type as written, its nullability and its default.
-/

import SchemaDump.Proofs.Sql.Values
import SchemaDump.Proofs.Statement.Attributes
import SchemaDump.Proofs.Statement.KeyLine

namespace SchemaDump

open SchemaDump.Text SchemaDump.Sql

/-! ### Types -/

/-- The word of a type: a letter, then name characters that are no blanks. -/
structure TypeWord where
  first : Char
  more : List Char
  letter : first.isAlpha = true
  parts : ∀ c ∈ more, isNamePart c = true ∧ isBlank c = false
  deriving DecidableEq

def TypeWord.text (word : TypeWord) : List Char := word.first :: word.more

theorem TypeWord.isWord (word : TypeWord) : IsWord word.text :=
  ⟨word.letter, fun c found => (word.parts c found).1⟩

/-- A type as a server writes it. -/
structure WrittenType where
  word : TypeWord
  arguments : List Numeral
  deriving DecidableEq

namespace WrittenType

/-- The arguments, directly behind the word, if there are any. -/
def argumentText (type : WrittenType) : List Char :=
  if type.arguments = [] then [] else argumentList type.arguments

def text (type : WrittenType) : List Char := type.word.text ++ type.argumentText

def tokens (type : WrittenType) : List Token :=
  .word (String.ofList type.word.text) ::
    if type.arguments = [] then [] else argumentTokens type.arguments

end WrittenType

/-! ### Attributes -/

/-- The value behind `DEFAULT`. -/
inductive WrittenDefault where
  | null
  | currentTimestamp
  | string (content : String)
  deriving DecidableEq, Repr

/-- An attribute behind the type. -/
inductive WrittenAttribute where
  | unsigned
  | notNull
  | default (value : WrittenDefault)
  | autoIncrement
  | comment (content : String)
  deriving DecidableEq, Repr

namespace WrittenDefault

def text : WrittenDefault → List Char
  | .null => "NULL".toList
  | .currentTimestamp => "CURRENT_TIMESTAMP".toList
  | .string content => quoteString content

def token : WrittenDefault → Token
  | .null => .word "NULL"
  | .currentTimestamp => .word "CURRENT_TIMESTAMP"
  | .string content => .literal .single content

/-- The value as it is read: a NULL is none, a string stays quoted. -/
def literal? : WrittenDefault → Option String
  | .null => none
  | .currentTimestamp => some "CURRENT_TIMESTAMP"
  | .string content => some (quotedString content)

end WrittenDefault

namespace WrittenAttribute

def text : WrittenAttribute → List Char
  | .unsigned => ' ' :: "unsigned".toList
  | .notNull => ' ' :: ("NOT".toList ++ ' ' :: "NULL".toList)
  | .default value => ' ' :: ("DEFAULT".toList ++ ' ' :: value.text)
  | .autoIncrement => ' ' :: "AUTO_INCREMENT".toList
  | .comment content => ' ' :: ("COMMENT".toList ++ ' ' :: quoteString content)

def tokens : WrittenAttribute → List Token
  | .unsigned => [.blank " ", .word "unsigned"]
  | .notNull => [.blank " ", .word "NOT", .blank " ", .word "NULL"]
  | .default value => [.blank " ", .word "DEFAULT", .blank " ", value.token]
  | .autoIncrement => [.blank " ", .word "AUTO_INCREMENT"]
  | .comment content => [.blank " ", .word "COMMENT", .blank " ", .literal .single content]

/-- What the attribute says about the column, as far as it counts. -/
def meaning : WrittenAttribute → Option Attribute
  | .notNull => some .notNull
  | .default value => some (.default value.literal?)
  | _ => none

end WrittenAttribute

/-- The text of a clause behind the column name. -/
def clauseText (type : WrittenType) (written : List WrittenAttribute) : List Char :=
  ' ' :: (type.text ++ written.flatMap WrittenAttribute.text)

def clauseTokens (type : WrittenType) (written : List WrittenAttribute) : List Token :=
  .blank " " :: (type.tokens ++ written.flatMap WrittenAttribute.tokens)

/-! ### From text to tokens -/

/-- Nothing follows, or a space. -/
def SetOff (text : List Char) : Prop := ∀ c ∈ text.head?, c = ' '

theorem SetOff.endsWord {text : List Char} (setOff : SetOff text) : EndsWord text := by
  cases text with
  | nil => exact endsWord_nil
  | cons c rest =>
    obtain rfl := setOff c rfl
    exact endsWord_cons (by decide) rest

theorem SetOff.head?_ne {text : List Char} (setOff : SetOff text) :
    text.head? ≠ some apostrophe := by
  intro same
  exact absurd (setOff apostrophe same) (by decide)

theorem setOff_attributes (written : List WrittenAttribute) :
    SetOff (written.flatMap WrittenAttribute.text) := by
  cases written with
  | nil =>
    intro c found
    exact absurd found (Option.not_mem_none c)
  | cons item rest =>
    intro c found
    rw [List.flatMap_cons] at found
    cases item <;> exact (Option.some.inj found).symm

/-- The words of attributes and defaults. -/
def attributeWords : List String :=
  ["unsigned", "NOT", "NULL", "DEFAULT", "CURRENT_TIMESTAMP", "AUTO_INCREMENT", "COMMENT"]

theorem reads_attributeWord {word : String} (listed : word ∈ attributeWords) {after : List Char}
    (ends : EndsWord after) : Reads (word.toList ++ after) [.word word] after := by
  have each : ∀ text ∈ attributeWords, IsWord text.toList := by decide +kernel
  have read := reads_word (each word listed) ends
  rwa [String.ofList_toList] at read

theorem reads_space {text rest : List Char} {tokens : List Token} (reads : Reads text tokens rest) :
    Reads (' ' :: text) (.blank " " :: tokens) rest :=
  .next (scanToken_space text) reads

theorem reads_default (value : WrittenDefault) {after : List Char} (setOff : SetOff after) :
    Reads (value.text ++ after) [value.token] after := by
  cases value with
  | null => exact reads_attributeWord (by decide) setOff.endsWord
  | currentTimestamp => exact reads_attributeWord (by decide) setOff.endsWord
  | string content => exact reads_quoteString content setOff.head?_ne

/-- A word, a space and what follows. -/
theorem reads_wordThen {word : String} (listed : word ∈ attributeWords) {text after : List Char}
    {tokens : List Token} (reads : Reads (text ++ after) tokens after) :
    Reads (' ' :: (word.toList ++ ' ' :: text) ++ after) (.blank " " :: .word word :: .blank " " :: tokens)
      after := by
  have space : EndsWord (' ' :: (text ++ after)) := endsWord_cons (by decide) _
  have front := reads_attributeWord listed space
  rw [List.cons_append, List.append_assoc, List.cons_append]
  exact reads_space (front.trans (reads_space reads))

theorem reads_attribute (item : WrittenAttribute) {after : List Char} (setOff : SetOff after) :
    Reads (item.text ++ after) item.tokens after := by
  cases item with
  | unsigned => exact reads_space (reads_attributeWord (by decide) setOff.endsWord)
  | notNull => exact reads_wordThen (by decide) (reads_attributeWord (by decide) setOff.endsWord)
  | default value => exact reads_wordThen (by decide) (reads_default value setOff)
  | autoIncrement => exact reads_space (reads_attributeWord (by decide) setOff.endsWord)
  | comment content => exact reads_wordThen (by decide) (reads_quoteString content setOff.head?_ne)

theorem reads_attributes (written : List WrittenAttribute) :
    Reads (written.flatMap WrittenAttribute.text) (written.flatMap WrittenAttribute.tokens) [] := by
  induction written with
  | nil => exact .done []
  | cons item rest ih =>
    rw [List.flatMap_cons, List.flatMap_cons]
    exact (reads_attribute item (setOff_attributes rest)).trans ih

theorem reads_type (type : WrittenType) {after : List Char} (setOff : SetOff after) :
    Reads (type.text ++ after) type.tokens after := by
  rw [WrittenType.text, WrittenType.tokens, WrittenType.argumentText]
  by_cases bare : type.arguments = []
  · rw [if_pos bare, if_pos bare, List.append_nil]
    exact reads_word type.word.isWord setOff.endsWord
  · rw [if_neg bare, if_neg bare, List.append_assoc]
    exact (reads_word type.word.isWord (endsWord_cons (by decide) _)).trans
      (reads_argumentList type.arguments after)

/-- **The tokens of a clause.** -/
theorem tokens?_clauseText (type : WrittenType) (written : List WrittenAttribute) :
    tokens? (clauseText type written) = some (clauseTokens type written) :=
  tokens?_eq_some_iff.mpr
    (reads_space ((reads_type type (setOff_attributes written)).trans (reads_attributes written)))

/-! ### From tokens to attributes -/

theorem attributes_word {word : String} (other : word ∈ ["unsigned", "AUTO_INCREMENT", "COMMENT"])
    (rest : List Token) : attributes (.blank " " :: .word word :: rest) = attributes rest := by
  have each : ∀ text ∈ ["unsigned", "AUTO_INCREMENT", "COMMENT"],
      (Token.word text).isKeyword .not = false ∧ (Token.word text).isKeyword .default = false := by
    decide
  rw [attributes_blank rfl, attributes_other rfl (each word other).1 (each word other).2]

/-- The value behind `DEFAULT` is read as what it means. A NULL is no value, so a group would be read
behind it. -/
theorem defaultValue_token (value : WrittenDefault) {rest : List Token}
    (closed : rest.head? ≠ some .leftParen) :
    defaultValue (value.token :: rest) = (value.literal?, rest) := by
  cases value with
  | null =>
    have null : literal (.word "NULL" :: rest) = (none, rest) := rfl
    rw [WrittenDefault.token, defaultValue, null]
    exact group_of_closed closed
  | currentTimestamp => rfl
  | string content => rfl

/-- **An attribute is read off its tokens.** -/
theorem attributes_tokens (item : WrittenAttribute) {rest : List Token}
    (closed : rest.head? ≠ some .leftParen) :
    attributes (item.tokens ++ rest) = item.meaning.toList ++ attributes rest := by
  cases item with
  | unsigned => exact attributes_word (by decide) rest
  | notNull =>
    show attributes (.blank " " :: .word "NOT" :: .blank " " :: .word "NULL" :: rest) = _
    have read : nextAttribute (.word "NOT") (.blank " " :: .word "NULL" :: rest) =
        (some .notNull, rest) := rfl
    rw [attributes_blank rfl, attributes_cons rfl, read]
    rfl
  | default value =>
    show attributes (.blank " " :: .word "DEFAULT" :: .blank " " :: value.token :: rest) = _
    have front : skipBlanks (.blank " " :: value.token :: rest) = value.token :: rest := by
      cases value <;> rfl
    have read : nextAttribute (.word "DEFAULT") (.blank " " :: value.token :: rest) =
        (some (.default value.literal?), rest) := by
      show (some (Attribute.default (defaultValue (skipBlanks (.blank " " :: value.token :: rest))).1),
        (defaultValue (skipBlanks (.blank " " :: value.token :: rest))).2) = _
      rw [front, defaultValue_token value closed]
    rw [attributes_blank rfl, attributes_cons rfl, read]
    rfl
  | autoIncrement => exact attributes_word (by decide) rest
  | comment content =>
    show attributes (.blank " " :: .word "COMMENT" :: .blank " " :: .literal .single content :: rest) = _
    rw [attributes_word (by decide), attributes_blank rfl, attributes_other rfl rfl rfl]
    rfl

theorem head?_tokens_ne (written : List WrittenAttribute) :
    (written.flatMap WrittenAttribute.tokens).head? ≠ some .leftParen := by
  cases written with
  | nil => exact nofun
  | cons item rest =>
    rw [List.flatMap_cons]
    cases item <;> exact fun same => Token.noConfusion (Option.some.inj same)

theorem attributes_written (written : List WrittenAttribute) :
    attributes (written.flatMap WrittenAttribute.tokens) = written.filterMap WrittenAttribute.meaning := by
  induction written with
  | nil => rw [List.flatMap_nil, List.filterMap_nil, attributes_eq]; rfl
  | cons item rest ih =>
    rw [List.flatMap_cons, attributes_tokens item (head?_tokens_ne rest), ih]
    cases found : item.meaning with
    | none => rw [List.filterMap_cons_none found]; rfl
    | some meant => rw [List.filterMap_cons_some found]; rfl

/-! ### What a clause defines -/

theorem typeName_tokens (type : WrittenType) {rest : List Token}
    (closed : rest.head? ≠ some .leftParen) :
    typeName (type.tokens ++ rest) = (some (String.ofList type.text), rest) := by
  rw [WrittenType.tokens, WrittenType.text, WrittenType.argumentText, List.cons_append, typeName, word]
  simp only
  by_cases bare : type.arguments = []
  · rw [if_pos bare, if_pos bare, List.nil_append, List.append_nil, group_of_closed closed]
  · rw [if_neg bare, if_neg bare, group_argumentTokens]
    simp only
    rw [← String.ofList_append]

/-- **A clause defines its type as written, and what its attributes say.** -/
theorem ofClause?_text (type : WrittenType) (written : List WrittenAttribute) :
    Declaration.ofClause? (String.ofList (clauseText type written)) =
      some ⟨String.ofList type.text, !(written.filterMap WrittenAttribute.meaning).contains .notNull,
        ((written.filterMap WrittenAttribute.meaning).filterMap Attribute.default?).getLast?.join⟩ := by
  have front : skipBlanks (clauseTokens type written) =
      type.tokens ++ written.flatMap WrittenAttribute.tokens := rfl
  rw [Declaration.ofClause?, String.toList_ofList, tokens?_clauseText, Option.bind_some,
    Declaration.ofTokens?, front, typeName_tokens type (head?_tokens_ne written)]
  simp only
  rw [attributes_written]

end SchemaDump
