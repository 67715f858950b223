/-
**What a column clause defines: type, nullability, default.**

The type is the first word of the clause, with the group right behind it if that group is closed. Behind
the type a clause is read as a list of attributes; `NOT NULL` and `DEFAULT` count, wherever they stand,
and every other token is passed over one by one. A column is nullable unless some attribute is
`NOT NULL`, and the last `DEFAULT` gives its default.
-/

import SchemaDump.Sql.Scanner
import SchemaDump.Sql.Tokens

namespace SchemaDump

open SchemaDump.Sql

/-- An attribute of a column clause. -/
inductive Attribute where
  | notNull
  /-- A default, with its value as written; a default NULL has none. -/
  | default (value : Option String)
  deriving DecidableEq, Repr

/-- Reads the value behind `DEFAULT`: a literal or, where that is nothing, a group. -/
def defaultValue (tokens : List Token) : Option String × List Token :=
  match literal tokens with
  | (some value, rest) => (some value, rest)
  | (none, rest) => group rest

/-- Reads one attribute, or passes over one token that starts none. -/
def nextAttribute (token : Token) (rest : List Token) : Option Attribute × List Token :=
  if token.isKeyword .not then
    match keyword .null (skipBlanks rest) with
    | (some (), after) => (some .notNull, after)
    | (none, after) => (none, after)
  else if token.isKeyword .default then
    match defaultValue (skipBlanks rest) with
    | (value, after) => (some (.default value), after)
  else (none, rest)

theorem length_defaultValue_le (tokens : List Token) :
    (defaultValue tokens).2.length ≤ tokens.length := by
  have read := length_literal_le tokens
  unfold defaultValue
  split
  · next found => simpa [found] using read
  · next rest found =>
    rw [found] at read
    exact Nat.le_trans (length_group_le rest) read

theorem length_nextAttribute_le (token : Token) (rest : List Token) :
    (nextAttribute token rest).2.length ≤ rest.length := by
  have blanks := length_skipBlanks_le rest
  unfold nextAttribute
  split
  · have null := length_keyword_le .null (skipBlanks rest)
    split
    · next found =>
      rw [found] at null
      exact Nat.le_trans null blanks
    · next found =>
      rw [found] at null
      exact Nat.le_trans null blanks
  · split
    · exact Nat.le_trans (length_defaultValue_le _) blanks
    · exact Nat.le_refl _

/-- The attributes of the tokens behind the type, in order. -/
def attributes (tokens : List Token) : List Attribute :=
  match _front : skipBlanks tokens with
  | [] => []
  | token :: rest =>
    (nextAttribute token rest).1.toList ++ attributes (nextAttribute token rest).2
termination_by tokens.length
decreasing_by
  have read := length_nextAttribute_le token rest
  have blanks := length_skipBlanks_le tokens
  rw [_front, List.length_cons] at blanks
  omega

/-- The value of a default attribute. -/
def Attribute.default? : Attribute → Option (Option String)
  | .default value => some value
  | .notNull => none

/-- What a column clause defines. -/
structure Declaration where
  nativeType : String
  nullable : Bool
  defaultValue : Option String
  deriving DecidableEq, Repr

/-- Reads a type: a word, and the group right behind it. -/
def typeName : Scanner String := fun tokens =>
  match word tokens with
  | (some name, rest) =>
    match group rest with
    | (some arguments, after) => (some (name ++ arguments), after)
    | (none, after) => (some name, after)
  | (none, rest) => (none, rest)

/-- What the tokens of a clause define, if they start with a type. -/
def Declaration.ofTokens? (tokens : List Token) : Option Declaration :=
  match typeName (skipBlanks tokens) with
  | (some native, rest) =>
    some ⟨native, !(attributes rest).contains .notNull,
      ((attributes rest).filterMap Attribute.default?).getLast?.join⟩
  | (none, _) => none

/-- What a clause defines, if it has tokens and starts with a type. -/
def Declaration.ofClause? (clause : String) : Option Declaration :=
  (tokens? clause.toList).bind Declaration.ofTokens?

end SchemaDump
