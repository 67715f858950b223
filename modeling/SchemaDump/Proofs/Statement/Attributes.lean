/-
**How attributes are read off the tokens behind a type.**

The reader takes one token after the other, blanks left out; at `NOT` and `DEFAULT` it takes what belongs
to the attribute as well. Parentheses mean nothing to it, except in the value of a default.

* `ofClause?_eq`: a clause is a type and the tokens behind it, and defines what their attributes say;
* `attributes_blank`, `attributes_other`: tokens that are passed over;
* **`defaults_append`**: tokens without `DEFAULT` add no default, whatever follows them;
* **`notNull_mem_attributes_append`**: and `NOT NULL` among them counts, as what follows does;
* **`exists_of_mem_attributes`**: an attribute is read at a token of its own, and
  `exists_of_mem_defaults`: a default at a `DEFAULT`, `saysNotNull_of_mem`: `NOT NULL` where it stands.
-/

import SchemaDump.Proofs.Sql.Backtracking
import SchemaDump.Statement.Declaration

namespace SchemaDump

open SchemaDump.Text SchemaDump.Sql

/-! ### The two parts of a clause -/

/-- The type that a clause starts with, and the tokens behind it. -/
def clauseParts? (clause : String) : Option (String × List Token) :=
  (tokens? clause.toList).bind fun tokens =>
    match typeName (skipBlanks tokens) with
    | (some native, rest) => some (native, rest)
    | (none, _) => none

/-- The values of the defaults among the attributes. -/
def defaults (tokens : List Token) : List (Option String) :=
  (attributes tokens).filterMap Attribute.default?

theorem ofClause?_eq (clause : String) :
    Declaration.ofClause? clause = (clauseParts? clause).map fun parts =>
      ⟨parts.1, !(attributes parts.2).contains .notNull, (defaults parts.2).getLast?.join⟩ := by
  rw [Declaration.ofClause?, clauseParts?]
  cases tokens? clause.toList with
  | none => rfl
  | some tokens =>
    rw [Option.bind_some, Option.bind_some, Declaration.ofTokens?]
    cases typeName (skipBlanks tokens) with
    | mk native rest => cases native <;> rfl

theorem ofClause?_of_parts {clause native : String} {tokens : List Token}
    (parts : clauseParts? clause = some (native, tokens)) :
    Declaration.ofClause? clause = some
      ⟨native, !(attributes tokens).contains .notNull, (defaults tokens).getLast?.join⟩ := by
  rw [ofClause?_eq, parts, Option.map_some]

/-! ### Keywords -/

theorem isBlank_of_isKeyword {token : Token} {keyword : Keyword}
    (is : token.isKeyword keyword = true) : token.isBlank = false := by
  cases token with
  | word text => rfl
  | _ => exact Bool.noConfusion is

/-- A token is at most one keyword. -/
theorem not_isKeyword {token : Token} {keyword other : Keyword}
    (is : token.isKeyword keyword = true) (different : keyword ≠ other) :
    token.isKeyword other = false := by
  cases token with
  | word text =>
    simp only [Token.isKeyword, beq_iff_eq] at is
    simp only [Token.isKeyword, is, beq_eq_false_iff_ne]
    revert different
    cases keyword <;> cases other <;> decide
  | _ => exact Bool.noConfusion is

/-- A token behind blanks. -/
theorem skipBlanks_append {gap : List Token} (blank : ∀ token ∈ gap, token.isBlank = true)
    {token : Token} (visible : token.isBlank = false) (rest : List Token) :
    skipBlanks (gap ++ token :: rest) = token :: rest := by
  rw [skipBlanks, List.dropWhile_append_of_pos blank, List.dropWhile_cons_of_neg (by simp [visible])]

/-- Blanks are skipped up to a token that is none. -/
theorem skipBlanks_append_cons (front : List Token) {token : Token} (visible : token.isBlank = false)
    (rest : List Token) :
    skipBlanks (front ++ token :: rest) = skipBlanks front ++ token :: rest := by
  have stop : (token :: rest).dropWhile Token.isBlank = token :: rest :=
    List.dropWhile_cons_of_neg (by simp [visible])
  rw [skipBlanks, List.dropWhile_append, stop]
  split
  · next none =>
    rw [skipBlanks, List.isEmpty_iff.mp none]
    rfl
  · rfl

/-! ### One token -/

theorem attributes_eq (tokens : List Token) :
    attributes tokens =
      match skipBlanks tokens with
      | [] => []
      | token :: rest =>
        (nextAttribute token rest).1.toList ++ attributes (nextAttribute token rest).2 := by
  rw [attributes]
  split
  · next front => rw [front]
  · next front => rw [front]

theorem attributes_nil : attributes [] = [] := by
  rw [attributes_eq]
  rfl

theorem attributes_blank {token : Token} (blank : token.isBlank = true) (rest : List Token) :
    attributes (token :: rest) = attributes rest := by
  rw [attributes_eq, attributes_eq rest, skipBlanks, List.dropWhile_cons_of_pos blank, skipBlanks]

theorem attributes_skipBlanks (tokens : List Token) :
    attributes (skipBlanks tokens) = attributes tokens := by
  induction tokens with
  | nil => rfl
  | cons token rest ih =>
    by_cases blank : token.isBlank = true
    · rw [attributes_blank blank, ← ih, skipBlanks, List.dropWhile_cons_of_pos blank, skipBlanks]
    · rw [skipBlanks, List.dropWhile_cons_of_neg blank]

theorem attributes_cons {token : Token} (visible : token.isBlank = false) (rest : List Token) :
    attributes (token :: rest) =
      (nextAttribute token rest).1.toList ++ attributes (nextAttribute token rest).2 := by
  rw [attributes_eq, skipBlanks, List.dropWhile_cons_of_neg (by simp [visible])]

theorem nextAttribute_not {token : Token} (is : token.isKeyword .not = true) (rest : List Token) :
    nextAttribute token rest = ((keyword .null (skipBlanks rest)).1.map fun _ => .notNull,
      (keyword .null (skipBlanks rest)).2) := by
  rw [nextAttribute, if_pos is]
  split
  · next found => rw [found]; rfl
  · next found => rw [found]; rfl

theorem nextAttribute_default {token : Token} (is : token.isKeyword .default = true)
    (rest : List Token) :
    nextAttribute token rest = (some (.default (defaultValue (skipBlanks rest)).1),
      (defaultValue (skipBlanks rest)).2) := by
  rw [nextAttribute, not_isKeyword is (by decide : Keyword.default ≠ .not),
    if_neg Bool.false_ne_true, if_pos is]

theorem nextAttribute_other {token : Token} (notNot : token.isKeyword .not = false)
    (notDefault : token.isKeyword .default = false) (rest : List Token) :
    nextAttribute token rest = (none, rest) := by
  rw [nextAttribute, notNot, notDefault]
  rfl

/-- A token that starts no attribute is passed over. -/
theorem attributes_other {token : Token} (visible : token.isBlank = false)
    (notNot : token.isKeyword .not = false) (notDefault : token.isKeyword .default = false)
    (rest : List Token) : attributes (token :: rest) = attributes rest := by
  rw [attributes_cons visible, nextAttribute_other notNot notDefault]
  rfl

/-- The keyword `NULL` comes next, perhaps behind blanks. -/
def nullNext (tokens : List Token) : Bool := (skipBlanks tokens).head?.any (Token.isKeyword .null)

/-- At `NOT` the column is `NOT NULL` if `NULL` comes next; either way the reader goes on behind `NOT`,
where a `NULL` starts no attribute. -/
theorem attributes_not {token : Token} (is : token.isKeyword .not = true) (rest : List Token) :
    attributes (token :: rest) =
      (if nullNext rest then [.notNull] else []) ++ attributes rest := by
  rw [attributes_cons (isBlank_of_isKeyword is), nextAttribute_not is, ← attributes_skipBlanks rest,
    nullNext]
  cases skipBlanks rest with
  | nil => rfl
  | cons next after =>
    by_cases null : next.isKeyword .null = true
    · have passed := attributes_other (isBlank_of_isKeyword null)
        (not_isKeyword null (by decide : Keyword.null ≠ .not))
        (not_isKeyword null (by decide : Keyword.null ≠ .default)) after
      simp [keyword, null, passed]
    · simp [keyword, null]

/-- At `DEFAULT` the reader goes on behind the value. -/
theorem attributes_default {token : Token} (is : token.isKeyword .default = true) (rest : List Token) :
    attributes (token :: rest) = .default (defaultValue (skipBlanks rest)).1 ::
      attributes (defaultValue (skipBlanks rest)).2 := by
  rw [attributes_cons (isBlank_of_isKeyword is), nextAttribute_default is]
  rfl

/-! ### The value of a default -/

/-- A `NULL` is no value; only right behind it a group is read. -/
theorem defaultValue_null {token : Token} (is : token.isKeyword .null = true) (rest : List Token) :
    defaultValue (token :: rest) = group rest := by
  rw [defaultValue, literal_null is]

theorem defaultValue_word {text : String} (notNull : (Token.word text).isKeyword .null = false)
    (rest : List Token) : defaultValue (.word text :: rest) = (some text, rest) := by
  have taken : literal (.word text :: rest) = (some text, rest) :=
    if_neg (Bool.not_eq_true _ ▸ notNull)
  rw [defaultValue, taken]

/-! ### Tokens without `DEFAULT` -/

/-- **A token other than `DEFAULT` adds no default**, whatever follows it. -/
theorem defaults_cons {token : Token} (other : token.isKeyword .default = false)
    (rest : List Token) : defaults (token :: rest) = defaults rest := by
  by_cases blank : token.isBlank = true
  · rw [defaults, attributes_blank blank, defaults]
  by_cases is : token.isKeyword .not = true
  · rw [defaults, attributes_not is, List.filterMap_append, defaults]
    split <;> rfl
  · rw [defaults, attributes_other (Bool.not_eq_true _ ▸ blank) (Bool.not_eq_true _ ▸ is) other, defaults]

theorem defaults_append {front : List Token}
    (free : ∀ token ∈ front, token.isKeyword .default = false) (rest : List Token) :
    defaults (front ++ rest) = defaults rest := by
  induction front with
  | nil => rfl
  | cons token more ih =>
    rw [List.forall_mem_cons] at free
    rw [List.cons_append, defaults_cons free.1, ih free.2]

theorem defaults_eq_nil_iff {tokens : List Token} :
    defaults tokens = [] ↔ ∀ token ∈ tokens, token.isKeyword .default = false := by
  induction tokens with
  | nil => simp [defaults, attributes_nil]
  | cons token rest ih =>
    rw [List.forall_mem_cons]
    by_cases is : token.isKeyword .default = true
    · simp [defaults, attributes_default is, Attribute.default?, is]
    · rw [defaults_cons (Bool.not_eq_true _ ▸ is), ih]
      simp [is]

/-- Somewhere in the tokens `NULL` comes next behind `NOT`. -/
def saysNotNull : List Token → Bool
  | [] => false
  | token :: rest => (token.isKeyword .not && nullNext rest) || saysNotNull rest

section Stop

/-! A visible token that is no `NULL` completes no `NOT` in front of it. -/

variable {stop : Token} (visible : stop.isBlank = false) (notNull : stop.isKeyword .null = false)

include visible notNull

theorem nullNext_append_cons (front rest : List Token) :
    nullNext (front ++ stop :: rest) = nullNext front := by
  rw [nullNext, nullNext, skipBlanks_append_cons front visible]
  cases skipBlanks front with
  | nil => simp [notNull]
  | cons first after => rfl

theorem saysNotNull_append_cons (front rest : List Token) :
    saysNotNull (front ++ stop :: rest) = (saysNotNull front || saysNotNull (stop :: rest)) := by
  induction front with
  | nil => rfl
  | cons token more ih =>
    rw [List.cons_append, saysNotNull, saysNotNull, nullNext_append_cons visible notNull, ih,
      Bool.or_assoc]

/-- **Among tokens without `DEFAULT`, `NOT NULL` counts wherever it stands.** -/
theorem notNull_mem_attributes_append {front : List Token}
    (free : ∀ token ∈ front, token.isKeyword .default = false) (rest : List Token) :
    .notNull ∈ attributes (front ++ stop :: rest) ↔
      saysNotNull front = true ∨ .notNull ∈ attributes (stop :: rest) := by
  induction front with
  | nil => simp [saysNotNull]
  | cons token more ih =>
    rw [List.forall_mem_cons] at free
    have later := ih free.2
    rw [List.cons_append, saysNotNull]
    by_cases blank : token.isBlank = true
    · have notNot : token.isKeyword .not = false := by
        rw [← Bool.not_eq_true]
        intro is
        exact Bool.false_ne_true ((isBlank_of_isKeyword is).symm.trans blank)
      rw [attributes_blank blank, notNot, later]
      simp
    by_cases is : token.isKeyword .not = true
    · rw [attributes_not is, is, List.mem_append, nullNext_append_cons visible notNull, later]
      cases nullNext more <;> simp
    · rw [attributes_other (Bool.not_eq_true _ ▸ blank) (Bool.not_eq_true _ ▸ is) free.1, later]
      simp [is]

end Stop

/-! ### Where an attribute comes from -/

theorem suffix_defaultValue (tokens : List Token) : (defaultValue tokens).2 <:+ tokens := by
  have read := suffix_literal tokens
  unfold defaultValue
  split
  · next found => rwa [found] at read
  · next rest found =>
    rw [found] at read
    exact (backtracks_group.suffix rest).trans read

theorem suffix_nextAttribute (token : Token) (rest : List Token) :
    (nextAttribute token rest).2 <:+ rest := by
  have blanks := suffix_skipBlanks rest
  by_cases isNot : token.isKeyword .not = true
  · rw [nextAttribute_not isNot]
    exact ((backtracks_keyword .null).suffix _).trans blanks
  by_cases isDefault : token.isKeyword .default = true
  · rw [nextAttribute_default isDefault]
    exact (suffix_defaultValue _).trans blanks
  · simp only [nextAttribute_other (Bool.not_eq_true _ ▸ isNot) (Bool.not_eq_true _ ▸ isDefault),
      List.suffix_refl]

/-- An attribute starts at `NOT` in front of `NULL`, or at `DEFAULT`. -/
theorem starts_of_nextAttribute {token : Token} {rest : List Token} {item : Attribute}
    (started : (nextAttribute token rest).1 = some item) :
    (token.isKeyword .not = true ∧ nullNext rest = true ∧ item = .notNull) ∨
    (token.isKeyword .default = true ∧ item = .default (defaultValue (skipBlanks rest)).1) := by
  by_cases isNot : token.isKeyword .not = true
  · left
    rw [nextAttribute_not isNot] at started
    obtain ⟨_, null, rfl⟩ := Option.map_eq_some_iff.mp started
    refine ⟨isNot, ?_, rfl⟩
    rw [nullNext]
    cases first : skipBlanks rest with
    | nil =>
      rw [first] at null
      exact nomatch null
    | cons next after =>
      rw [first, keyword] at null
      split at null
      · assumption
      · exact nomatch null
  by_cases isDefault : token.isKeyword .default = true
  · rw [nextAttribute_default isDefault] at started
    exact .inr ⟨isDefault, (Option.some.inj started).symm⟩
  · rw [nextAttribute_other (Bool.not_eq_true _ ▸ isNot) (Bool.not_eq_true _ ▸ isDefault)] at started
    exact nomatch started

/-- **An attribute is read at a token of its own.** -/
theorem exists_of_mem_attributes {tokens : List Token} {item : Attribute}
    (listed : item ∈ attributes tokens) :
    ∃ before token rest, tokens = before ++ token :: rest ∧
      (nextAttribute token rest).1 = some item := by
  induction tokens using attributes.induct with
  | case1 tokens front =>
    rw [attributes_eq, front] at listed
    exact absurd listed List.not_mem_nil
  | case2 tokens token rest front ih =>
    obtain ⟨blanks, whole⟩ := suffix_skipBlanks tokens
    rw [front] at whole
    rw [attributes_eq, front] at listed
    rcases List.mem_append.mp listed with here | later
    · exact ⟨blanks, token, rest, whole.symm, Option.mem_toList.mp here⟩
    · obtain ⟨before, other, after, found, reads⟩ := ih later
      obtain ⟨skipped, rfl⟩ := found ▸ suffix_nextAttribute token rest
      exact ⟨blanks ++ token :: (skipped ++ before), other, after, by simp [← whole], reads⟩

theorem exists_of_mem_defaults {tokens : List Token} {value : Option String}
    (listed : value ∈ defaults tokens) :
    ∃ before keyword rest, tokens = before ++ keyword :: rest ∧
      keyword.isKeyword .default = true ∧ (defaultValue (skipBlanks rest)).1 = value := by
  obtain ⟨item, read, given⟩ := List.mem_filterMap.mp listed
  obtain ⟨before, keyword, rest, rfl, started⟩ := exists_of_mem_attributes read
  obtain ⟨-, -, rfl⟩ | ⟨isDefault, rfl⟩ := starts_of_nextAttribute started
  · exact nomatch given
  · exact ⟨before, keyword, rest, rfl, isDefault, Option.some.inj given⟩

theorem saysNotNull_append_of_right {tokens : List Token} (said : saysNotNull tokens = true)
    (front : List Token) : saysNotNull (front ++ tokens) = true := by
  induction front with
  | nil => exact said
  | cons token front ih => rw [List.cons_append, saysNotNull, ih, Bool.or_true]

/-- `NOT NULL` is read only where it stands. -/
theorem saysNotNull_of_mem {tokens : List Token} (listed : .notNull ∈ attributes tokens) :
    saysNotNull tokens = true := by
  obtain ⟨before, token, rest, rfl, started⟩ := exists_of_mem_attributes listed
  obtain ⟨isNot, null, -⟩ | ⟨-, different⟩ := starts_of_nextAttribute started
  · refine saysNotNull_append_of_right ?_ before
    rw [saysNotNull, isNot, null]
    rfl
  · exact nomatch different

end SchemaDump
