/-
**An expression in parentheses as a default.**

Behind `DEFAULT` one literal is tried before a group is, and a left parenthesis is a literal as any other
token is. So of `DEFAULT (…)` the parenthesis alone becomes the value, and the tokens of the group are
read as more attributes. Only right behind `NULL`, which is taken but is no value, is a group read.

* `ExpressionDefault`: the tokens behind a type that have one such default in them;
* `length_value_le`: a value is no longer than the tokens in front of a right parenthesis from which it is
  read, provided that no group is left open there;
* **`defaultValue_expression`**: the default is the parenthesis, or what a `DEFAULT` inside the group
  gives, and never the group.
-/

import SchemaDump.Proofs.Statement.Attributes

namespace SchemaDump

open SchemaDump.Text SchemaDump.Sql

/-- Tokens behind a type with a group behind their `DEFAULT`, and no other `DEFAULT` outside the
group. -/
structure ExpressionDefault where
  front : List Token
  keyword : Token
  gap : List Token
  inside : List Token
  rest : List Token
  isDefault : keyword.isKeyword .default = true
  only : ∀ token ∈ front ++ rest, token.isKeyword .default = false
  blank : ∀ token ∈ gap, token.isBlank = true
  balanced : Balanced inside
  /-- No string stands in the group. -/
  unquoted : ∀ content, .literal .single content ∉ inside

namespace ExpressionDefault

variable (shape : ExpressionDefault)

/-- The group, with both its parentheses. -/
def group : List Token := .leftParen :: (shape.inside ++ [.rightParen])

def tokens : List Token := shape.front ++ shape.keyword :: (shape.gap ++ (shape.group ++ shape.rest))

/-- The tokens behind the parenthesis that opens the group. -/
def behind : List Token := shape.inside ++ .rightParen :: shape.rest

theorem group_append_rest : shape.group ++ shape.rest = .leftParen :: shape.behind := by
  simp [group, behind]

/-! ### What is read at `DEFAULT` -/

/-- **The value at `DEFAULT` is the parenthesis**, and the reader goes on behind it. -/
theorem defaults_tokens : defaults shape.tokens = some "(" :: defaults shape.behind := by
  have opened : skipBlanks (shape.gap ++ .leftParen :: shape.behind) = .leftParen :: shape.behind :=
    skipBlanks_append shape.blank rfl shape.behind
  have value : defaultValue (.leftParen :: shape.behind) = (some "(", shape.behind) := rfl
  have front := (List.forall_mem_append.mp shape.only).1
  rw [tokens, defaults_append front, group_append_rest, defaults, attributes_default shape.isDefault, opened,
    value]
  rfl

/-- Every further default is read at a `DEFAULT` inside the group. -/
theorem exists_of_mem_behind {value : Option String} (listed : value ∈ defaults shape.behind) :
    ∃ before keyword more, shape.inside = before ++ keyword :: more ∧
      (defaultValue (skipBlanks (more ++ .rightParen :: shape.rest))).1 = value := by
  obtain ⟨before, keyword, after, whole, isDefault, read⟩ := exists_of_mem_defaults listed
  have close : Token.rightParen.isKeyword .default = false := rfl
  have outside : ∀ token ∈ .rightParen :: shape.rest, token.isKeyword .default = false :=
    List.forall_mem_cons.mpr ⟨close, (List.forall_mem_append.mp shape.only).2⟩
  rcases List.append_eq_append_iff.mp whole with ⟨skipped, -, tail⟩ | ⟨more, front, tail⟩
  · have known := outside keyword (tail ▸ List.mem_append_right _ List.mem_cons_self)
    exact absurd (known.symm.trans isDefault) Bool.false_ne_true
  · cases more with
    | nil => exact absurd ((List.cons.inj tail).1 ▸ isDefault) (by decide)
    | cons first more =>
      obtain ⟨rfl, rfl⟩ := List.cons.inj tail
      exact ⟨before, keyword, more, front, read⟩

end ExpressionDefault

/-! ### How long a value can be -/

theorem length_printed_cons (token : Token) (tokens : List Token) :
    (printed (token :: tokens)).length = token.text.length + (printed tokens).length := by
  rw [← String.length_toList, ← String.length_toList, ← String.length_toList, toList_printed,
    toList_printed, List.flatMap_cons, List.length_append]

theorem length_printed_append (first second : List Token) :
    (printed (first ++ second)).length = (printed first).length + (printed second).length := by
  rw [← String.length_toList, ← String.length_toList, ← String.length_toList, toList_printed,
    toList_printed, toList_printed, List.flatMap_append, List.length_append]

section Within

variable {inside front more rest : List Token} {value : String}

/-- A group that opens inside a group closes there. -/
theorem length_group_le_printed (balanced : Balanced inside) (within : inside = front ++ more)
    (read : (group (more ++ .rightParen :: rest)).1 = some value) :
    value.length ≤ (printed (more ++ [.rightParen])).length := by
  by_cases opened : more.head? = some .leftParen
  · obtain ⟨tail, rfl⟩ := List.head?_eq_some_iff.mp opened
    obtain ⟨nested, behind, balancedNested, rfl⟩ := balanced.opens within
    rw [List.cons_append, List.append_assoc, List.cons_append, group_balanced balancedNested] at read
    obtain rfl := Option.some.inj read
    simp only [length_printed_cons, length_printed_append, List.cons_append, List.append_assoc]
    omega
  · have closed : (more ++ .rightParen :: rest).head? ≠ some .leftParen := by
      cases more with
      | nil => exact nofun
      | cons next after => exact opened
    rw [group_of_closed closed] at read
    exact nomatch read

/-- **A value that is read in a group is no longer than what is left of the group**, if no string is in
it: a string would get its quotes doubled. -/
theorem length_value_le (balanced : Balanced inside)
    (unquoted : ∀ content, .literal .single content ∉ inside) (within : inside = front ++ more)
    (read : (defaultValue (more ++ .rightParen :: rest)).1 = some value) :
    value.length ≤ (printed (more ++ [.rightParen])).length := by
  cases more with
  | nil =>
    obtain rfl : ")" = value := Option.some.inj read
    exact Nat.le_refl _
  | cons token after =>
    have own (alone : (defaultValue (token :: (after ++ .rightParen :: rest))).1 = some token.text) :
        value.length ≤ (printed (token :: after ++ [.rightParen])).length := by
      obtain rfl : token.text = value := Option.some.inj (alone.symm.trans read)
      rw [List.cons_append, length_printed_cons]
      exact Nat.le_add_right _ _
    cases token with
    | word text =>
      by_cases null : (Token.word text).isKeyword .null = true
      · rw [List.cons_append, defaultValue_null null] at read
        rw [List.cons_append, length_printed_cons]
        exact Nat.le_add_left_of_le
          (length_group_le_printed balanced (within.trans (List.append_cons front _ _)) read)
      · exact own (congrArg Prod.fst (defaultValue_word (Bool.not_eq_true _ ▸ null) _))
    | minus =>
      -- A minus takes the number right behind it, and is no value without one.
      cases after with
      | nil => exact nomatch read
      | cons next after =>
        cases next with
        | number digits long =>
          obtain rfl : "-" ++ digits = value := Option.some.inj read
          have minus : Token.minus.text.length = "-".length := rfl
          have digitsFit : digits.length ≤ (Token.number digits long).text.length := by
            cases long <;> simp [Token.text]
          simp only [List.cons_append, length_printed_cons, String.length_append]
          omega
        | _ => exact nomatch read
    | literal style content =>
      cases style with
      | single => exact absurd (within ▸ List.mem_append_right _ List.mem_cons_self) (unquoted content)
      | _ => exact own rfl
    | blank text => exact nomatch read
    | comma => exact nomatch read
    | _ => exact own rfl

end Within

namespace ExpressionDefault

variable (shape : ExpressionDefault)

theorem length_of_mem_behind {value : String} (listed : some value ∈ defaults shape.behind) :
    value.length < (printed shape.group).length := by
  obtain ⟨before, keyword, more, within, read⟩ := shape.exists_of_mem_behind listed
  have visible : Token.rightParen.isBlank = false := rfl
  rw [skipBlanks_append_cons more visible] at read
  obtain ⟨blanks, whole⟩ : skipBlanks more <:+ more := List.dropWhile_suffix _
  have split : shape.inside = before ++ keyword :: blanks ++ skipBlanks more := by simp [within, whole]
  have fits := length_value_le shape.balanced shape.unquoted split read
  have paren : Token.leftParen.text.length = 1 := rfl
  rw [group, split]
  simp only [length_printed_cons, length_printed_append, List.append_assoc, List.cons_append] at fits ⊢
  omega

theorem length_group_gt : "(".length < (printed shape.group).length := by
  have paren : Token.leftParen.text.length = 1 ∧ Token.rightParen.text.length = 1 := ⟨rfl, rfl⟩
  have one : "(".length = 1 := rfl
  simp only [group, length_printed_cons, length_printed_append]
  omega

end ExpressionDefault

/-- **An expression in parentheses is never read as the default.** The default is what the last `DEFAULT`
inside the group gives, if there is one, and else the parenthesis alone. -/
theorem defaultValue_expression {clause native : String} (shape : ExpressionDefault)
    (parts : clauseParts? clause = some (native, shape.tokens)) :
    ∃ declaration, Declaration.ofClause? clause = some declaration ∧
      declaration.defaultValue = (defaults shape.behind).getLast?.getD (some "(") ∧
      ((∀ token ∈ shape.inside, token.isKeyword .default = false) →
        declaration.defaultValue = some "(") ∧
      declaration.defaultValue ≠ some (printed shape.group) := by
  have value : (defaults shape.tokens).getLast?.join =
      (defaults shape.behind).getLast?.getD (some "(") := by
    rw [shape.defaults_tokens, List.getLast?_cons, Option.join_some]
  have read : Declaration.ofClause? clause = some ⟨native, !(attributes shape.tokens).contains .notNull,
      (defaults shape.behind).getLast?.getD (some "(")⟩ := by
    rw [ofClause?_of_parts parts, value]
  refine ⟨_, read, rfl, fun free => ?_, fun whole => ?_⟩
  · have none : defaults shape.behind = [] := by
      refine defaults_eq_nil_iff.mpr ?_
      have rest := (List.forall_mem_append.mp shape.only).2
      exact List.forall_mem_append.mpr ⟨free, List.forall_mem_cons.mpr ⟨rfl, rest⟩⟩
    rw [none]
    rfl
  · cases last : (defaults shape.behind).getLast? with
    | none =>
      have same : some "(" = some (printed shape.group) := by
        simpa only [last, Option.getD_none] using whole
      exact absurd (congrArg String.length (Option.some.inj same)) (Nat.ne_of_lt shape.length_group_gt)
    | some given =>
      obtain rfl : given = some (printed shape.group) := by
        simpa only [last, Option.getD_some] using whole
      exact absurd (shape.length_of_mem_behind (List.mem_of_getLast? last)) (Nat.lt_irrefl _)

/-- The tokens behind the type in ` int NOT NULL DEFAULT ((1 + 2) * 3)`. -/
def productDefault : ExpressionDefault where
  front := [.blank " ", .word "NOT", .blank " ", .word "NULL", .blank " "]
  keyword := .word "DEFAULT"
  gap := [.blank " "]
  inside := .leftParen :: ([.number "1" false, .blank " ", .symbol "+", .blank " ", .number "2" false] ++
    .rightParen :: [.blank " ", .symbol "*", .blank " ", .number "3" false])
  rest := []
  isDefault := by decide
  only := by decide
  blank := by decide
  balanced := .group (.of_flat (by decide)) (.of_flat (by decide))
  unquoted := by simp

theorem clauseParts?_product :
    clauseParts? " int NOT NULL DEFAULT ((1 + 2) * 3)" = some ("int", productDefault.tokens) := by
  decide +kernel

theorem defaultValue_expression_product :
    ∃ declaration, Declaration.ofClause? " int NOT NULL DEFAULT ((1 + 2) * 3)" = some declaration ∧
      declaration.defaultValue = some "(" ∧
      declaration.defaultValue ≠ some "((1 + 2) * 3)" := by
  obtain ⟨declaration, read, -, alone, notWhole⟩ :=
    defaultValue_expression productDefault clauseParts?_product
  exact ⟨declaration, read, alone (by decide), notWhole⟩

/-- A default in parentheses is not read whole. -/
theorem defaultValue_product_ne_group :
    Declaration.ofClause? " int NOT NULL DEFAULT ((1 + 2) * 3)" = some ⟨"int", false, some "("⟩ ∧
    ¬ ∀ (clause native : String) (shape : ExpressionDefault),
      clauseParts? clause = some (native, shape.tokens) →
      ∃ declaration, Declaration.ofClause? clause = some declaration ∧
        declaration.defaultValue = some (printed shape.group) := by
  have read : Declaration.ofClause? " int NOT NULL DEFAULT ((1 + 2) * 3)" =
      some ⟨"int", false, some "("⟩ := by decide +kernel
  refine ⟨read, fun whole => ?_⟩
  obtain ⟨declaration, found, value⟩ := whole _ "int" productDefault clauseParts?_product
  obtain rfl := Option.some.inj (read.symm.trans found)
  exact absurd value (by decide)

end SchemaDump
