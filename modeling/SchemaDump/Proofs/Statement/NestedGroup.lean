/-
**Groups among the attributes.**

Parentheses mean nothing to the reader of attributes: the tokens of a group are read one by one, as if
they stood in the clause by themselves. So a group counts for what is read in it, and for nothing else;
`DEFAULT` and `NOT NULL` in it count as they do outside.

* `defaultValue_append`, `nextAttribute_append`: what is read does not depend on the tokens that follow,
  unless the value of a default goes on there;
* **`attributes_append`**: so the attributes of tokens in a row are those of each part;
* `GroupPlace`: a place for a group, and **`GroupPlace.attributes_fill`**: the attributes in front of the
  group, in it and behind it;
* **`replaceGroup_keeps`**: what another group in the same place changes, and what it does not.
-/

import SchemaDump.Proofs.Statement.Attributes

namespace SchemaDump

open SchemaDump.Text SchemaDump.Sql

/-! ### Readers and the tokens that follow -/

/-- A group at the front of the tokens is still to come, or ends only in the tail. -/
def groupGoesOn (tail : List Token) : List Token → Bool
  | [] => true
  | .leftParen :: inside =>
    (cutGroup 0 (.leftParen :: inside)).isNone && (cutGroup 0 (.leftParen :: (inside ++ tail))).isSome
  | _ => false

/-- The value at the front of the tokens is still to come, or may be a group behind `NULL` that is. -/
def valueGoesOn (tail : List Token) : List Token → Bool
  | [] => true
  | token :: rest => token.isKeyword .null && groupGoesOn tail rest

section Append

variable {tokens tail : List Token}

theorem keyword_append {expected : Keyword}
    (stop : tokens = [] → ∀ next ∈ tail.head?, next.isKeyword expected = false) :
    keyword expected (tokens ++ tail) =
      ((keyword expected tokens).1, (keyword expected tokens).2 ++ tail) := by
  cases tokens with
  | nil =>
    cases tail with
    | nil => rfl
    | cons next after => simp [keyword, stop rfl next rfl]
  | cons token rest =>
    rw [List.cons_append, keyword, keyword]
    split <;> rfl

theorem groupGoesOn_of_closed {token : Token} (closed : token ≠ .leftParen) (tail rest : List Token) :
    groupGoesOn tail (token :: rest) = false := by
  cases token with
  | leftParen => exact absurd rfl closed
  | _ => rfl

theorem group_append (ended : groupGoesOn tail tokens = false) :
    group (tokens ++ tail) = ((group tokens).1, (group tokens).2 ++ tail) := by
  cases tokens with
  | nil => exact nomatch ended
  | cons token rest =>
    by_cases opened : token = .leftParen
    · subst opened
      rw [List.cons_append, group, group]
      cases cut : cutGroup 0 (.leftParen :: rest) with
      | some found =>
        have carried := (cutGroup_takes_front cut).2 tail
        rw [List.cons_append] at carried
        rw [carried]
      | none =>
        have never : cutGroup 0 (.leftParen :: (rest ++ tail)) = none := by
          rwa [groupGoesOn, cut, Option.isNone_none, Bool.true_and, Option.isSome_eq_false_iff,
            Option.isNone_iff_eq_none] at ended
        rw [never]
        rfl
    · have closed (more : List Token) : (token :: more).head? ≠ some .leftParen :=
        fun same => opened (Option.some.inj same)
      rw [List.cons_append, group_of_closed (closed _), group_of_closed (closed _), List.cons_append]

theorem defaultValue_append (ended : valueGoesOn tail tokens = false)
    (apart : tokens = [.minus] → ∀ digits long, tail.head? ≠ some (.number digits long)) :
    defaultValue (tokens ++ tail) = ((defaultValue tokens).1, (defaultValue tokens).2 ++ tail) := by
  cases tokens with
  | nil => exact nomatch ended
  | cons token rest =>
    cases token with
    | word text =>
      by_cases null : (Token.word text).isKeyword .null = true
      · rw [valueGoesOn, null, Bool.true_and] at ended
        rw [List.cons_append, defaultValue_null null, defaultValue_null null, group_append ended]
      · rw [List.cons_append, defaultValue_word (Bool.not_eq_true _ ▸ null),
          defaultValue_word (Bool.not_eq_true _ ▸ null)]
    | minus =>
      -- A number behind the minus would be taken with it.
      cases rest with
      | nil =>
        cases tail with
        | nil => rfl
        | cons next after =>
          cases next with
          | number digits long => exact absurd rfl (apart rfl digits long)
          | _ => rfl
      | cons next after => cases next <;> rfl
    | literal style content => cases style <;> rfl
    | _ => rfl

/-- **One attribute is read without the tokens that follow**, if they complete nothing. -/
theorem nextAttribute_append {token : Token}
    (blanks : skipBlanks (tokens ++ tail) = skipBlanks tokens ++ tail)
    (stop : skipBlanks tokens = [] → ∀ next ∈ tail.head?, next.isKeyword .null = false)
    (ended : token.isKeyword .default = true → valueGoesOn tail (skipBlanks tokens) = false)
    (apart : skipBlanks tokens = [.minus] →
      ∀ digits long, tail.head? ≠ some (.number digits long)) :
    nextAttribute token (tokens ++ tail) =
      ((nextAttribute token tokens).1, (nextAttribute token tokens).2 ++ tail) := by
  by_cases isNot : token.isKeyword .not = true
  · rw [nextAttribute_not isNot, nextAttribute_not isNot, blanks, keyword_append stop]
  by_cases isDefault : token.isKeyword .default = true
  · rw [nextAttribute_default isDefault, nextAttribute_default isDefault, blanks,
      defaultValue_append (ended isDefault) apart]
  · rw [nextAttribute_other (Bool.not_eq_true _ ▸ isNot) (Bool.not_eq_true _ ▸ isDefault),
      nextAttribute_other (Bool.not_eq_true _ ▸ isNot) (Bool.not_eq_true _ ▸ isDefault)]

/-- **If no attribute of the first tokens reaches into the rest, each part gives its own.** -/
theorem attributes_append
    (each : ∀ before token rest, tokens = before ++ token :: rest →
      nextAttribute token (rest ++ tail) =
        ((nextAttribute token rest).1, (nextAttribute token rest).2 ++ tail)) :
    attributes (tokens ++ tail) = attributes tokens ++ attributes tail := by
  induction tokens using attributes.induct with
  | case1 tokens none =>
    have blank : skipBlanks (tokens ++ tail) = skipBlanks tail := by
      rw [skipBlanks, List.dropWhile_append, ← skipBlanks, none]
      rfl
    rw [← attributes_skipBlanks, blank, attributes_skipBlanks, attributes_eq tokens, none,
      List.nil_append]
  | case2 tokens token rest first ih =>
    have visible : skipBlanks (tokens ++ tail) = token :: (rest ++ tail) := by
      rw [skipBlanks, List.dropWhile_append, ← skipBlanks, first]
      rfl
    obtain ⟨blanks, whole⟩ : skipBlanks tokens <:+ tokens := List.dropWhile_suffix _
    rw [first] at whole
    have carried := each blanks token rest whole.symm
    have later := ih fun before other after found => by
      obtain ⟨skipped, split⟩ := suffix_nextAttribute token rest
      refine each (blanks ++ token :: (skipped ++ before)) other after ?_
      rw [← whole, ← split, found]
      simp
    rw [attributes_eq (tokens ++ tail), attributes_eq tokens, visible, first]
    simp only [carried, later, List.append_assoc]

end Append

/-! ### A group and its place -/

/-- A `DEFAULT` among the tokens takes what follows them for its value, or as part of it. -/
def introducedByDefault (tail : List Token) : List Token → Bool
  | [] => false
  | token :: rest =>
    (token.isKeyword .default && valueGoesOn tail (skipBlanks rest)) || introducedByDefault tail rest

theorem valueGoesOn_of_not_introduced {tail before rest : List Token} {token : Token}
    (apart : introducedByDefault tail (before ++ token :: rest) = false)
    (isDefault : token.isKeyword .default = true) : valueGoesOn tail (skipBlanks rest) = false := by
  induction before with
  | nil =>
    rw [List.nil_append, introducedByDefault, Bool.or_eq_false_iff, isDefault, Bool.true_and] at apart
    exact apart.1
  | cons first before ih =>
    rw [List.cons_append, introducedByDefault, Bool.or_eq_false_iff] at apart
    exact ih apart.2

section Nested

variable {inside rest : List Token} (balanced : Balanced inside)

include balanced

/-- Whether a search for the closing parenthesis succeeds does not depend on what stands in a group. -/
theorem isSome_cutGroup_group (depth : Nat) (front : List Token) :
    (cutGroup depth (front ++ .leftParen :: (inside ++ .rightParen :: rest))).isSome =
      (cutGroup depth (front ++ .leftParen :: .rightParen :: rest)).isSome := by
  induction front generalizing depth with
  | nil =>
    simp only [List.nil_append, cutGroup_leftParen, cutGroup_balanced balanced, Option.isSome_map]
  | cons token front ih =>
    rw [List.cons_append, List.cons_append]
    by_cases left : token = .leftParen
    · simp only [left, cutGroup_leftParen, Option.isSome_map, ih]
    by_cases right : token = .rightParen
    · subst right
      match depth with
      | 0 | 1 => rfl
      | depth + 2 => simp only [(cutGroup_rightParen depth _).2, Option.isSome_map, ih]
    · simp only [cutGroup_plain left right, Option.isSome_map, ih]

theorem groupGoesOn_group (tokens : List Token) :
    groupGoesOn (.leftParen :: (inside ++ .rightParen :: rest)) tokens =
      groupGoesOn (.leftParen :: .rightParen :: rest) tokens := by
  cases tokens with
  | nil => rfl
  | cons token tokens =>
    cases token with
    | leftParen =>
      exact congrArg ((cutGroup 0 (.leftParen :: tokens)).isNone && ·)
        (isSome_cutGroup_group balanced 0 (.leftParen :: tokens))
    | _ => rfl

theorem introducedByDefault_group (tokens : List Token) :
    introducedByDefault (.leftParen :: (inside ++ .rightParen :: rest)) tokens =
      introducedByDefault (.leftParen :: .rightParen :: rest) tokens := by
  have value (tokens : List Token) : valueGoesOn (.leftParen :: (inside ++ .rightParen :: rest)) tokens =
      valueGoesOn (.leftParen :: .rightParen :: rest) tokens := by
    cases tokens with
    | nil => rfl
    | cons token tokens => rw [valueGoesOn, valueGoesOn, groupGoesOn_group balanced]
  induction tokens with
  | nil => rfl
  | cons token tokens ih => rw [introducedByDefault, introducedByDefault, value, ih]

/-- In a group the value of a default ends with the group, if not before. -/
theorem valueGoesOn_balanced {before more : List Token} (within : inside = before ++ more) :
    valueGoesOn rest (more ++ [.rightParen]) = false := by
  cases more with
  | nil => rfl
  | cons token after =>
    rw [List.cons_append, valueGoesOn, Bool.and_eq_false_iff]
    right
    cases after with
    | nil => rfl
    | cons next after =>
      by_cases opened : next = .leftParen
      · subst opened
        obtain ⟨nested, behind, balancedNested, rfl⟩ :=
          balanced.opens (within.trans (List.append_cons before token _))
        rw [List.cons_append, groupGoesOn, List.append_assoc, List.cons_append,
          cutGroup_group balancedNested]
        rfl
      · exact groupGoesOn_of_closed opened rest _

/-- Nothing that is read in a group reaches past its closing parenthesis. -/
theorem nextAttribute_append_rightParen {before more : List Token} {token : Token}
    (within : inside = before ++ token :: more) :
    nextAttribute token (more ++ [.rightParen] ++ rest) =
      ((nextAttribute token (more ++ [.rightParen])).1,
        (nextAttribute token (more ++ [.rightParen])).2 ++ rest) := by
  obtain ⟨blanks, split⟩ : skipBlanks more <:+ more := List.dropWhile_suffix _
  have closed : skipBlanks (more ++ [.rightParen]) = skipBlanks more ++ [.rightParen] :=
    skipBlanks_append_cons more rfl []
  refine nextAttribute_append ?_ (fun none => ?_) (fun _ => ?_) fun minus => ?_
  · rw [closed, List.append_assoc, List.append_assoc, List.singleton_append]
    exact skipBlanks_append_cons more rfl rest
  · simp [closed] at none
  · have ends : inside = before ++ token :: blanks ++ skipBlanks more := by simp [within, split]
    rw [closed]
    exact valueGoesOn_balanced balanced ends
  · have last := congrArg List.getLast? (closed.symm.trans minus)
    simp at last

theorem attributes_append_rightParen :
    attributes (inside ++ .rightParen :: rest) =
      attributes (inside ++ [.rightParen]) ++ attributes rest := by
  rw [← List.singleton_append, ← List.append_assoc]
  refine attributes_append fun before token after whole => ?_
  -- A token stands in front of the closing parenthesis, or is the closing parenthesis.
  rcases after.eq_nil_or_concat with rfl | ⟨more, last, rfl⟩
  · obtain ⟨-, close⟩ := List.append_inj' whole rfl
    obtain rfl := (List.cons.inj close).1
    rfl
  · rw [List.concat_eq_append] at whole ⊢
    obtain ⟨within, close⟩ :=
      List.append_inj' (whole.trans (List.append_assoc before (token :: more) [last]).symm) rfl
    obtain rfl := (List.cons.inj close).1
    exact nextAttribute_append_rightParen balanced within

end Nested

/-- A place for a group among the tokens behind a type. -/
structure GroupPlace where
  front : List Token
  rest : List Token
  /-- No `DEFAULT` takes the group for its value, nor as part of it; what stands in the group has no
  influence on that. -/
  apart : introducedByDefault (.leftParen :: .rightParen :: rest) front = false

namespace GroupPlace

variable (place : GroupPlace) {inside : List Token}

/-- The tokens behind the type, with a group in the place. -/
def fill (inside : List Token) : List Token :=
  place.front ++ .leftParen :: (inside ++ .rightParen :: place.rest)

/-- **A group gives its own attributes**, between those in front of it and those behind it. -/
theorem attributes_fill (balanced : Balanced inside) :
    attributes (place.fill inside) =
      attributes place.front ++ (attributes (inside ++ [.rightParen]) ++ attributes place.rest) := by
  have outside : attributes (place.fill inside) = attributes place.front ++
      attributes (.leftParen :: (inside ++ .rightParen :: place.rest)) := by
    refine attributes_append fun before token rest whole => ?_
    have apart := (introducedByDefault_group balanced place.front).trans place.apart
    refine nextAttribute_append (skipBlanks_append_cons rest rfl _) (fun _ next first => ?_)
      (valueGoesOn_of_not_introduced (whole ▸ apart)) fun _ _ _ => nofun
    obtain rfl := Option.some.inj first
    rfl
  rw [outside, attributes_other rfl rfl rfl, attributes_append_rightParen balanced]

theorem notNull_mem_attributes_fill (balanced : Balanced inside) :
    .notNull ∈ attributes (place.fill inside) ↔ .notNull ∈ attributes place.front ∨
      .notNull ∈ attributes (inside ++ [.rightParen]) ∨ .notNull ∈ attributes place.rest := by
  rw [place.attributes_fill balanced, List.mem_append, List.mem_append]

theorem defaults_fill (balanced : Balanced inside) :
    defaults (place.fill inside) =
      defaults place.front ++ (defaults (inside ++ [.rightParen]) ++ defaults place.rest) := by
  simp only [defaults, place.attributes_fill balanced, List.filterMap_append]

end GroupPlace

/-! ### Another group in the same place -/

/-- `DEFAULT` stands among the tokens. -/
def saysDefault (tokens : List Token) : Bool := tokens.any (Token.isKeyword .default)

theorem defaults_eq_nil_iff_saysDefault {tokens : List Token} :
    defaults tokens = [] ↔ saysDefault tokens = false := by
  simp only [defaults_eq_nil_iff, saysDefault, List.any_eq_false, Bool.not_eq_true]

section Inside

variable {inside : List Token}

theorem defaults_inside (free : saysDefault inside = false) :
    defaults (inside ++ [.rightParen]) = [] := by
  rw [defaults_eq_nil_iff_saysDefault, saysDefault, List.any_append, ← saysDefault, free]
  rfl

theorem saysNotNull_of_mem_inside (listed : .notNull ∈ attributes (inside ++ [.rightParen])) :
    saysNotNull inside = true := by
  have said := saysNotNull_of_mem listed
  rw [saysNotNull_append_cons rfl rfl, Bool.or_eq_true] at said
  exact said.resolve_right Bool.false_ne_true

theorem notNull_mem_attributes_inside (free : saysDefault inside = false)
    (said : saysNotNull inside = true) : .notNull ∈ attributes (inside ++ [.rightParen]) := by
  simp only [saysDefault, List.any_eq_false, Bool.not_eq_true] at free
  exact (notNull_mem_attributes_append rfl rfl free []).mpr (.inl said)

end Inside

namespace GroupPlace

variable (place : GroupPlace) {inside other : List Token} (balanced : Balanced inside)

include balanced

theorem saysNotNull_of_mem_fill (listed : .notNull ∈ attributes (place.fill inside)) :
    saysNotNull place.front = true ∨ saysNotNull inside = true ∨ saysNotNull place.rest = true := by
  rcases (place.notNull_mem_attributes_fill balanced).mp listed with front | within | rest
  · exact .inl (saysNotNull_of_mem front)
  · exact .inr (.inl (saysNotNull_of_mem_inside within))
  · exact .inr (.inr (saysNotNull_of_mem rest))

theorem notNull_mem_fill_of_inside (free : saysDefault inside = false)
    (said : saysNotNull inside = true) : .notNull ∈ attributes (place.fill inside) :=
  (place.notNull_mem_attributes_fill balanced).mpr (.inr (.inl (notNull_mem_attributes_inside free said)))

variable (balancedOther : Balanced other)

include balancedOther

/-- **Groups without `DEFAULT` give the same default**, and so do any groups in front of one. -/
theorem getLast?_defaults_fill
    (same : (saysDefault inside = false ∧ saysDefault other = false) ∨ saysDefault place.rest = true) :
    (defaults (place.fill inside)).getLast? = (defaults (place.fill other)).getLast? := by
  rw [place.defaults_fill balanced, place.defaults_fill balancedOther]
  rcases same with ⟨free, freeOther⟩ | later
  · rw [defaults_inside free, defaults_inside freeOther]
  · have given : defaults place.rest ≠ [] := by
      rw [ne_eq, defaults_eq_nil_iff_saysDefault, later]
      exact Bool.noConfusion
    simp only [List.getLast?_append, List.getLast?_eq_some_getLast given, Option.some_or]

/-- **Groups that both say `NOT NULL` or both do not give the same nullability**, and so do any groups
with `NOT NULL` outside of them. -/
theorem notNull_mem_fill_congr
    (same : (.notNull ∈ attributes place.front ∨ .notNull ∈ attributes place.rest) ∨
      (saysNotNull inside = false ∧ saysNotNull other = false) ∨
      (saysNotNull inside = true ∧ saysNotNull other = true ∧
        saysDefault inside = false ∧ saysDefault other = false)) :
    .notNull ∈ attributes (place.fill inside) ↔ .notNull ∈ attributes (place.fill other) := by
  have absent {tokens : List Token} (none : saysNotNull tokens = false) :
      .notNull ∉ attributes (tokens ++ [.rightParen]) := fun listed =>
    Bool.false_ne_true (none.symm.trans (saysNotNull_of_mem_inside listed))
  rw [place.notNull_mem_attributes_fill balanced, place.notNull_mem_attributes_fill balancedOther]
  obtain (front | rest) | ⟨none, noneOther⟩ | ⟨said, saidOther, free, freeOther⟩ := same
  · exact iff_of_true (.inl front) (.inl front)
  · exact iff_of_true (.inr (.inr rest)) (.inr (.inr rest))
  · rw [iff_false_intro (absent none), iff_false_intro (absent noneOther)]
  · rw [iff_true_intro (notNull_mem_attributes_inside free said),
      iff_true_intro (notNull_mem_attributes_inside freeOther saidOther)]

end GroupPlace

/-- **What another group in the same place changes, and what it does not.** The default is another one
only by a `DEFAULT` in one of the groups, and the nullability only by a `NOT NULL` in one of them. -/
theorem replaceGroup_keeps {clause changed native : String} (place : GroupPlace)
    {inside other : List Token} (balanced : Balanced inside) (balancedOther : Balanced other)
    (parts : clauseParts? clause = some (native, place.fill inside))
    (partsChanged : clauseParts? changed = some (native, place.fill other)) :
    ∃ before after, Declaration.ofClause? clause = some before ∧
      Declaration.ofClause? changed = some after ∧
      ((saysDefault inside = false ∧ saysDefault other = false) ∨ saysDefault place.rest = true →
        before.defaultValue = after.defaultValue) ∧
      ((.notNull ∈ attributes place.front ∨ .notNull ∈ attributes place.rest) ∨
        (saysNotNull inside = false ∧ saysNotNull other = false) ∨
        (saysNotNull inside = true ∧ saysNotNull other = true ∧
          saysDefault inside = false ∧ saysDefault other = false) →
        before.nullable = after.nullable) ∧
      (before.nullable = false → saysNotNull place.front = true ∨ saysNotNull inside = true ∨
        saysNotNull place.rest = true) ∧
      (saysDefault inside = false → saysNotNull inside = true → before.nullable = false) := by
  refine ⟨_, _, ofClause?_of_parts parts, ofClause?_of_parts partsChanged, ?_, ?_, ?_, ?_⟩
  · intro same
    exact congrArg Option.join (place.getLast?_defaults_fill balanced balancedOther same)
  · intro same
    refine congrArg not (Bool.eq_iff_iff.mpr ?_)
    rw [List.contains_iff_mem, List.contains_iff_mem]
    exact place.notNull_mem_fill_congr balanced balancedOther same
  · intro notNullable
    rw [Bool.not_eq_false', List.contains_iff_mem] at notNullable
    exact place.saysNotNull_of_mem_fill balanced notNullable
  · intro free said
    rw [Bool.not_eq_false', List.contains_iff_mem]
    exact place.notNull_mem_fill_of_inside balanced free said

/-- The place of the group in ` int AS (…)`. -/
def generated : GroupPlace where
  front := [.blank " ", .word "AS", .blank " "]
  rest := []
  apart := by decide

theorem clauseParts?_generated :
    clauseParts? " int AS (a)" = some ("int", generated.fill [.word "a"]) := by
  decide +kernel

theorem replaceGroup_keeps_generated :
    ∃ before after, Declaration.ofClause? " int AS (a)" = some before ∧
      Declaration.ofClause? " int AS (abs(a))" = some after ∧
      before.defaultValue = after.defaultValue ∧ before.nullable = after.nullable := by
  have nested : Balanced (.word "abs" :: .leftParen :: ([.word "a"] ++ .rightParen :: [])) :=
    .plain (by decide) (by decide) (.group (.of_flat (by decide)) .nil)
  obtain ⟨before, after, read, readChanged, default, nullable, -⟩ :=
    replaceGroup_keeps generated (.of_flat (by decide)) nested clauseParts?_generated
      (by decide +kernel : clauseParts? " int AS (abs(a))" = _)
  exact ⟨before, after, read, readChanged, default (.inl (by decide)),
    nullable (.inr (.inl (by decide)))⟩

/-- What stands in a group can change both. -/
theorem replaceGroup_not_keeps :
    Declaration.ofClause? " int AS (a)" = some ⟨"int", true, none⟩ ∧
    Declaration.ofClause? " int AS (a IS NOT NULL)" = some ⟨"int", false, none⟩ ∧
    Declaration.ofClause? " int AS (DEFAULT(a))" = some ⟨"int", true, some "("⟩ ∧
    ¬ ∀ (clause changed native : String) (place : GroupPlace) (inside other : List Token),
      Balanced inside → Balanced other → clauseParts? clause = some (native, place.fill inside) →
      clauseParts? changed = some (native, place.fill other) →
      ∃ before after, Declaration.ofClause? clause = some before ∧
        Declaration.ofClause? changed = some after ∧
        before.defaultValue = after.defaultValue ∧ before.nullable = after.nullable := by
  have plain : Declaration.ofClause? " int AS (a)" = some ⟨"int", true, none⟩ := by decide +kernel
  have notNull : Declaration.ofClause? " int AS (a IS NOT NULL)" = some ⟨"int", false, none⟩ := by
    decide +kernel
  refine ⟨plain, notNull, by decide +kernel, fun keeps => ?_⟩
  obtain ⟨before, after, read, readChanged, -, same⟩ :=
    keeps _ " int AS (a IS NOT NULL)" "int" generated [.word "a"] [.word "a", .blank " ", .word "IS",
      .blank " ", .word "NOT", .blank " ", .word "NULL"] (.of_flat (by decide)) (.of_flat (by decide))
      clauseParts?_generated (by decide +kernel)
  obtain rfl := Option.some.inj (plain.symm.trans read)
  obtain rfl := Option.some.inj (notNull.symm.trans readChanged)
  exact absurd same (by decide)

end SchemaDump
