/-
**Groups in parentheses.**

A group is read from its first parenthesis to the one that closes it, whatever is nested in between.

* `Balanced`: tokens in which every parenthesis has its partner, by the shape of the nesting;
* `cutGroup_balanced`: the search for the closing parenthesis passes over such tokens at any depth, so
  **`group_balanced`**: a group is read whole, as it is printed;
* `Balanced.opens`: in balanced tokens every left parenthesis opens a group of its own;
* **`group_groupTokens`**: a list between parentheses is read as its items are printed.
-/

import SchemaDump.Proofs.Sql.Spelling

namespace SchemaDump.Sql

open SchemaDump.Text

/-- Every parenthesis in the tokens has its partner in them. -/
inductive Balanced : List Token → Prop
  | nil : Balanced []
  | plain {token : Token} {rest : List Token} :
      token ≠ .leftParen → token ≠ .rightParen → Balanced rest → Balanced (token :: rest)
  | group {inside rest : List Token} :
      Balanced inside → Balanced rest → Balanced (.leftParen :: (inside ++ .rightParen :: rest))

theorem Balanced.of_flat {tokens : List Token}
    (flat : ∀ token ∈ tokens, token ≠ .leftParen ∧ token ≠ .rightParen) : Balanced tokens := by
  induction tokens with
  | nil => exact .nil
  | cons token rest ih =>
    rw [List.forall_mem_cons] at flat
    exact .plain flat.1.1 flat.1.2 (ih flat.2)

/-! ### The search for the closing parenthesis -/

theorem cutGroup_leftParen (depth : Nat) (rest : List Token) :
    cutGroup depth (.leftParen :: rest) =
      (cutGroup (depth + 1) rest).map fun cut => (.leftParen :: cut.1, cut.2) := rfl

/-- A right parenthesis ends the search if one group was open, and one group if there were more. -/
theorem cutGroup_rightParen (depth : Nat) (rest : List Token) :
    cutGroup 1 (.rightParen :: rest) = some ([.rightParen], rest) ∧
    cutGroup (depth + 2) (.rightParen :: rest) =
      (cutGroup (depth + 1) rest).map fun cut => (.rightParen :: cut.1, cut.2) :=
  ⟨rfl, rfl⟩

theorem cutGroup_plain {token : Token} (notLeft : token ≠ .leftParen) (notRight : token ≠ .rightParen)
    (depth : Nat) (rest : List Token) :
    cutGroup depth (token :: rest) =
      (cutGroup depth rest).map fun cut => (token :: cut.1, cut.2) := by
  cases token with
  | leftParen => exact absurd rfl notLeft
  | rightParen => exact absurd rfl notRight
  | _ => rfl

/-- **The search passes over balanced tokens**, and stands at the depth at which it came. -/
theorem cutGroup_balanced {tokens : List Token} (balanced : Balanced tokens) (depth : Nat)
    (rest : List Token) :
    cutGroup (depth + 1) (tokens ++ rest) =
      (cutGroup (depth + 1) rest).map fun cut => (tokens ++ cut.1, cut.2) := by
  induction balanced generalizing depth rest with
  | nil => simp
  | plain notLeft notRight _ ih =>
    rw [List.cons_append, cutGroup_plain notLeft notRight, ih, Option.map_map]
    rfl
  | group _ _ ihInside ihRest =>
    -- One deeper inside the group, and back at its right parenthesis.
    rw [List.cons_append, List.append_assoc, List.cons_append, cutGroup_leftParen, ihInside,
      (cutGroup_rightParen depth _).2, ihRest, Option.map_map, Option.map_map, Option.map_map]
    congr 1
    funext cut
    simp

/-- **A cut takes tokens from the front, and does not depend on what is behind them.** -/
theorem cutGroup_takes_front {depth : Nat} {tokens inside after : List Token}
    (cut : cutGroup depth tokens = some (inside, after)) :
    tokens = inside ++ after ∧
      ∀ tail, cutGroup depth (tokens ++ tail) = some (inside, after ++ tail) := by
  induction tokens generalizing depth inside with
  | nil => exact nomatch cut
  | cons token rest ih =>
    have more {deeper : Nat}
        (found : (cutGroup deeper rest).map (fun cut => (token :: cut.1, cut.2)) = some (inside, after)) :
        token :: rest = inside ++ after ∧ ∀ tail,
          (cutGroup deeper (rest ++ tail)).map (fun cut => (token :: cut.1, cut.2)) =
            some (inside, after ++ tail) := by
      obtain ⟨cut, below, same⟩ := Option.map_eq_some_iff.mp found
      obtain ⟨rfl, rfl⟩ := Prod.mk.inj same
      obtain ⟨whole, carries⟩ := ih below
      refine ⟨by rw [List.cons_append, ← whole], fun tail => ?_⟩
      rw [carries, Option.map_some]
    by_cases left : token = .leftParen
    · subst left
      exact more cut
    by_cases right : token = .rightParen
    · subst right
      match depth with
      | 0 | 1 =>
        obtain ⟨rfl, rfl⟩ := Prod.mk.inj (Option.some.inj cut)
        exact ⟨rfl, fun tail => rfl⟩
      | depth + 2 => exact more cut
    · rw [cutGroup_plain left right] at cut
      obtain ⟨whole, carries⟩ := more cut
      refine ⟨whole, fun tail => ?_⟩
      rw [List.cons_append, cutGroup_plain left right, carries]

theorem cutGroup_group {inside : List Token} (balanced : Balanced inside) (rest : List Token) :
    cutGroup 0 (.leftParen :: (inside ++ .rightParen :: rest)) =
      some (.leftParen :: (inside ++ [.rightParen]), rest) := by
  rw [cutGroup_leftParen, cutGroup_balanced balanced, (cutGroup_rightParen 0 rest).1]
  rfl

/-- **A group is read whole.** -/
theorem group_balanced {inside : List Token} (balanced : Balanced inside) (rest : List Token) :
    group (.leftParen :: (inside ++ .rightParen :: rest)) =
      (some (printed (.leftParen :: (inside ++ [.rightParen]))), rest) := by
  rw [group, cutGroup_group balanced]

theorem group_of_closed {tokens : List Token} (closed : tokens.head? ≠ some .leftParen) :
    group tokens = (none, tokens) := by
  unfold group
  split
  · exact absurd rfl closed
  · rfl

/-- **In balanced tokens every left parenthesis opens a group of its own.** -/
theorem Balanced.opens {tokens before more : List Token} (balanced : Balanced tokens)
    (at' : tokens = before ++ .leftParen :: more) :
    ∃ inside after, Balanced inside ∧ more = inside ++ .rightParen :: after := by
  induction balanced generalizing before more with
  | nil => simp at at'
  | plain notLeft _ _ ih =>
    cases before with
    | nil => exact absurd (List.cons.inj at').1 notLeft
    | cons first before => exact ih (List.cons.inj at').2
  | @group inside rest balancedInside _ ihInside ihRest =>
    cases before with
    | nil => exact ⟨inside, rest, balancedInside, (List.cons.inj at').2.symm⟩
    | cons first before =>
      -- The parenthesis stands in the group, or behind the group.
      obtain ⟨skipped, rfl, behind⟩ | ⟨skipped, rfl, within⟩ :=
        List.append_eq_append_iff.mp (List.cons.inj at').2
      · cases skipped with
        | nil => exact nomatch (List.cons.inj behind).1
        | cons close skipped => exact ihRest (List.cons.inj behind).2
      · cases skipped with
        | nil => exact nomatch (List.cons.inj within).1
        | cons open' skipped =>
          obtain ⟨rfl, rfl⟩ := List.cons.inj within
          obtain ⟨deeper, after, balancedDeeper, rfl⟩ := ihInside rfl
          exact ⟨deeper, after ++ .rightParen :: rest, balancedDeeper, by simp⟩

/-! ### Printing -/

theorem toList_printed (tokens : List Token) :
    (printed tokens).toList = tokens.flatMap fun token => token.text.toList := by
  rw [printed, String.toList_join, List.flatMap_map]

/-! ### Lists between parentheses -/

/-- Texts between parentheses, with commas between them. -/
def groupText (texts : List (List Char)) : List Char := '(' :: (commaList texts ++ [')'])

def groupTokens (tokens : List Token) : List Token :=
  .leftParen :: (commaTokens tokens ++ [.rightParen])

theorem reads_groupText {α : Type} {text : α → List Char} {token : α → Token} (items : List α)
    (each : ∀ item ∈ items, ∀ {more}, BehindItem more → Reads (text item ++ more) [token item] more)
    (after : List Char) :
    Reads (groupText (items.map text) ++ after) (groupTokens (items.map token)) after := by
  have close : Reads (')' :: after) [.rightParen] after := .single (scanToken_loneMark (by decide) _)
  have ends : BehindItem (')' :: after) := ⟨')', after, rfl, by decide⟩
  have inside := (reads_commaList items each ends).trans close
  rw [groupText, List.cons_append, List.append_assoc]
  exact .next (scanToken_loneMark (by decide) _) inside

theorem printed_groupTokens (tokens : List Token) :
    printed (groupTokens tokens) =
      String.ofList (groupText (tokens.map fun token => token.text.toList)) := by
  rw [← String.ofList_toList (s := printed _), toList_printed, groupTokens, List.flatMap_cons,
    List.flatMap_append, flatMap_commaTokens]
  rfl

/-- **A list between parentheses is read as its items are printed.** -/
theorem group_groupTokens {α : Type} {token : α → Token} {shown : α → List Char} (items : List α)
    (flat : ∀ item, token item ≠ .leftParen ∧ token item ≠ .rightParen)
    (prints : ∀ item, (token item).text.toList = shown item) (rest : List Token) :
    group (groupTokens (items.map token) ++ rest) =
      (some (String.ofList (groupText (items.map shown))), rest) := by
  have inside : Balanced (commaTokens (items.map token)) := by
    refine .of_flat fun other listed => ?_
    rcases mem_commaTokens listed with rfl | found
    · exact ⟨Token.noConfusion, Token.noConfusion⟩
    · obtain ⟨item, -, rfl⟩ := List.mem_map.mp found
      exact flat item
  have opened : groupTokens (items.map token) ++ rest =
      .leftParen :: (commaTokens (items.map token) ++ .rightParen :: rest) := by
    rw [groupTokens, List.cons_append, List.append_assoc, List.singleton_append]
  have texts : (items.map token).map (fun token => token.text.toList) = items.map shown := by
    rw [List.map_map]
    exact List.map_congr_left fun item _ => prints item
  rw [opened, group_balanced inside, ← texts, ← printed_groupTokens]
  rfl

end SchemaDump.Sql
