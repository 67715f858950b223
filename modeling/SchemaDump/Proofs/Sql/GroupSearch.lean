/-
**The search for the parenthesis that closes a group.**

The search counts the groups that are open. It starts at a left parenthesis with none and stops where the
count comes back to nothing, so what it takes are the shortest tokens, at least one, that hold as many
right as left parentheses.

* `cutGroup_cons`: what one token does to the count, and to the search;
* **`cutGroup_eq_some_iff`**: the tokens up to the closing parenthesis close all open groups, and no
  shorter ones do (`Closes`); `isSome_cutGroup_iff`: there are some if any tokens close them;
* `groupRound`: the search as a loop over a count and a place, `searching_of_reaches`: its invariant;
* **`read_group_findsPartner`**: what reading a group does at a left parenthesis, whatever follows it.
-/

import SchemaDump.Proofs.Sql.Cursor

namespace SchemaDump.Sql

open StateTransition

/-! ### Counting -/

/-- The number of left parentheses among the tokens. -/
def lefts (tokens : List Token) : Nat := tokens.count .leftParen

/-- The number of right parentheses among the tokens. -/
def rights (tokens : List Token) : Nat := tokens.count .rightParen

theorem lefts_append (front rest : List Token) : lefts (front ++ rest) = lefts front + lefts rest :=
  List.count_append

theorem rights_append (front rest : List Token) :
    rights (front ++ rest) = rights front + rights rest :=
  List.count_append

theorem lefts_cons (token : Token) (rest : List Token) :
    lefts (token :: rest) = lefts [token] + lefts rest := lefts_append [token] rest

theorem rights_cons (token : Token) (rest : List Token) :
    rights (token :: rest) = rights [token] + rights rest := rights_append [token] rest

/-- The number of open groups behind a token, if so many are open in front of it. -/
def Token.depthBehind (depth : Nat) : Token → Nat
  | leftParen => depth + 1
  | rightParen => depth - 1
  | _ => depth

theorem Token.depthBehind_plain {token : Token} (notLeft : token ≠ .leftParen)
    (notRight : token ≠ .rightParen) (depth : Nat) : token.depthBehind depth = depth := by
  cases token with
  | leftParen => exact absurd rfl notLeft
  | rightParen => exact absurd rfl notRight
  | _ => rfl

/-- Where a group is open, or none is closed, the number follows the parentheses. -/
theorem Token.depthBehind_add {depth : Nat} {token : Token} (isOpen : 0 < depth ∨ token = .leftParen) :
    token.depthBehind depth + rights [token] = depth + lefts [token] := by
  cases token with
  | leftParen => rfl
  | rightParen =>
    have positive : 0 < depth := isOpen.resolve_right Token.noConfusion
    exact Nat.sub_add_cancel positive
  | _ => rfl

theorem Token.eq_rightParen_of_depthBehind {depth : Nat} {token : Token}
    (isOpen : 0 < depth ∨ token = .leftParen) (closed : token.depthBehind depth = 0) :
    token = .rightParen := by
  cases token with
  | leftParen => exact absurd closed (Nat.succ_ne_zero depth)
  | rightParen => rfl
  | _ => exact absurd closed (isOpen.resolve_right Token.noConfusion).ne'

/-! ### What closes the groups -/

/-- The tokens, at least one, close the groups that are open in front of them with their last token, and
not before it. -/
structure Closes (depth : Nat) (tokens : List Token) : Prop where
  nonempty : tokens ≠ []
  even : rights tokens = depth + lefts tokens
  deeper : ∀ front, front ≠ [] → front <+: tokens → front ≠ tokens →
    rights front < depth + lefts front

section Closes

variable {depth deeper : Nat} {token : Token} {inside tokens front : List Token}

theorem ne_nil_of_even (isOpen : 0 < depth) (even : rights front = depth + lefts front) :
    front ≠ [] := by
  rintro rfl
  exact isOpen.ne even

/-- If a token closes the last open group nothing may follow it. -/
theorem closes_cons_of_closed (moves : rights [token] = depth + lefts [token]) :
    Closes depth (token :: inside) ↔ inside = [] := by
  constructor
  · intro closes
    by_contra more
    have before := closes.deeper [token] (List.cons_ne_nil _ _) (List.prefix_append [token] inside)
      fun same => more (List.cons.inj same).2.symm
    omega
  · rintro rfl
    refine ⟨List.cons_ne_nil _ _, moves, fun front some short proper => ?_⟩
    obtain rfl | ⟨tail, rfl, nothing⟩ := List.prefix_cons_iff.mp short
    · exact absurd rfl some
    · exact absurd (by rw [List.prefix_nil.mp nothing]) proper

/-- If groups are open behind a token the tokens behind it close them. -/
theorem closes_cons_of_open (isOpen : 0 < deeper)
    (moves : deeper + rights [token] = depth + lefts [token]) :
    Closes depth (token :: inside) ↔ Closes deeper inside := by
  constructor
  · intro closes
    have even := closes.even
    rw [lefts_cons, rights_cons] at even
    have evenBehind : rights inside = deeper + lefts inside := by omega
    refine ⟨ne_nil_of_even isOpen evenBehind, evenBehind, fun front some short proper => ?_⟩
    have before := closes.deeper (token :: front) (List.cons_ne_nil _ _)
      (List.cons_prefix_cons.mpr ⟨rfl, short⟩) fun same => proper (List.cons.inj same).2
    rw [lefts_cons, rights_cons] at before
    omega
  · intro closes
    have even := closes.even
    refine ⟨List.cons_ne_nil _ _, by rw [lefts_cons, rights_cons]; omega, ?_⟩
    intro front some short proper
    obtain rfl | ⟨tail, rfl, within⟩ := List.prefix_cons_iff.mp short
    · exact absurd rfl some
    · by_cases empty : tail = []
      · subst empty
        show rights [token] < depth + lefts [token]
        omega
      · have before := closes.deeper tail empty within fun same => proper (by rw [same])
        rw [lefts_cons, rights_cons]
        omega

/-- The last of the tokens is a right parenthesis. -/
theorem Closes.getLast? (closes : Closes depth tokens)
    (isOpen : 0 < depth ∨ tokens.head? = some .leftParen) : tokens.getLast? = some .rightParen := by
  obtain rfl | ⟨front, token, rfl⟩ := List.eq_nil_or_concat' tokens
  · exact absurd rfl closes.nonempty
  have even := closes.even
  rw [lefts_append, rights_append] at even
  rw [List.getLast?_concat, Option.some_inj]
  -- In front of the last token some group is open: one of those counted, or the one that it would open.
  by_cases alone : front = []
  · subst alone
    have here : 0 < depth ∨ token = .leftParen := isOpen.imp_right Option.some.inj
    have moves := Token.depthBehind_add here
    have shut : rights [token] = depth + lefts [token] := closes.even
    exact Token.eq_rightParen_of_depthBehind here (by omega)
  · have before := closes.deeper front alone (List.prefix_append _ _) (by simp)
    have closing : 0 < rights [token] := by omega
    exact (List.mem_singleton.mp (List.count_pos_iff.mp closing)).symm

/-- **No shorter tokens close the groups.** -/
theorem Closes.prefix_of_even (closes : Closes depth inside) (within : inside <+: tokens)
    (nonempty : front ≠ []) (short : front <+: tokens) (even : rights front = depth + lefts front) :
    inside <+: front := by
  rcases List.prefix_or_prefix_of_prefix within short with longer | shorter
  · exact longer
  · by_cases same : front = inside
    · exact same ▸ List.prefix_rfl
    · exact absurd (closes.deeper front nonempty shorter same) (by omega)

end Closes

/-! ### The search over the tokens -/

section Search

variable {depth : Nat} {tokens inside after : List Token}

/-- **The search stops behind the token that closes the last open group.** -/
theorem cutGroup_cons {token : Token} (isOpen : 0 < depth ∨ token = .leftParen) (rest : List Token) :
    cutGroup depth (token :: rest) =
      if token.depthBehind depth = 0 then some ([token], rest)
      else (cutGroup (token.depthBehind depth) rest).map fun cut => (token :: cut.1, cut.2) := by
  by_cases left : token = .leftParen
  · subst left
    exact cutGroup_leftParen depth rest
  have positive : 0 < depth := isOpen.resolve_right left
  by_cases right : token = .rightParen
  · subst right
    match depth with
    | 0 => exact absurd positive (Nat.lt_irrefl 0)
    | 1 => rfl
    | depth + 2 => exact (cutGroup_rightParen depth rest).2
  · rw [cutGroup_plain left right, Token.depthBehind_plain left right, if_neg positive.ne']

/-- **The search takes the tokens that close the open groups.** -/
theorem cutGroup_eq_some_iff (isOpen : 0 < depth ∨ tokens.head? = some .leftParen) :
    cutGroup depth tokens = some (inside, after) ↔ tokens = inside ++ after ∧ Closes depth inside := by
  induction tokens generalizing depth inside with
  | nil =>
    refine iff_of_false (Option.some_ne_none _).symm ?_
    rintro ⟨split, closes⟩
    exact closes.nonempty (List.append_eq_nil_iff.mp split.symm).1
  | cons token rest ih =>
    have here : 0 < depth ∨ token = .leftParen := isOpen.imp_right Option.some.inj
    have moves := Token.depthBehind_add here
    rw [cutGroup_cons here]
    split
    · next closed =>
      rw [closed, Nat.zero_add] at moves
      constructor
      · intro cut
        obtain ⟨rfl, rfl⟩ := Prod.mk.inj (Option.some.inj cut)
        exact ⟨rfl, (closes_cons_of_closed moves).mpr rfl⟩
      · rintro ⟨split, closes⟩
        obtain ⟨first, more, rfl⟩ := List.exists_cons_of_ne_nil closes.nonempty
        obtain ⟨rfl, rfl⟩ := List.cons.inj split
        obtain rfl := (closes_cons_of_closed moves).mp closes
        rfl
    · next goesOn =>
      have positive := Nat.pos_of_ne_zero goesOn
      rw [Option.map_eq_some_iff]
      constructor
      · rintro ⟨⟨more, _⟩, cut, same⟩
        obtain ⟨rfl, rfl⟩ := Prod.mk.inj same
        obtain ⟨rfl, closes⟩ := (ih (.inl positive)).mp cut
        exact ⟨rfl, (closes_cons_of_open positive moves).mpr closes⟩
      · rintro ⟨split, closes⟩
        obtain ⟨first, more, rfl⟩ := List.exists_cons_of_ne_nil closes.nonempty
        obtain ⟨rfl, rfl⟩ := List.cons.inj split
        exact ⟨(more, after), (ih (.inl positive)).mpr
          ⟨rfl, (closes_cons_of_open positive moves).mp closes⟩, rfl⟩

/-- **The search finds an end if some tokens close the open groups at all.** -/
theorem isSome_cutGroup_iff (isOpen : 0 < depth ∨ tokens.head? = some .leftParen) :
    (cutGroup depth tokens).isSome = true ↔
      ∃ front, front ≠ [] ∧ front <+: tokens ∧ rights front = depth + lefts front := by
  constructor
  · intro found
    obtain ⟨⟨inside, after⟩, cut⟩ := Option.isSome_iff_exists.mp found
    obtain ⟨rfl, closes⟩ := (cutGroup_eq_some_iff isOpen).mp cut
    exact ⟨inside, closes.nonempty, List.prefix_append _ _, closes.even⟩
  · rintro ⟨front, nonempty, short, even⟩
    -- What is left of the front behind a token closes the groups that are open behind it.
    induction tokens generalizing depth front with
    | nil => exact absurd (List.prefix_nil.mp short) nonempty
    | cons token rest ih =>
      have here : 0 < depth ∨ token = .leftParen := isOpen.imp_right Option.some.inj
      have moves := Token.depthBehind_add here
      rw [cutGroup_cons here]
      split
      · rfl
      · next goesOn =>
        obtain rfl | ⟨tail, rfl, within⟩ := List.prefix_cons_iff.mp short
        · exact absurd rfl nonempty
        have positive := Nat.pos_of_ne_zero goesOn
        have evenBehind : rights tail = token.depthBehind depth + lefts tail := by
          rw [lefts_cons, rights_cons] at even
          omega
        rw [Option.isSome_map]
        exact ih (.inl positive) tail (ne_nil_of_even positive evenBehind) within evenBehind

theorem group_eq_cutGroup (opens : tokens.head? = some .leftParen) :
    group tokens =
      match cutGroup 0 tokens with
      | some (inside, after) => (some (printed inside), after)
      | none => (none, tokens) := by
  obtain ⟨rest, rfl⟩ := List.head?_eq_some_iff.mp opens
  rfl

end Search

/-! ### The search from place to place -/

/-- One round of the search, at a place and with a number of open groups: what both are behind the token
there, or none if the tokens are at their end or the token closes the last group. -/
def groupRound : Nat × Cursor → Option (Nat × Cursor)
  | (depth, here) =>
    match here.current? with
    | none => none
    | some .leftParen => some (depth + 1, here.advance)
    | some .rightParen => if depth - 1 = 0 then none else some (depth - 1, here.advance)
    | some _ => some (depth, here.advance)

theorem groupRound_eq_some {depth deeper : Nat} {here next : Cursor}
    (goes : groupRound (depth, here) = some (deeper, next)) :
    ∃ token, here.current? = some token ∧ deeper = token.depthBehind depth ∧ next = here.advance ∧
      (token = .rightParen → deeper ≠ 0) := by
  rw [groupRound] at goes
  split at goes
  · cases goes
  · next found =>
    obtain ⟨rfl, rfl⟩ := Prod.mk.inj (Option.some.inj goes)
    exact ⟨_, found, rfl, rfl, fun _ => Nat.succ_ne_zero depth⟩
  · next found =>
    split at goes
    · cases goes
    · next more =>
      obtain ⟨rfl, rfl⟩ := Prod.mk.inj (Option.some.inj goes)
      exact ⟨_, found, rfl, rfl, fun _ => more⟩
  · next token notLeft notRight found =>
    obtain ⟨rfl, rfl⟩ := Prod.mk.inj (Option.some.inj goes)
    exact ⟨token, found, (Token.depthBehind_plain notLeft notRight depth).symm, rfl,
      fun same => absurd same notRight⟩

theorem groupRound_eq_none {depth : Nat} {here : Cursor} (stops : groupRound (depth, here) = none) :
    here.current? = none ∨ here.current? = some .rightParen ∧ depth ≤ 1 := by
  rw [groupRound] at stops
  split at stops
  · next found => exact .inl found
  · cases stops
  · next found =>
    split at stops
    · next last => exact .inr ⟨found, by omega⟩
    · cases stops
  · cases stops

namespace Cursor

/-- What holds at a place that the search from a left parenthesis comes to, with the number of groups that
are open there. -/
structure Searching (start : Cursor) (depth : Nat) (here : Cursor) : Prop where
  same : here.tokens = start.tokens
  ahead : start.pos ≤ here.pos
  /-- The count is the number of left parentheses passed so far less the number of right ones. -/
  counted : depth + rights (start.upTo here) = lefts (start.upTo here)
  isOpen : 0 < depth ∨ here = start
  /-- The search from the start is the search from here, with the same count. -/
  search : cutGroup 0 start.rest =
    (cutGroup depth here.rest).map fun cut => (start.upTo here ++ cut.1, cut.2)

theorem searching_start (start : Cursor) : start.Searching 0 start := by
  have nothing : start.upTo start = [] := by
    rw [upTo, List.extract_eq_take_drop, Nat.sub_self, List.take_zero]
  refine ⟨rfl, Nat.le_refl _, ?_, .inr rfl, ?_⟩
  · rw [nothing]
    rfl
  · rw [nothing]
    simp

section Opened

variable {start here : Cursor} {depth : Nat} (opens : start.current? = some .leftParen)

include opens

theorem Searching.opened {token : Token} (searching : start.Searching depth here)
    (found : here.current? = some token) : 0 < depth ∨ token = .leftParen := by
  refine searching.isOpen.imp_right ?_
  rintro rfl
  exact Option.some.inj (found.symm.trans opens)

/-- **Each round of the search keeps what holds.** -/
theorem Searching.round {deeper : Nat} {next : Cursor} (searching : start.Searching depth here)
    (goes : groupRound (depth, here) = some (deeper, next)) : start.Searching deeper next := by
  obtain ⟨token, found, rfl, rfl, more⟩ := groupRound_eq_some goes
  have isOpen := searching.opened opens found
  -- Only a right parenthesis can close the last group, and the search would have stopped at it.
  have goesOn : token.depthBehind depth ≠ 0 := fun closed =>
    more (Token.eq_rightParen_of_depthBehind isOpen closed) closed
  have moves := Token.depthBehind_add isOpen
  have passed := upTo_advance searching.same searching.ahead found
  have counted := searching.counted
  refine ⟨(tokens_advance here).trans searching.same, searching.ahead.trans (pos_le_advance here), ?_,
    .inl (Nat.pos_of_ne_zero goesOn), ?_⟩
  · rw [passed, lefts_append, rights_append]
    omega
  · rw [searching.search, rest_of_current? found, cutGroup_cons isOpen, if_neg goesOn, passed,
      Option.map_map]
    congr 1
    funext cut
    simp

theorem searching_of_reaches (reached : Reaches groupRound (0, start) (depth, here)) :
    start.Searching depth here :=
  kept_of_reaches (fun state => start.Searching state.1 state.2)
    (fun goes searching => searching.round opens goes) reached (searching_start start)

/-- **What is read is what the search stops at**: nothing at the end of the tokens, and else all tokens up
to the right parenthesis there. -/
theorem Searching.read_group (searching : start.Searching depth here)
    (stops : groupRound (depth, here) = none) :
    start.read group = if here.atEnd then (none, start)
      else (some (printed (start.upTo here.advance)), here.advance) := by
  have head : start.rest.head? = some .leftParen := (current?_eq_head? start).symm.trans opens
  have answer := group_eq_cutGroup head
  have passed := searching.search
  rcases groupRound_eq_none stops with ended | ⟨closing, atMostOne⟩
  · have nothing : here.rest = [] := by
      rwa [current?_eq_head?, List.head?_eq_none_iff] at ended
    rw [atEnd_iff.mpr nothing, if_pos rfl, read_eq_iff (backtracks_group.suffix _)]
    refine ⟨rfl, ?_⟩
    rw [nothing] at passed
    have unclosed : cutGroup 0 start.rest = none := passed
    rw [answer, unclosed]
  · have one : depth = 1 := by
      have positive := (searching.opened opens closing).resolve_right Token.noConfusion
      omega
    subst one
    have more := rest_of_current? closing
    have inside : ¬ here.atEnd = true := by
      rw [atEnd_iff, more]
      exact List.cons_ne_nil _ _
    rw [if_neg inside, read_eq_iff (backtracks_group.suffix _)]
    refine ⟨(tokens_advance here).trans searching.same, ?_⟩
    rw [more, (cutGroup_rightParen 0 _).1, Option.map_some,
      ← upTo_advance searching.same searching.ahead closing] at passed
    rw [answer, passed]

theorem exists_search :
    ∃ depth last, (depth, last) ∈ eval groupRound (0, start) ∧
      start.read group = if last.atEnd then (none, start)
        else (some (printed (start.upTo last.advance)), last.advance) := by
  have down {state next : Nat × Cursor} (goes : groupRound state = some next) :
      next.2.rest.length < state.2.rest.length := by
    obtain ⟨token, found, -, behind, -⟩ := groupRound_eq_some goes
    rw [behind, rest_of_current? found]
    exact Nat.lt_succ_self _
  obtain ⟨⟨depth, last⟩, stops, stopped, searching⟩ :=
    exists_stop_of_kept (fun state => state.2.rest.length)
      (fun state => start.Searching state.1 state.2) down
      (fun goes searching => searching.round opens goes) (0, start) (searching_start start)
  exact ⟨depth, last, stops, searching.read_group opens stopped⟩

end Opened

/-! ### The parenthesis that closes a group -/

/-- What reading a group does at a left parenthesis. -/
structure FindsPartner (start : Cursor) : Prop where
  /-- A group is read exactly if some tokens, at least one, hold as many right as left parentheses. -/
  isSome_iff : (start.read group).1.isSome = true ↔
    ∃ front, front ≠ [] ∧ front <+: start.rest ∧ rights front = lefts front
  /-- The tokens that are taken are such tokens, and the group is read as they are printed. -/
  taken : ∀ text next, start.read group = (some text, next) →
    start.rest = start.upTo next ++ next.rest ∧ start.upTo next ≠ [] ∧
      rights (start.upTo next) = lefts (start.upTo next) ∧ text = printed (start.upTo next)
  /-- They are the shortest such tokens. -/
  shortest : ∀ text next, start.read group = (some text, next) → ∀ front, front ≠ [] →
    front <+: start.rest → rights front = lefts front → start.upTo next <+: front
  /-- The new place is behind the right parenthesis that closes the group. -/
  behind : ∀ text next, start.read group = (some text, next) →
    next.pos = start.pos + (start.upTo next).length ∧
      (start.upTo next).getLast? = some .rightParen
  /-- In front of that parenthesis the group is open. -/
  deeper : ∀ text next, start.read group = (some text, next) → ∀ front, front ≠ [] →
    front <+: start.upTo next → front ≠ start.upTo next → rights front < lefts front
  /-- The search stops, and what is read is what it stops at. -/
  search : ∃ depth last, (depth, last) ∈ eval groupRound (0, start) ∧
    start.read group = if last.atEnd then (none, start)
      else (some (printed (start.upTo last.advance)), last.advance)
  /-- The count of the search is that of the open groups, and where it is brought down it is not zero. -/
  count : ∀ depth here, Reaches groupRound (0, start) (depth, here) →
    depth + rights (start.upTo here) = lefts (start.upTo here) ∧
      (here.current? = some .rightParen → 0 < depth)

theorem read_group_eq_some {start next : Cursor} {text : String}
    (opens : start.current? = some .leftParen) (read : start.read group = (some text, next)) :
    start.rest = start.upTo next ++ next.rest ∧
      next.pos = start.pos + (start.upTo next).length ∧
      Closes 0 (start.upTo next) ∧ text = printed (start.upTo next) := by
  have head : start.rest.head? = some .leftParen := (current?_eq_head? start).symm.trans opens
  obtain ⟨same, answer⟩ := (read_eq_iff (backtracks_group.suffix _)).mp read
  have forward := (pos_lt_of_shortens same (backtracks_group.read answer)).le
  have split := rest_eq_append same forward
  rw [group_eq_cutGroup head] at answer
  cases cut : cutGroup 0 start.rest with
  | none =>
    rw [cut] at answer
    exact nomatch answer
  | some found =>
    rw [cut] at answer
    obtain ⟨shown, after⟩ := Prod.mk.inj answer
    obtain ⟨whole, closes⟩ := (cutGroup_eq_some_iff (.inr head)).mp cut
    rw [split, after, List.append_left_inj] at whole
    rw [← whole] at closes shown
    exact ⟨split, pos_eq_add_length_upTo same forward, closes, (Option.some.inj shown).symm⟩

/-- **Reading a group finds the parenthesis that closes it.** -/
theorem read_group_findsPartner (start : Cursor) (opens : start.current? = some .leftParen) :
    start.FindsPartner := by
  have head : start.rest.head? = some .leftParen := (current?_eq_head? start).symm.trans opens
  refine ⟨?isSome_iff, ?taken, ?shortest, ?behind, ?deeper, exists_search opens, ?count⟩
  case isSome_iff =>
    have answered : (group start.rest).1.isSome = (cutGroup 0 start.rest).isSome := by
      rw [group_eq_cutGroup head]
      cases cutGroup 0 start.rest <;> rfl
    have found := @isSome_cutGroup_iff 0 start.rest (.inr head)
    simp only [Nat.zero_add, ← answered] at found
    exact found
  case taken =>
    intro text next read
    obtain ⟨split, -, closes, shown⟩ := read_group_eq_some opens read
    exact ⟨split, closes.nonempty, closes.even.trans (Nat.zero_add _), shown⟩
  case shortest =>
    intro text next read front nonempty short even
    obtain ⟨split, -, closes, -⟩ := read_group_eq_some opens read
    have within : start.upTo next <+: start.rest := split ▸ List.prefix_append _ _
    exact closes.prefix_of_even within nonempty short (even.trans (Nat.zero_add _).symm)
  case behind =>
    intro text next read
    obtain ⟨split, place, closes, -⟩ := read_group_eq_some opens read
    have opened : (start.upTo next).head? = some .leftParen := by
      rwa [split, List.head?_append_of_ne_nil _ closes.nonempty] at head
    exact ⟨place, closes.getLast? (.inr opened)⟩
  case deeper =>
    intro text next read front nonempty short proper
    obtain ⟨-, -, closes, -⟩ := read_group_eq_some opens read
    have fewer := closes.deeper front nonempty short proper
    rwa [Nat.zero_add] at fewer
  case count =>
    intro depth here reached
    have searching := searching_of_reaches opens reached
    exact ⟨searching.counted, fun closing =>
      (searching.opened opens closing).resolve_right Token.noConfusion⟩

/-- The tokens of `f(a(),))`, at the first parenthesis. -/
def nestedArguments : Cursor where
  tokens := [.word "f", .leftParen, .word "a", .leftParen, .rightParen, .comma, .rightParen, .rightParen]
  pos := 1
  within := by decide

theorem read_group_findsPartner_nestedArguments :
    nestedArguments.current? = some .leftParen ∧ nestedArguments.FindsPartner ∧
      (nestedArguments.read group).1 = some "(a(),)" ∧ (nestedArguments.read group).2.pos = 7 :=
  ⟨rfl, read_group_findsPartner _ rfl, by decide +kernel, by decide +kernel⟩

end Cursor

end SchemaDump.Sql
