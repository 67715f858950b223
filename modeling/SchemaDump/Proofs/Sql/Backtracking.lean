/-
**What a scanner takes from the front of the tokens.**

A scanner that backtracks takes no token if it reads nothing, and at least one if it reads something
(`Backtracks`). The scanners of keywords, names, words and groups backtrack, whatever they skipped or
searched before they gave up. The scanner of values does as well, with one exception: it takes a `NULL`,
which is no value (`literal_missed`).

* `Backtracks.suffix`, `suffix_literal`: in any case what is left is an end of the tokens;
* **`backtracks_keywordPair`**, **`backtracks_group`**: nothing is lost with a second keyword that is not
  there, or a group that is not closed;
* `nextQuotedName_read`, `nextQuotedName_missed`: the search for a name stops behind it, or at the end.
-/

import SchemaDump.Proofs.Sql.Group

namespace SchemaDump.Sql

/-- The rest is what is left of the tokens when some of them, at least one, are taken from the front. -/
structure Shortens (tokens rest : List Token) : Prop where
  suffix : rest <:+ tokens
  shorter : rest.length < tokens.length

namespace Shortens

theorem cons (token : Token) (rest : List Token) : Shortens (token :: rest) rest :=
  ⟨List.suffix_cons _ _, Nat.lt_succ_self _⟩

variable {tokens middle rest : List Token}

theorem of_suffix (skipped : middle <:+ tokens) (taken : Shortens middle rest) :
    Shortens tokens rest :=
  ⟨taken.suffix.trans skipped, Nat.lt_of_lt_of_le taken.shorter skipped.length_le⟩

theorem trans (first : Shortens tokens middle) (second : Shortens middle rest) :
    Shortens tokens rest :=
  of_suffix first.suffix second

end Shortens

/-- The scanner takes tokens exactly if it reads something. -/
structure Backtracks {α : Type} (scanner : Scanner α) : Prop where
  missed : ∀ {tokens rest}, scanner tokens = (none, rest) → rest = tokens
  read : ∀ {tokens rest value}, scanner tokens = (some value, rest) → Shortens tokens rest

theorem Backtracks.suffix {α : Type} {scanner : Scanner α} (backtracks : Backtracks scanner)
    (tokens : List Token) : (scanner tokens).2 <:+ tokens := by
  cases result : scanner tokens with
  | mk value rest =>
    cases value with
    | none => exact backtracks.missed result ▸ List.suffix_rfl
    | some value => exact (backtracks.read result).suffix

/-! ### Keywords -/

theorem suffix_skipBlanks (tokens : List Token) : skipBlanks tokens <:+ tokens :=
  List.dropWhile_suffix _

theorem backtracks_keyword (expected : Keyword) : Backtracks (keyword expected) := by
  constructor
  case missed =>
    intro tokens rest missed
    unfold keyword at missed
    split at missed
    · exact (Prod.mk.inj missed).2.symm
    · split at missed
      · cases missed
      · exact (Prod.mk.inj missed).2.symm
  case read =>
    intro tokens rest _ read
    unfold keyword at read
    split at read
    · cases read
    · split at read
      · obtain ⟨-, rfl⟩ := Prod.mk.inj read
        exact .cons _ _
      · cases read

/-- **A second keyword that is not there costs nothing**: the first one is given back as well. -/
theorem backtracks_keywordPair (first second : Keyword) : Backtracks (keywordPair first second) := by
  constructor
  case missed =>
    intro tokens rest missed
    unfold keywordPair at missed
    split at missed
    · split at missed
      · cases missed
      · exact (Prod.mk.inj missed).2.symm
    · exact (Prod.mk.inj missed).2.symm
  case read =>
    intro tokens rest _ read
    unfold keywordPair at read
    split at read
    · next behindFirst found =>
      split at read
      · next behindSecond later =>
        obtain ⟨-, rfl⟩ := Prod.mk.inj read
        have one := ((backtracks_keyword first).read found).of_suffix (suffix_skipBlanks _)
        have two := ((backtracks_keyword second).read later).of_suffix (suffix_skipBlanks _)
        exact one.trans two
      · cases read
    · cases read

/-! ### Names and words -/

theorem backtracks_quotedName : Backtracks quotedName := by
  constructor
  case missed =>
    intro tokens rest missed
    unfold quotedName at missed
    split at missed
    · cases missed
    · exact (Prod.mk.inj missed).2.symm
  case read =>
    intro tokens rest name read
    unfold quotedName at read
    split at read
    · obtain ⟨-, rfl⟩ := Prod.mk.inj read
      exact .cons _ _
    · cases read

theorem backtracks_word : Backtracks word := by
  constructor
  case missed =>
    intro tokens rest missed
    unfold word at missed
    split at missed
    · cases missed
    · exact (Prod.mk.inj missed).2.symm
  case read =>
    intro tokens rest text read
    unfold word at read
    split at read
    · obtain ⟨-, rfl⟩ := Prod.mk.inj read
      exact .cons _ _
    · cases read

theorem nextQuotedName_read {tokens rest : List Token} {name : String}
    (read : nextQuotedName tokens = (some name, rest)) : Shortens tokens rest := by
  induction tokens with
  | nil => cases read
  | cons token after ih =>
    cases token with
    | quotedName found =>
      obtain ⟨-, rfl⟩ := Prod.mk.inj read
      exact .cons _ _
    | _ => exact (ih read).of_suffix (List.suffix_cons _ _)

theorem nextQuotedName_missed {tokens rest : List Token}
    (missed : nextQuotedName tokens = (none, rest)) : rest = [] := by
  induction tokens with
  | nil => exact (Prod.mk.inj missed).2.symm
  | cons token after ih =>
    cases token with
    | quotedName found => cases missed
    | _ => exact ih missed

theorem suffix_nextQuotedName (tokens : List Token) : (nextQuotedName tokens).2 <:+ tokens := by
  cases result : nextQuotedName tokens with
  | mk name rest =>
    cases name with
    | some name => exact (nextQuotedName_read result).suffix
    | none => exact nextQuotedName_missed result ▸ List.nil_suffix

/-- The search goes on one token further where no name stands. -/
theorem nextQuotedName_eq (tokens : List Token) :
    nextQuotedName tokens =
      match quotedName tokens with
      | (some name, rest) => (some name, rest)
      | (none, _) => nextQuotedName tokens.tail := by
  cases tokens with
  | nil => rfl
  | cons token rest => cases token <;> rfl

/-! ### Values and groups -/

/-- A `NULL` is taken, but is no value. -/
theorem literal_null {token : Token} (is : token.isKeyword .null = true) (rest : List Token) :
    literal (token :: rest) = (none, rest) := by
  cases token with
  | word text => exact if_pos is
  | _ => exact Bool.noConfusion is

theorem literal_read {tokens rest : List Token} {value : String}
    (read : literal tokens = (some value, rest)) : Shortens tokens rest := by
  unfold literal at read
  split at read
  · cases read
  · obtain ⟨-, rfl⟩ := Prod.mk.inj read
    exact (Shortens.cons _ _).trans (.cons _ _)
  · cases read
  · cases read
  · cases read
  · obtain ⟨-, rfl⟩ := Prod.mk.inj read
    exact .cons _ _
  · split at read
    · cases read
    · obtain ⟨-, rfl⟩ := Prod.mk.inj read
      exact .cons _ _

/-- **Where no value is read no token is taken, except a `NULL`.** -/
theorem literal_missed {tokens rest : List Token} (missed : literal tokens = (none, rest)) :
    rest = tokens ∨ ∃ token, token.isKeyword .null = true ∧ tokens = token :: rest := by
  unfold literal at missed
  split at missed
  · exact .inl (Prod.mk.inj missed).2.symm
  · cases missed
  · exact .inl (Prod.mk.inj missed).2.symm
  · exact .inl (Prod.mk.inj missed).2.symm
  · exact .inl (Prod.mk.inj missed).2.symm
  · cases missed
  · split at missed
    · next null =>
      obtain ⟨-, rfl⟩ := Prod.mk.inj missed
      exact .inr ⟨_, null, rfl⟩
    · cases missed

theorem suffix_literal (tokens : List Token) : (literal tokens).2 <:+ tokens := by
  cases result : literal tokens with
  | mk value rest =>
    cases value with
    | some value => exact (literal_read result).suffix
    | none =>
      obtain rfl | ⟨token, -, rfl⟩ := literal_missed result
      · exact List.suffix_rfl
      · exact List.suffix_cons _ _

/-- **A group that is not closed costs nothing**: its parenthesis is given back as well. -/
theorem backtracks_group : Backtracks group := by
  constructor
  case missed =>
    intro tokens rest missed
    unfold group at missed
    split at missed
    · split at missed
      · cases missed
      · exact (Prod.mk.inj missed).2.symm
    · exact (Prod.mk.inj missed).2.symm
  case read =>
    intro tokens rest text read
    unfold group at read
    split at read
    · split at read
      · next inside after cut =>
        obtain ⟨-, rfl⟩ := Prod.mk.inj read
        exact ⟨⟨inside, (cutGroup_takes_front cut).1.symm⟩, length_cutGroup_lt cut⟩
      · cases read
    · cases read

end SchemaDump.Sql
