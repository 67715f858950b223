/-
**Scanners give back what they do not read, and loops of scanners stop.**

At every place of every line a scanner of keywords, names, words or groups that reads nothing leaves the
cursor where it is, and one that reads something moves it forward. So does the scanner of values, but it
moves by one token at a `NULL`, which is no value.

Three loops are built of these scanners. Their rounds move the cursor forward, so they stop
(`exists_stop_of_kept`), and with the result of the reader that they belong to:

* `exists_nextName`: the search for the next quoted name;
* `exists_names`: the reader of all quoted names, one search after the other;
* `exists_attributes`: the reader of attributes, which takes at least one token in a round and stops at the
  end (`shortens_oneAttribute`).

**`read_progresses`** puts these facts together.
-/

import SchemaDump.Proofs.Sql.GroupSearch
import SchemaDump.Proofs.Statement.Attributes
import SchemaDump.Proofs.Statement.KeyLine

namespace SchemaDump

open SchemaDump.Sql StateTransition

/-! ### One round of the reader of attributes -/

/-- Skips blanks and reads one attribute, or passes over one token that starts none. -/
def oneAttribute : Scanner Attribute := fun tokens =>
  match keyword .not (skipBlanks tokens) with
  | (some (), behindNot) =>
    match keyword .null (skipBlanks behindNot) with
    | (some (), rest) => (some .notNull, rest)
    | (none, rest) => (none, rest)
  | (none, front) =>
    match keyword .default front with
    | (some (), behindDefault) =>
      match defaultValue (skipBlanks behindDefault) with
      | (value, rest) => (some (.default value), rest)
    | (none, front) => (none, front.tail)

theorem oneAttribute_eq (tokens : List Token) :
    oneAttribute tokens =
      match skipBlanks tokens with
      | [] => (none, [])
      | token :: rest => nextAttribute token rest := by
  rw [oneAttribute]
  cases skipBlanks tokens with
  | nil => rfl
  | cons token rest =>
    by_cases isNot : token.isKeyword .not = true
    · have taken : keyword .not (token :: rest) = (some (), rest) := if_pos isNot
      rw [taken]
      exact (if_pos isNot).symm
    have left : keyword .not (token :: rest) = (none, token :: rest) := if_neg isNot
    rw [left]
    by_cases isDefault : token.isKeyword .default = true
    · have taken : keyword .default (token :: rest) = (some (), rest) := if_pos isDefault
      simp only [taken, nextAttribute, if_neg isNot, if_pos isDefault]
    · have passed : keyword .default (token :: rest) = (none, token :: rest) := if_neg isDefault
      simp only [passed, nextAttribute, if_neg isNot, if_neg isDefault, List.tail_cons]

theorem attributes_oneAttribute (tokens : List Token) :
    attributes tokens = (oneAttribute tokens).1.toList ++ attributes (oneAttribute tokens).2 := by
  rw [attributes_eq, oneAttribute_eq]
  cases skipBlanks tokens with
  | nil => exact attributes_nil.symm
  | cons token rest => rfl

/-- **A round takes at least one token**, whether it reads an attribute or not. -/
theorem shortens_oneAttribute {tokens : List Token} (more : tokens ≠ []) :
    Shortens tokens (oneAttribute tokens).2 := by
  rw [oneAttribute_eq]
  cases front : skipBlanks tokens with
  | nil => exact ⟨List.nil_suffix, List.length_pos_iff.mpr more⟩
  | cons token rest =>
    have taken : Shortens (token :: rest) (nextAttribute token rest).2 :=
      ⟨(suffix_nextAttribute token rest).trans (List.suffix_cons _ _),
        Nat.lt_succ_of_le (suffix_nextAttribute token rest).length_le⟩
    exact taken.of_suffix (front ▸ suffix_skipBlanks tokens)

theorem suffix_oneAttribute (tokens : List Token) : (oneAttribute tokens).2 <:+ tokens := by
  by_cases none : tokens = []
  · subst none
    exact List.suffix_rfl
  · exact (shortens_oneAttribute none).suffix

namespace Sql.Cursor

/-! ### Single steps -/

section Steps

variable {cursor : Cursor}

theorem read_literal_null {token : Token} (found : cursor.current? = some token)
    (null : token.isKeyword .null = true) : cursor.read literal = (none, cursor.advance) := by
  rw [read_eq_iff (suffix_literal _), rest_of_current? found]
  exact ⟨tokens_advance cursor, literal_null null _⟩

theorem read_literal_missed (missed : (cursor.read literal).1 = none)
    (other : ∀ token, cursor.current? = some token → token.isKeyword .null = false) :
    (cursor.read literal).2 = cursor := by
  have answer : literal cursor.rest = (none, (literal cursor.rest).2) := Prod.ext missed rfl
  obtain same | ⟨token, null, found⟩ := literal_missed answer
  · exact eq_of_rest_eq rfl ((rest_read (suffix_literal _)).trans same)
  · have here : cursor.current? = some token := by rw [current?_eq_head?, found, List.head?_cons]
    exact absurd ((other token here).symm.trans null) Bool.false_ne_true

end Steps

/-! ### The search for a quoted name -/

/-- One round of the search: one token on, unless the end or a name is reached. -/
def nextNameRound (here : Cursor) : Option Cursor :=
  if here.atEnd then none
  else match here.read quotedName with
    | (some _, _) => none
    | (none, _) => some here.advance

theorem nextNameRound_eq_some {here next : Cursor} (goes : nextNameRound here = some next) :
    here.rest ≠ [] ∧ next = here.advance ∧
      nextQuotedName next.rest = nextQuotedName here.rest := by
  rw [nextNameRound] at goes
  split at goes
  · cases goes
  · next more =>
    rw [atEnd_iff] at more
    split at goes
    · cases goes
    · next missed =>
      obtain rfl := Option.some.inj goes
      obtain ⟨-, answer⟩ := (read_eq_iff (backtracks_quotedName.suffix _)).mp missed
      exact ⟨more, rfl, by rw [nextQuotedName_eq here.rest, answer, rest_advance]⟩

theorem nextNameRound_eq_none {here : Cursor} (stops : nextNameRound here = none) :
    nextQuotedName here.rest = quotedName here.rest := by
  rw [nextNameRound] at stops
  split at stops
  · next ended =>
    rw [atEnd_iff.mp ended]
    rfl
  · split at stops
    · next found =>
      obtain ⟨-, answer⟩ := (read_eq_iff (backtracks_quotedName.suffix _)).mp found
      rw [nextQuotedName_eq, answer]
    · cases stops

/-- **The search for a quoted name stops**, where the name is read or nothing is left. -/
theorem exists_nextName (cursor : Cursor) :
    ∃ last, last ∈ eval nextNameRound cursor ∧
      cursor.read nextQuotedName = last.read quotedName := by
  have down {here next : Cursor} (goes : nextNameRound here = some next) :
      next.rest.length < here.rest.length := by
    obtain ⟨more, rfl, -⟩ := nextNameRound_eq_some goes
    rw [rest_advance, List.length_tail]
    exact Nat.sub_lt (List.length_pos_iff.mpr more) Nat.one_pos
  have kept {here next : Cursor} (goes : nextNameRound here = some next)
      (same : here.read nextQuotedName = cursor.read nextQuotedName) :
      next.read nextQuotedName = cursor.read nextQuotedName := by
    obtain ⟨-, rfl, alike⟩ := nextNameRound_eq_some goes
    exact (read_congr (tokens_advance _) alike).trans same
  obtain ⟨last, stops, stopped, same⟩ :=
    exists_stop_of_kept (fun here => here.rest.length) _ down kept cursor rfl
  exact ⟨last, stops, same.symm.trans (read_congr rfl (nextNameRound_eq_none stopped))⟩

/-! ### All quoted names -/

/-- One round of the reader of all quoted names: one more name, if there is one. -/
def namesRound : List String × Cursor → Option (List String × Cursor)
  | (names, here) =>
    match here.read nextQuotedName with
    | (some name, next) => some (names ++ [name], next)
    | (none, _) => none

theorem namesRound_eq_some {names more : List String} {here next : Cursor}
    (goes : namesRound (names, here) = some (more, next)) :
    Shortens here.rest next.rest ∧ more ++ quotedNames next.rest = names ++ quotedNames here.rest := by
  rw [namesRound] at goes
  split at goes
  · next name _ read =>
    obtain ⟨rfl, rfl⟩ := Prod.mk.inj (Option.some.inj goes)
    obtain ⟨-, answer⟩ := (read_eq_iff (suffix_nextQuotedName _)).mp read
    refine ⟨nextQuotedName_read answer, ?_⟩
    rw [quotedNames_eq here.rest, answer, List.append_assoc, List.singleton_append]
  · cases goes

theorem namesRound_eq_none {names : List String} {here : Cursor}
    (stops : namesRound (names, here) = none) : quotedNames here.rest = [] := by
  rw [namesRound] at stops
  split at stops
  · cases stops
  · next missed =>
    obtain ⟨-, answer⟩ := (read_eq_iff (suffix_nextQuotedName _)).mp missed
    rw [quotedNames_eq, answer]

/-- **The reader of all quoted names stops**, with all of them. -/
theorem exists_names (cursor : Cursor) :
    ∃ last, (quotedNames cursor.rest, last) ∈ eval namesRound ([], cursor) := by
  obtain ⟨⟨names, last⟩, stops, stopped, kept⟩ :=
    exists_stop_of_kept (fun state => state.2.rest.length)
      (fun state => state.1 ++ quotedNames state.2.rest = quotedNames cursor.rest)
      (fun goes => (namesRound_eq_some goes).1.shorter)
      (fun goes same => (namesRound_eq_some goes).2.trans same) ([], cursor) rfl
  rw [namesRound_eq_none stopped, List.append_nil] at kept
  exact ⟨last, kept ▸ stops⟩

/-! ### Attributes -/

/-- One round of the reader of attributes, unless the end is reached. -/
def attributesRound : List Attribute × Cursor → Option (List Attribute × Cursor)
  | (items, here) =>
    if here.atEnd then none
    else some (items ++ (here.read oneAttribute).1.toList, (here.read oneAttribute).2)

theorem attributesRound_eq_some {items more : List Attribute} {here next : Cursor}
    (goes : attributesRound (items, here) = some (more, next)) :
    next.tokens = here.tokens ∧ Shortens here.rest next.rest ∧
      more ++ attributes next.rest = items ++ attributes here.rest := by
  rw [attributesRound] at goes
  split at goes
  · cases goes
  · next inside =>
    rw [atEnd_iff] at inside
    obtain ⟨rfl, rfl⟩ := Prod.mk.inj (Option.some.inj goes)
    have left := rest_read (suffix_oneAttribute here.rest)
    refine ⟨rfl, ?_, ?_⟩
    · rw [left]
      exact shortens_oneAttribute inside
    · rw [left, attributes_oneAttribute here.rest, List.append_assoc]
      rfl

theorem attributesRound_eq_none_iff {items : List Attribute} {here : Cursor} :
    attributesRound (items, here) = none ↔ here.atEnd = true := by
  rw [attributesRound]
  split
  · next ended => exact iff_of_true rfl ended
  · next inside => exact iff_of_false (Option.some_ne_none _) inside

/-- **The reader of attributes stops**, at the end and with all of them. -/
theorem exists_attributes (cursor : Cursor) :
    ∃ last, (attributes cursor.rest, last) ∈ eval attributesRound ([], cursor) ∧
      last.atEnd = true := by
  obtain ⟨⟨items, last⟩, stops, stopped, kept⟩ :=
    exists_stop_of_kept (fun state => state.2.rest.length)
      (fun state => state.1 ++ attributes state.2.rest = attributes cursor.rest)
      (fun goes => (attributesRound_eq_some goes).2.1.shorter)
      (fun goes same => (attributesRound_eq_some goes).2.2.trans same) ([], cursor) rfl
  have ended := attributesRound_eq_none_iff.mp stopped
  rw [atEnd_iff.mp ended, attributes_nil, List.append_nil] at kept
  exact ⟨last, kept ▸ stops, ended⟩

/-! ### Every place -/

/-- How the scanners move the cursor, and where the loops that are built of them stop. -/
structure Progresses (cursor : Cursor) : Prop where
  ofKeyword : ∀ expected, cursor.StepsBy (keyword expected)
  ofKeywordPair : ∀ first second, cursor.StepsBy (keywordPair first second)
  ofQuotedName : cursor.StepsBy quotedName
  ofWord : cursor.StepsBy word
  ofGroup : cursor.StepsBy group
  /-- Where scanners skip or search, too, the new place is in front of what they leave. -/
  left : (cursor.read literal).2.rest = (literal cursor.rest).2 ∧
    (cursor.read nextQuotedName).2.rest = (nextQuotedName cursor.rest).2 ∧
    (cursor.read oneAttribute).2.rest = (oneAttribute cursor.rest).2
  /-- A value that is read moves the cursor forward. -/
  value : ∀ value, (cursor.read literal).1 = some value →
    cursor.pos < (cursor.read literal).2.pos ∧ (cursor.read literal).2.pos ≤ cursor.tokens.length
  /-- Where no value is read the cursor stays, -/
  noValue : (cursor.read literal).1 = none →
    (∀ token, cursor.current? = some token → token.isKeyword .null = false) →
    (cursor.read literal).2 = cursor
  /-- except at a `NULL`, which is passed over. -/
  null : ∀ token, cursor.current? = some token → token.isKeyword .null = true →
    (cursor.read literal).1 = none ∧ (cursor.read literal).2.pos = cursor.pos + 1
  /-- A name that is searched and found moves the cursor forward, -/
  name : ∀ name, (cursor.read nextQuotedName).1 = some name →
    cursor.pos < (cursor.read nextQuotedName).2.pos ∧
      (cursor.read nextQuotedName).2.pos ≤ cursor.tokens.length
  /-- and one that is not found moves it to the end. -/
  noName : (cursor.read nextQuotedName).1 = none →
    (cursor.read nextQuotedName).2.pos = cursor.tokens.length
  /-- The search for a name stops, and what is read is the name at which it stops. -/
  nextName : ∃ last, last ∈ eval nextNameRound cursor ∧
    cursor.read nextQuotedName = last.read quotedName
  /-- The reader of names stops, with all names. -/
  names : ∃ last, (quotedNames cursor.rest, last) ∈ eval namesRound ([], cursor)
  /-- The reader of attributes stops at the end, with all attributes. -/
  attributes : ∃ last, (attributes cursor.rest, last) ∈ eval attributesRound ([], cursor) ∧
    last.atEnd = true
  /-- It has a round at every place but the end, and each of them moves the cursor forward. -/
  round : ∀ items, (attributesRound (items, cursor) = none ↔ cursor.atEnd = true) ∧
    ∀ more next, attributesRound (items, cursor) = some (more, next) →
      cursor.pos < next.pos ∧ next.pos ≤ cursor.tokens.length

/-- **Scanners give back what they do not read, and loops of scanners stop**, at every place of all
tokens. -/
theorem read_progresses (cursor : Cursor) : cursor.Progresses := by
  refine
    { ofKeyword := fun expected => stepsBy_of_backtracks (backtracks_keyword expected) cursor
      ofKeywordPair := fun first second =>
        stepsBy_of_backtracks (backtracks_keywordPair first second) cursor
      ofQuotedName := stepsBy_of_backtracks backtracks_quotedName cursor
      ofWord := stepsBy_of_backtracks backtracks_word cursor
      ofGroup := stepsBy_of_backtracks backtracks_group cursor
      left := ⟨rest_read (suffix_literal _), rest_read (suffix_nextQuotedName _),
        rest_read (suffix_oneAttribute _)⟩
      noValue := read_literal_missed
      nextName := exists_nextName cursor
      names := exists_names cursor
      attributes := exists_attributes cursor
      value := ?value, null := ?null, name := ?name, noName := ?noName, round := ?round }
  case value =>
    intro value found
    exact ⟨pos_lt_read (literal_read (Prod.ext found rfl)), (cursor.read literal).2.within⟩
  case null =>
    intro token found null
    rw [read_literal_null found null]
    exact ⟨rfl, pos_advance found⟩
  case name =>
    intro name found
    exact ⟨pos_lt_read (nextQuotedName_read (Prod.ext found rfl)),
      (cursor.read nextQuotedName).2.within⟩
  case noName =>
    intro missed
    have nothing : (nextQuotedName cursor.rest).2 = [] := nextQuotedName_missed (Prod.ext missed rfl)
    show cursor.tokens.length - (nextQuotedName cursor.rest).2.length = _
    rw [nothing, List.length_nil, Nat.sub_zero]
  case round =>
    intro items
    refine ⟨attributesRound_eq_none_iff, fun more next goes => ?_⟩
    obtain ⟨same, taken, -⟩ := attributesRound_eq_some goes
    exact ⟨pos_lt_of_shortens same taken, same ▸ next.within⟩

end Sql.Cursor

end SchemaDump
