/-
**A cursor on the tokens of a line.**

A cursor is a place among the tokens, their end included. A scanner that reads at a cursor gets the tokens
from there on, and the cursor moves in front of what the scanner leaves. A place says as much as the
tokens from there on (`eq_of_rest_eq`), so cursors and rests are two views of one run:

* **`read_eq_iff`**: what is read at a cursor is what the scanner reads from the rest, and the new cursor
  stands in front of what it leaves;
* **`stepsBy_of_backtracks`**: a scanner that backtracks moves the cursor forward or not at all.

A loop is a function that gives the next state, or none where it stops.

* `exists_stop`: a loop stops if each of its rounds brings some measure down;
* `kept_of_reaches`: what each of its rounds keeps holds wherever it comes, so
  **`exists_stop_of_kept`**: also where it stops.
-/

import Mathlib.Computability.StateTransition
import SchemaDump.Proofs.Sql.Backtracking

namespace SchemaDump.Sql

/-- A place among the tokens, or their end. -/
@[ext]
structure Cursor where
  tokens : List Token
  pos : Nat
  within : pos ≤ tokens.length

namespace Cursor

/-- The tokens from the cursor on. -/
def rest (cursor : Cursor) : List Token := cursor.tokens.drop cursor.pos

/-- Is nothing left to read? -/
def atEnd (cursor : Cursor) : Bool := decide (cursor.tokens.length ≤ cursor.pos)

/-- The token at the cursor. -/
def current? (cursor : Cursor) : Option Token := cursor.tokens[cursor.pos]?

/-- One token on, unless the cursor is at the end. -/
def advance (cursor : Cursor) : Cursor :=
  if more : cursor.pos < cursor.tokens.length then ⟨cursor.tokens, cursor.pos + 1, more⟩ else cursor

/-- Reads at the cursor, and moves it in front of what the scanner leaves. -/
def read {α : Type} (scanner : Scanner α) (cursor : Cursor) : Option α × Cursor :=
  ((scanner cursor.rest).1,
    ⟨cursor.tokens, cursor.tokens.length - (scanner cursor.rest).2.length, Nat.sub_le _ _⟩)

/-- The tokens between two cursors. -/
def upTo (start last : Cursor) : List Token := start.tokens.extract start.pos last.pos

/-! ### Places and rests -/

theorem length_rest (cursor : Cursor) : cursor.rest.length = cursor.tokens.length - cursor.pos :=
  List.length_drop

section SameTokens

variable {cursor next : Cursor} (same : next.tokens = cursor.tokens)

include same

theorem eq_of_rest_eq (rest : next.rest = cursor.rest) : next = cursor := by
  have left := congrArg List.length rest
  rw [length_rest, length_rest, same] at left
  have inside := next.within
  rw [same] at inside
  have place : next.pos = cursor.pos := by
    have := cursor.within
    omega
  exact Cursor.ext same place

theorem pos_lt_of_shortens (taken : Shortens cursor.rest next.rest) : cursor.pos < next.pos := by
  have shorter := taken.shorter
  rw [length_rest, length_rest, same] at shorter
  omega

theorem rest_eq_append (ahead : cursor.pos ≤ next.pos) :
    cursor.rest = cursor.upTo next ++ next.rest := by
  have split := List.take_append_drop (next.pos - cursor.pos) cursor.rest
  rw [rest, List.drop_drop, Nat.add_sub_cancel' ahead, ← same] at split
  rw [upTo, rest, rest, List.extract_eq_take_drop, ← same, split]

theorem pos_eq_add_length_upTo (ahead : cursor.pos ≤ next.pos) :
    next.pos = cursor.pos + (cursor.upTo next).length := by
  have left := congrArg List.length (rest_eq_append same ahead)
  rw [List.length_append, length_rest, length_rest, same] at left
  have inside := next.within
  rw [same] at inside
  omega

end SameTokens

theorem atEnd_iff {cursor : Cursor} : cursor.atEnd = true ↔ cursor.rest = [] := by
  rw [atEnd, decide_eq_true_iff, rest, List.drop_eq_nil_iff]

theorem current?_eq_head? (cursor : Cursor) : cursor.current? = cursor.rest.head? :=
  List.head?_drop.symm

theorem tokens_advance (cursor : Cursor) : cursor.advance.tokens = cursor.tokens := by
  unfold advance
  split <;> rfl

theorem rest_advance (cursor : Cursor) : cursor.advance.rest = cursor.rest.tail := by
  unfold advance
  split
  · exact List.tail_drop.symm
  · next none =>
    rw [rest, List.drop_eq_nil_of_le (Nat.le_of_not_lt none), List.tail_nil]

theorem pos_advance {cursor : Cursor} {token : Token} (found : cursor.current? = some token) :
    cursor.advance.pos = cursor.pos + 1 := by
  have inside : cursor.pos < cursor.tokens.length := (List.getElem?_eq_some_iff.mp found).1
  rw [advance, dif_pos inside]

theorem pos_le_advance (cursor : Cursor) : cursor.pos ≤ cursor.advance.pos := by
  unfold advance
  split
  · exact Nat.le_succ _
  · exact Nat.le_refl _

theorem rest_of_current? {cursor : Cursor} {token : Token} (found : cursor.current? = some token) :
    cursor.rest = token :: cursor.advance.rest := by
  rw [current?_eq_head?] at found
  rw [rest_advance]
  exact List.eq_cons_of_mem_head? found

theorem upTo_advance {start here : Cursor} {token : Token} (same : here.tokens = start.tokens)
    (ahead : start.pos ≤ here.pos) (found : here.current? = some token) :
    start.upTo here.advance = start.upTo here ++ [token] := by
  have now := rest_eq_append same ahead
  have later := rest_eq_append ((tokens_advance here).trans same) (ahead.trans (pos_le_advance here))
  rw [rest_of_current? found, later, List.append_cons, List.append_left_inj] at now
  exact now

/-! ### Reading -/

section Read

variable {α : Type} {scanner : Scanner α} {cursor next : Cursor} {value : Option α}

theorem rest_read (left : (scanner cursor.rest).2 <:+ cursor.rest) :
    (cursor.read scanner).2.rest = (scanner cursor.rest).2 :=
  (List.suffix_iff_eq_drop.mp (left.trans (List.drop_suffix _ _))).symm

/-- **What is read at a cursor is what the scanner reads from the rest.** -/
theorem read_eq_iff (left : (scanner cursor.rest).2 <:+ cursor.rest) :
    cursor.read scanner = (value, next) ↔
      next.tokens = cursor.tokens ∧ scanner cursor.rest = (value, next.rest) := by
  constructor
  · intro read
    obtain ⟨rfl, rfl⟩ := Prod.mk.inj read
    exact ⟨rfl, Prod.ext rfl (rest_read left).symm⟩
  · rintro ⟨same, answers⟩
    have value : (scanner cursor.rest).1 = value := congrArg Prod.fst answers
    have stands : (cursor.read scanner).2 = next := by
      refine eq_of_rest_eq same.symm ?_
      rw [rest_read left, answers]
    exact Prod.ext value stands

/-- Scanners that answer alike read alike. -/
theorem read_congr {other : Scanner α} (same : next.tokens = cursor.tokens)
    (alike : scanner next.rest = other cursor.rest) : next.read scanner = cursor.read other := by
  have value : (scanner next.rest).1 = (other cursor.rest).1 := congrArg Prod.fst alike
  refine Prod.ext value (Cursor.ext same ?_)
  show next.tokens.length - (scanner next.rest).2.length = _
  rw [same, alike]
  rfl

theorem pos_lt_read (taken : Shortens cursor.rest (scanner cursor.rest).2) :
    cursor.pos < (cursor.read scanner).2.pos := by
  refine pos_lt_of_shortens rfl ?_
  rwa [rest_read taken.suffix]

/-- The cursor moves forward if something is read, and stays where it is if nothing is. -/
structure StepsBy (cursor : Cursor) (scanner : Scanner α) : Prop where
  /-- The new place is in front of what the scanner leaves. -/
  left : (cursor.read scanner).2.rest = (scanner cursor.rest).2
  missed : (cursor.read scanner).1 = none → (cursor.read scanner).2 = cursor
  read : ∀ value, (cursor.read scanner).1 = some value →
    cursor.pos < (cursor.read scanner).2.pos ∧ (cursor.read scanner).2.pos ≤ cursor.tokens.length

/-- **A scanner that backtracks moves the cursor forward or not at all.** -/
theorem stepsBy_of_backtracks (backtracks : Backtracks scanner) (cursor : Cursor) :
    cursor.StepsBy scanner := by
  have left := rest_read (backtracks.suffix cursor.rest)
  refine ⟨left, fun missed => ?_, fun value read => ⟨?_, (cursor.read scanner).2.within⟩⟩
  · exact eq_of_rest_eq rfl (left.trans (backtracks.missed (Prod.ext missed rfl)))
  · exact pos_lt_read (backtracks.read (Prod.ext read rfl))

end Read

end Cursor

/-! ### Loops -/

section Loop

open StateTransition

variable {State : Type} {round : State → Option State}

/-- **A loop whose rounds bring a measure down stops.** -/
theorem exists_stop (measure : State → Nat)
    (down : ∀ {state next}, round state = some next → measure next < measure state) (state : State) :
    ∃ last, last ∈ eval round state := by
  induction bound : measure state using Nat.strong_induction_on generalizing state with
  | _ _ ih =>
    cases going : round state with
    | none => exact ⟨state, mem_eval.mpr ⟨.refl, going⟩⟩
    | some next =>
      obtain ⟨last, stops⟩ := ih (measure next) (bound ▸ down going) next rfl
      exact ⟨last, reaches_eval (.single going) ▸ stops⟩

/-- What each round keeps holds wherever the loop comes. -/
theorem kept_of_reaches (Kept : State → Prop)
    (kept : ∀ {state next}, round state = some next → Kept state → Kept next) {state last : State}
    (reached : Reaches round state last) (holds : Kept state) : Kept last := by
  induction reached with
  | refl => exact holds
  | tail _ going ih => exact kept going ih

/-- **The rule for loops**: where a loop stops, what each of its rounds keeps holds. -/
theorem exists_stop_of_kept (measure : State → Nat) (Kept : State → Prop)
    (down : ∀ {state next}, round state = some next → measure next < measure state)
    (kept : ∀ {state next}, round state = some next → Kept state → Kept next) (state : State)
    (holds : Kept state) : ∃ last, last ∈ eval round state ∧ round last = none ∧ Kept last := by
  obtain ⟨last, stops⟩ := exists_stop measure down state
  obtain ⟨reached, stopped⟩ := mem_eval.mp stops
  exact ⟨last, stops, stopped, kept_of_reaches Kept kept reached holds⟩

end Loop

end SchemaDump.Sql
