/-
**Runs of operations that answer.**

An operation is performed in a state, gives an answer and leaves a state. A run performs operations one
after the other and keeps their answers.

* `final_eq_foldl`: the state that a run leaves is the fold of the states that its operations leave;
* `length_answers`, **`getElem?_answers`**: there is one answer for each operation, and it is the one
  that the operation gives in the state that the operations in front of it leave.
-/

namespace SchemaDump

/-- The answers of the operations, one after the other, and the state that is left. -/
def runAll {State Operation Answer : Type} (perform : State → Operation → Answer × State)
    (state : State) : List Operation → List Answer × State
  | [] => ([], state)
  | operation :: rest =>
    let (answer, next) := perform state operation
    let (answers, last) := runAll perform next rest
    (answer :: answers, last)

section

variable {State Operation Answer : Type} (perform : State → Operation → Answer × State)

theorem final_eq_foldl (state : State) (operations : List Operation) :
    (runAll perform state operations).2 =
      operations.foldl (fun state operation => (perform state operation).2) state := by
  induction operations generalizing state with
  | nil => rfl
  | cons operation rest ih => exact ih (perform state operation).2

theorem final_concat (state : State) (operations : List Operation) (operation : Operation) :
    (runAll perform state (operations ++ [operation])).2 =
      (perform (runAll perform state operations).2 operation).2 := by
  rw [final_eq_foldl, final_eq_foldl, List.foldl_append]
  rfl

theorem length_answers (state : State) (operations : List Operation) :
    (runAll perform state operations).1.length = operations.length := by
  induction operations generalizing state with
  | nil => rfl
  | cons operation rest ih => exact congrArg (· + 1) (ih (perform state operation).2)

/-- **An operation answers in the state that the operations in front of it leave.** -/
theorem getElem?_answers (state : State) (before : List Operation) (operation : Operation)
    (after : List Operation) :
    (runAll perform state (before ++ operation :: after)).1[before.length]? =
      some (perform (runAll perform state before).2 operation).1 := by
  induction before generalizing state with
  | nil => rfl
  | cons first rest ih => exact ih (perform state first).2

end

end SchemaDump
