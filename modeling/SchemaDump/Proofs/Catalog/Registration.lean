/-
**A catalog holds, under every name, the statement that was registered last.**

Statements are registered under a given name, or under the one that they give their table; a statement
that gives none is not registered at all. `Registration.entry?` is what a single registration puts where,
and `lastText?` what a run of them leaves under a name.

* `text?_perform`, `text?_registerAll`: the texts that one registration leaves, and those that a run of
  registrations leaves, by induction from the back;
* **`registerAll_servesAsMap`**: what each registration answers, and that all questions about the catalog
  are answered alike, by the last text of each name.
-/

import SchemaDump.Proofs.Answers
import SchemaDump.Proofs.Catalog.Loading
import SchemaDump.Proofs.Text.Utf8

namespace SchemaDump

open SchemaDump.Text

/-- A statement to be registered, under a given name or under the one it gives its table. -/
inductive Registration where
  | underName (table statement : String)
  | underHead (statement : String)

namespace Registration

/-- The name and the text that are registered. -/
def entry? : Registration → Option (String × String)
  | underName table statement => some (table, statement)
  | underHead statement => (Statement.ofText statement).tableName.map fun table => (table, statement)

/-- The text that the registrations leave under the name. -/
def lastText? (steps : List Registration) (table : String) : Option String :=
  (((steps.filterMap entry?).filter fun entry => entry.1 == table).getLast?).map Prod.snd

/-- What is told of the registration after those before it: the text that it replaces, or the name under
which it is registered. -/
def answerAfter (before : List Registration) : Registration → Option String
  | underName table _ => lastText? before table
  | underHead statement => (Statement.ofText statement).tableName

theorem lastText?_concat (steps : List Registration) (step : Registration) (table : String) :
    lastText? (steps ++ [step]) table =
      match step.entry? with
      | some (name, text) => if name = table then some text else lastText? steps table
      | none => lastText? steps table := by
  unfold lastText?
  rw [List.filterMap_append, List.filter_append]
  cases found : step.entry? with
  | none => simp [found]
  | some entry => by_cases same : entry.1 = table <;> simp [found, same]

end Registration

namespace Catalog

/-- Registers a statement, and tells what there is to tell. -/
def perform (catalog : Catalog) : Registration → Option String × Catalog
  | .underName table statement => catalog.insert table statement
  | .underHead statement => catalog.insertStatement statement

/-- Registers the statements in the empty catalog, one after the other. -/
def registerAll (steps : List Registration) : List (Option String) × Catalog :=
  runAll perform empty steps

/-! ### The texts that are left -/

theorem text?_register_eq (catalog : Catalog) (name text table : String) :
    (catalog.register name text).text? table =
      if name = table then some text else catalog.text? table := by
  rw [text?, register, NameMap.get?_put]
  split <;> rfl

theorem final_perform (catalog : Catalog) (step : Registration) :
    (catalog.perform step).2 =
      match step.entry? with
      | some (name, text) => catalog.register name text
      | none => catalog := by
  cases step with
  | underName table statement => rfl
  | underHead statement =>
    simp only [perform, insertStatement, Registration.entry?]
    cases (Statement.ofText statement).tableName <;> rfl

/-- **A registration changes the text of its own name and of no other.** -/
theorem text?_perform (catalog : Catalog) (step : Registration) (table : String) :
    (catalog.perform step).2.text? table =
      match step.entry? with
      | some (name, text) => if name = table then some text else catalog.text? table
      | none => catalog.text? table := by
  rw [final_perform]
  cases step.entry? with
  | none => rfl
  | some entry => exact text?_register_eq catalog entry.1 entry.2 table

/-- **A run of registrations leaves the last text of each name.** -/
theorem text?_registerAll (steps : List Registration) (table : String) :
    (registerAll steps).2.text? table = Registration.lastText? steps table := by
  induction steps using List.reverseRecOn with
  | nil => rfl
  | append_singleton steps step ih =>
    rw [registerAll, final_concat, ← registerAll, text?_perform, ih, Registration.lastText?_concat]

/-! ### The questions -/

theorem statement_eq (catalog : Catalog) (table : String) :
    catalog.statement table =
      match catalog.text? table with
      | some text => .ok text
      | none => .error (.noStatement table) := by
  rw [statement, entry, text?]
  cases catalog.statements.get? table <;> rfl

theorem contains_eq (catalog : Catalog) (table : String) :
    catalog.contains table = (catalog.text? table).isSome := by
  rw [contains, NameMap.contains, text?, Option.isSome_map]

/-- The questions whether a name has a statement have one answer. -/
structure AnswersAlike (catalog : Catalog) (table : String) : Prop where
  fetched : catalog.contains table = true ↔ ∃ text, catalog.statement table = .ok text
  listed : catalog.contains table = true ↔ table ∈ catalog.tableNames

theorem answersAlike (catalog : Catalog) (table : String) : catalog.AnswersAlike table := by
  constructor
  · rw [contains_eq, statement_eq]
    cases catalog.text? table with
    | none => simp
    | some text => simp
  · rw [contains, NameMap.contains, tableNames, NameMap.mem_names_iff]

theorem increasing_tableNames (catalog : Catalog) :
    catalog.tableNames.Pairwise fun first second =>
      Utf8.encode first.toList < Utf8.encode second.toList := by
  have increasing : catalog.tableNames.Pairwise (· < ·) :=
    List.pairwise_map.mpr catalog.statements.increasing
  exact increasing.imp fun before => Utf8.encode_lt_encode (String.lt_iff.mp before)

/-- What the registrations answer, and how the catalog that they leave answers. -/
structure ServesAsMap (steps : List Registration) (answers : List (Option String))
    (catalog : Catalog) : Prop where
  /-- There is one answer for each registration. -/
  answered : answers.length = steps.length
  /-- A registration tells the text that it replaces, or the name that the statement gives. -/
  told : ∀ before step after, steps = before ++ step :: after →
    answers[before.length]? = some (Registration.answerAfter before step)
  /-- A statement that gives no name changes nothing. -/
  declined : ∀ statement, (Statement.ofText statement).tableName = none →
    catalog.insertStatement statement = (none, catalog)
  /-- Under each name there is the text that was registered last, or none. -/
  fetched : ∀ table, catalog.statement table =
    match Registration.lastText? steps table with
    | some text => .ok text
    | none => .error (.noStatement table)
  /-- A registration under another name changes nothing under this one. -/
  apart : ∀ step table, (∀ entry ∈ Registration.entry? step, entry.1 ≠ table) →
    (catalog.perform step).2.statement table = catalog.statement table
  alike : ∀ table, catalog.AnswersAlike table
  increasing : catalog.tableNames.Pairwise fun first second =>
    Utf8.encode first.toList < Utf8.encode second.toList
  /-- The listing does not depend on the order of the registrations. -/
  unordered : ∀ others : List Registration,
    (∀ table, (Registration.lastText? others table).isSome =
      (Registration.lastText? steps table).isSome) →
    (registerAll others).2.tableNames = catalog.tableNames

/-- **A run of registrations answers and leaves what a map from names to texts does.** -/
theorem registerAll_servesAsMap (steps : List Registration) :
    ServesAsMap steps (registerAll steps).1 (registerAll steps).2 := by
  refine ⟨length_answers _ _ _, ?told, ?declined, ?fetched, ?apart, answersAlike _,
    increasing_tableNames _, ?unordered⟩
  case told =>
    rintro before step after rfl
    rw [registerAll, getElem?_answers, ← registerAll]
    cases step with
    | underName table statement => exact congrArg some (text?_registerAll before table)
    | underHead statement =>
      simp only [perform, insertStatement, Registration.answerAfter]
      cases (Statement.ofText statement).tableName <;> rfl
  case declined =>
    intro statement nameless
    rw [insertStatement, nameless]
  case fetched =>
    intro table
    rw [statement_eq, text?_registerAll]
  case apart =>
    intro step table other
    rw [statement_eq, statement_eq, text?_perform]
    cases found : step.entry? with
    | none => rfl
    | some entry => simp only [if_neg (other entry found)]
  case unordered =>
    intro others same
    refine NameMap.names_eq_of_isSome fun table => ?_
    have left (catalog : Catalog) :
        (catalog.statements.get? table).isSome = (catalog.text? table).isSome := by
      rw [text?, Option.isSome_map]
    rw [left, left, text?_registerAll, text?_registerAll, same]

end Catalog

end SchemaDump
