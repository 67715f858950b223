/-
**A clause table is a last-wins map in order of first insertion.**

A run of insertions starts with the empty table. Each insertion answers the clause that its name had last
before it. The table that is left lists each inserted name once, where it was inserted first, with the
clause by which it was inserted last, and looks clauses up by an index of places that leads to no other
entry (`OrderedLastWins`).

The index fits the listing after every single insertion by the type of the table; what an insertion does
to the listing and to the clause of each name are `names_declare` and `clause?_declare`. The rest is
induction on the insertions, from the back: `names_ofList`, `clause?_ofList`.
-/

import Mathlib.Data.Finset.Card
import SchemaDump.Proofs.Answers
import SchemaDump.Proofs.Statement.ClauseTable

namespace SchemaDump

namespace ClauseTable

/-- Inserts the columns into the empty table, one after the other. -/
def insertAll (columns : List DeclaredColumn) : List (Option String) × ClauseTable :=
  runAll (fun table column => table.insert column.name column.clause) empty columns

/-- The clause with which the columns give the name last. -/
def lastClause? (columns : List DeclaredColumn) (name : String) : Option String :=
  ((columns.filter fun column => column.name == name).getLast?).map DeclaredColumn.clause

/-- What the insertions answer, and the table that they leave. -/
structure OrderedLastWins (columns : List DeclaredColumn) (answers : List (Option String))
    (table : ClauseTable) : Prop where
  /-- There is one answer for each insertion. -/
  answered : answers.length = columns.length
  /-- An insertion answers the clause that its name had last before. -/
  replaced : ∀ before column after, columns = before ++ column :: after →
    answers[before.length]? = some (lastClause? before column.name)
  /-- Each name is listed once, where it was inserted first. -/
  names : table.names = (columns.map DeclaredColumn.name).eraseDups
  /-- Each name is listed with the clause by which it was inserted last. -/
  clauses : ∀ entry ∈ table.entries, lastClause? columns entry.name = some entry.clause
  size : table.size = (columns.map DeclaredColumn.name).toFinset.card
  isEmpty : table.isEmpty = true ↔ columns = []
  /-- A listed name is found with its clause, and no other name is found. -/
  found : ∀ name clause, table.clause? name = some clause ↔ ⟨name, clause⟩ ∈ table.entries
  missing : ∀ name, table.clause? name = none ↔ name ∉ columns.map DeclaredColumn.name
  /-- The index leads into the listing, to the entry with the name. -/
  placed : ∀ name place, table.places.get? name = some place ↔
    ∃ clause, table.entries[place]? = some ⟨name, clause⟩

theorem final_insertAll (columns : List DeclaredColumn) : (insertAll columns).2 = ofList columns := by
  rw [insertAll, final_eq_foldl]
  rfl

theorem size_ofList (columns : List DeclaredColumn) :
    (ofList columns).size = (columns.map DeclaredColumn.name).toFinset.card := by
  have distinct : (ofList columns).names.Nodup := (ofList columns).distinct
  have counted : (ofList columns).names.length = (ofList columns).size := List.length_map _
  rw [← counted, ← List.toFinset_card_of_nodup distinct]
  congr 1
  ext name
  rw [List.mem_toFinset, names_ofList, List.mem_eraseDups, List.mem_toFinset]

theorem isEmpty_ofList {columns : List DeclaredColumn} :
    (ofList columns).isEmpty = true ↔ columns = [] := by
  have listed : (ofList columns).isEmpty = (ofList columns).names.isEmpty := List.isEmpty_map.symm
  rw [listed, names_ofList]
  cases columns with
  | nil => exact ⟨fun _ => rfl, fun _ => rfl⟩
  | cons column rest => simp [List.eraseDups_cons]

theorem clause?_eq_none_iff (table : ClauseTable) {name : String} :
    table.clause? name = none ↔ name ∉ table.names := by
  rw [names, List.mem_map, Option.eq_none_iff_forall_ne_some]
  constructor
  · rintro missing ⟨entry, listed, rfl⟩
    exact missing entry.clause (table.clause?_of_mem listed)
  · intro unlisted clause found
    exact unlisted ⟨_, table.clause?_eq_some_iff.mp found, rfl⟩

theorem places_eq_some_iff (table : ClauseTable) {name : String} {place : Nat} :
    table.places.get? name = some place ↔ ∃ clause, table.entries[place]? = some ⟨name, clause⟩ := by
  constructor
  · intro known
    obtain ⟨entry, found, rfl⟩ := table.exists_entry known
    exact ⟨entry.clause, found⟩
  · rintro ⟨clause, found⟩
    exact (table.indexed name place).mpr (by rw [List.getElem?_map, found, Option.map_some])

/-- **Runs of insertions answer and leave what a last-wins map in order of first insertion does.** -/
theorem insertAll_lastWins (columns : List DeclaredColumn) :
    OrderedLastWins columns (insertAll columns).1 (insertAll columns).2 := by
  have left := final_insertAll columns
  refine ⟨length_answers _ _ _, ?answers, ?_, ?clauses, ?_, ?_, ?_, ?missing, ?_⟩
  case answers =>
    rintro before column after rfl
    rw [insertAll, getElem?_answers, ← insertAll, final_insertAll before, insert,
      clause?_ofList, lastClause?]
  case clauses =>
    intro entry listed
    rw [lastClause?, ← clause?_ofList, ← left]
    exact clause?_of_mem _ listed
  case missing =>
    intro name
    rw [left, clause?_eq_none_iff, names_ofList, List.mem_eraseDups]
  · rw [left]
    exact names_ofList columns
  · rw [left]
    exact size_ofList columns
  · rw [left]
    exact isEmpty_ofList
  · exact fun name clause => clause?_eq_some_iff _
  · exact fun name place => places_eq_some_iff _

end ClauseTable

end SchemaDump
