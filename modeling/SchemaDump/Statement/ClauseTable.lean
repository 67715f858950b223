/-
**Columns and their clauses, in order of first declaration.**

A clause table lists each column name once, and keeps an index that tells where. Declaring a name again
replaces its clause and keeps its place; a new name goes to the end. The index fits the listing by the
type, so names that are pairwise distinct stay so.
-/

import SchemaDump.NameMap

namespace SchemaDump

/-- A column name, and the clause that declares the column. -/
structure DeclaredColumn where
  name : String
  clause : String
  deriving DecidableEq, Repr

/-- The entries with the clause of the one at the given place replaced. -/
def DeclaredColumn.replaceAt (place : Nat) (clause : String) (entries : List DeclaredColumn) :
    List DeclaredColumn :=
  entries.modify place fun entry => { entry with clause }

theorem DeclaredColumn.getElem?_replaceAt (place : Nat) (clause : String)
    (entries : List DeclaredColumn) (other : Nat) :
    (replaceAt place clause entries)[other]? =
      if place = other then entries[other]?.map fun entry => { entry with clause }
      else entries[other]? := by
  rw [replaceAt, List.getElem?_modify]
  split
  · rfl
  · cases entries[other]? <;> rfl

theorem DeclaredColumn.map_name_replaceAt (place : Nat) (clause : String)
    (entries : List DeclaredColumn) :
    (replaceAt place clause entries).map DeclaredColumn.name = entries.map DeclaredColumn.name := by
  apply List.ext_getElem?
  intro other
  rw [List.getElem?_map, getElem?_replaceAt, List.getElem?_map]
  split
  · cases entries[other]? <;> rfl
  · rfl

/-! ### The index -/

/-- The index tells where the names stand: a name has a place exactly if it stands there. -/
def Indexes (places : NameMap Nat) (names : List String) : Prop :=
  ∀ name place, places.get? name = some place ↔ names[place]? = some name

namespace Indexes

variable {places : NameMap Nat} {names : List String}

theorem nil : Indexes .empty [] := by
  intro name place
  simp

/-- **A name without a place goes to the end, and the index tells so.** -/
theorem concat (indexed : Indexes places names) {name : String} (fresh : places.get? name = none) :
    Indexes (places.put name names.length) (names ++ [name]) := by
  intro other place
  rw [NameMap.get?_put, List.getElem?_append]
  by_cases same : name = other
  · subst same
    have unlisted : names[place]? ≠ some name := fun listed =>
      Option.some_ne_none place (((indexed name place).mpr listed).symm.trans fresh)
    rw [if_pos rfl]
    split <;> grind
  · rw [if_neg same, indexed other place]
    split <;> grind

/-- **No name stands at two places.** -/
theorem nodup (indexed : Indexes places names) : names.Nodup := by
  rw [List.Nodup, List.pairwise_iff_getElem]
  intro first second inFirst inSecond before same
  have atFirst := (indexed names[first] first).mpr (List.getElem?_eq_getElem inFirst)
  have atSecond := (indexed names[second] second).mpr (List.getElem?_eq_getElem inSecond)
  rw [same, atSecond, Option.some.injEq] at atFirst
  exact absurd atFirst (Nat.ne_of_gt before)

theorem get?_eq_none_iff (indexed : Indexes places names) {name : String} :
    places.get? name = none ↔ name ∉ names := by
  rw [List.mem_iff_getElem?, Option.eq_none_iff_forall_ne_some]
  simp only [ne_eq, indexed name, not_exists]

end Indexes

/-! ### The table -/

/-- The declared columns, each name once, with an index of their places. -/
structure ClauseTable where
  entries : List DeclaredColumn := []
  places : NameMap Nat := .empty
  indexed : Indexes places (entries.map DeclaredColumn.name) := by exact Indexes.nil
  deriving DecidableEq

namespace ClauseTable

/-- The table without columns. -/
def empty : ClauseTable := {}

/-- The clause of a name, if it is declared: that of the entry at its place. -/
def clause? (table : ClauseTable) (name : String) : Option String := do
  let place ← table.places.get? name
  let entry ← table.entries[place]?
  pure entry.clause

/-- The number of declared names. -/
def size (table : ClauseTable) : Nat := table.entries.length

/-- Is no name declared? -/
def isEmpty (table : ClauseTable) : Bool := table.entries.isEmpty

/-- The table with the name declared by the clause, the clause before replaced. -/
def declare (table : ClauseTable) (name clause : String) : ClauseTable :=
  match known : table.places.get? name with
  | some place =>
    { entries := DeclaredColumn.replaceAt place clause table.entries
      places := table.places
      indexed := by
        rw [DeclaredColumn.map_name_replaceAt]
        exact table.indexed }
  | none =>
    { entries := table.entries ++ [⟨name, clause⟩]
      places := table.places.put name table.entries.length
      indexed := by
        have indexed := table.indexed.concat known
        rw [List.length_map] at indexed
        rw [List.map_append]
        exact indexed }

theorem distinct (table : ClauseTable) : (table.entries.map DeclaredColumn.name).Nodup :=
  table.indexed.nodup

@[simp] theorem clause?_empty (name : String) : empty.clause? name = none := rfl

/-- **The index leads to an entry, and to the one that has the name.** -/
theorem exists_entry (table : ClauseTable) {name : String} {place : Nat}
    (known : table.places.get? name = some place) :
    ∃ entry, table.entries[place]? = some entry ∧ entry.name = name := by
  have named := (table.indexed name place).mp known
  rwa [List.getElem?_map, Option.map_eq_some_iff] at named

/-- **A name has a clause exactly if it is listed with it.** -/
theorem clause?_eq_some_iff (table : ClauseTable) {name clause : String} :
    table.clause? name = some clause ↔ ⟨name, clause⟩ ∈ table.entries := by
  simp only [clause?, Option.bind_eq_bind, Option.bind_eq_some_iff, Option.pure_def, Option.some.injEq]
  constructor
  · rintro ⟨place, known, entry, found, rfl⟩
    obtain ⟨_, same, rfl⟩ := table.exists_entry known
    obtain rfl := Option.some.inj (found.symm.trans same)
    exact List.mem_of_getElem? found
  · intro listed
    obtain ⟨place, found⟩ := List.mem_iff_getElem?.mp listed
    have named : (table.entries.map DeclaredColumn.name)[place]? = some name := by
      rw [List.getElem?_map, found, Option.map_some]
    exact ⟨place, (table.indexed name place).mpr named, _, found, rfl⟩

/-- A declaration shows under its name and nowhere else. -/
theorem clause?_declare (table : ClauseTable) (name clause other : String) :
    (table.declare name clause).clause? other =
      if name = other then some clause else table.clause? other := by
  unfold declare
  split
  · next place known =>
    obtain ⟨entry, found, -⟩ := table.exists_entry known
    simp only [clause?, DeclaredColumn.getElem?_replaceAt]
    by_cases same : name = other
    · subst same
      simp [known, found]
    · rw [if_neg same]
      cases elsewhere : table.places.get? other with
      | none => rfl
      | some place' =>
        have apart : place ≠ place' := by
          rintro rfl
          have both := ((table.indexed name place).mp known).symm.trans
            ((table.indexed other place).mp elsewhere)
          exact same (Option.some.inj both)
        simp [apart]
  · next fresh =>
    simp only [clause?, NameMap.get?_put]
    by_cases same : name = other
    · simp [same]
    · rw [if_neg same, if_neg same]
      cases elsewhere : table.places.get? other with
      | none => rfl
      | some place =>
        obtain ⟨entry, found, -⟩ := table.exists_entry elsewhere
        have inside := (List.getElem?_eq_some_iff.mp found).1
        simp [List.getElem?_append_left inside]

/-- Declares a name, and tells the clause that was replaced. -/
def insert (table : ClauseTable) (name clause : String) : Option String × ClauseTable :=
  (table.clause? name, table.declare name clause)

end ClauseTable

end SchemaDump
