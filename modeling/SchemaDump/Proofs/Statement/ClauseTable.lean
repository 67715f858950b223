/-
**What a clause table made by declarations holds.**

Declaring columns one after the other lists every name once, where it was declared first, with the clause
by which it was declared last:

* `names_ofList`, `clause?_ofList`: the listing, and the clause of each name;
* `entries_ofList`: pairwise distinct names are listed as they were declared;
* `ext_clause?`: a table is known by its listing and by the clause of each name;
* `names_merge`, `clause?_merge`, `merge_declare`: the columns of one table declared in another.
-/

import SchemaDump.Proofs.NameMap
import SchemaDump.Statement.ClauseTable

namespace SchemaDump

/-! ### Lists without repetitions -/

section Repetitions

variable {α : Type} [BEq α] [LawfulBEq α]

theorem eraseDups_concat (items : List α) (item : α) :
    (items ++ [item]).eraseDups =
      if item ∈ items then items.eraseDups else items.eraseDups ++ [item] := by
  rw [List.eraseDups_append]
  by_cases known : item ∈ items
  · simp [known, List.removeAll]
  · simp [known, List.removeAll, List.eraseDups_cons]

theorem eraseDups_of_nodup {items : List α} (distinct : items.Nodup) : items.eraseDups = items := by
  induction items using List.reverseRecOn with
  | nil => rfl
  | append_singleton items item ih =>
    rw [List.nodup_append] at distinct
    obtain ⟨before, -, apart⟩ := distinct
    have fresh : item ∉ items := fun known => apart item known item (by simp) rfl
    rw [eraseDups_concat, if_neg fresh, ih before]

end Repetitions

namespace ClauseTable

/-- The table that the declarations make, one after the other. -/
def ofList (columns : List DeclaredColumn) : ClauseTable :=
  columns.foldl (fun table column => table.declare column.name column.clause) empty

/-- The declared names, in the order of the listing. -/
def names (table : ClauseTable) : List String := table.entries.map DeclaredColumn.name

theorem ofList_concat (columns : List DeclaredColumn) (column : DeclaredColumn) :
    ofList (columns ++ [column]) = (ofList columns).declare column.name column.clause := by
  rw [ofList, List.foldl_append]
  rfl

theorem places_eq_none_iff (table : ClauseTable) {name : String} :
    table.places.get? name = none ↔ name ∉ table.names :=
  table.indexed.get?_eq_none_iff

theorem entries_declare_of_fresh (table : ClauseTable) {name : String} (fresh : name ∉ table.names)
    (clause : String) : (table.declare name clause).entries = table.entries ++ [⟨name, clause⟩] := by
  unfold declare
  split
  · next known =>
    rw [table.places_eq_none_iff.mpr fresh] at known
    exact absurd known (Option.some_ne_none _).symm
  · rfl

theorem names_declare (table : ClauseTable) (name clause : String) :
    (table.declare name clause).names =
      if name ∈ table.names then table.names else table.names ++ [name] := by
  by_cases fresh : name ∉ table.names
  · rw [if_neg fresh, names, entries_declare_of_fresh table fresh, List.map_append]
    rfl
  · rw [if_pos (not_not.mp fresh)]
    unfold declare
    split
    · exact DeclaredColumn.map_name_replaceAt _ clause table.entries
    · next absent => exact absurd (table.places_eq_none_iff.mp absent) fresh

/-- A listed column has the clause it is listed with. -/
theorem clause?_of_mem (table : ClauseTable) {entry : DeclaredColumn} (listed : entry ∈ table.entries) :
    table.clause? entry.name = some entry.clause :=
  table.clause?_eq_some_iff.mpr listed

/-- **The index finds what a search of the listing finds.** -/
theorem clause?_eq_find? (table : ClauseTable) (name : String) :
    table.clause? name =
      (table.entries.find? fun entry => entry.name == name).map DeclaredColumn.clause := by
  ext clause
  rw [clause?_eq_some_iff, Option.map_eq_some_iff]
  constructor
  · intro listed
    exact ⟨⟨name, clause⟩, find?_of_nodup table.distinct listed, rfl⟩
  · rintro ⟨entry, found, rfl⟩
    obtain ⟨listed, rfl⟩ := (find?_eq_some_iff_of_nodup table.distinct).mp found
    exact listed

/-- **A table is known by its listing.** -/
theorem ext_entries {first second : ClauseTable} (entries : first.entries = second.entries) :
    first = second := by
  have places : first.places = second.places := by
    apply NameMap.ext_get?
    intro name
    ext place
    rw [first.indexed name place, second.indexed name place, entries]
  cases first
  cases second
  congr

/-! ### Declarations one after the other -/

theorem names_foldl_declare (columns : List DeclaredColumn) (table : ClauseTable) :
    (columns.foldl (fun table column => table.declare column.name column.clause) table).names =
      (table.names ++ columns.map DeclaredColumn.name).eraseDups := by
  induction columns using List.reverseRecOn with
  | nil =>
    have distinct : table.names.Nodup := table.distinct
    rw [List.map_nil, List.append_nil, eraseDups_of_nodup distinct, List.foldl_nil]
  | append_singleton columns column ih =>
    rw [List.foldl_append, List.foldl_cons, List.foldl_nil, names_declare, ih, List.map_append,
      ← List.append_assoc, List.map_singleton, eraseDups_concat]
    simp only [List.mem_eraseDups]

theorem clause?_foldl_declare (columns : List DeclaredColumn) (table : ClauseTable) (name : String) :
    (columns.foldl (fun table column => table.declare column.name column.clause) table).clause? name =
      (((columns.filter fun column => column.name == name).getLast?).map DeclaredColumn.clause).or
        (table.clause? name) := by
  refine lookup_foldl (fun table => table.clause? name) (fun table column => ?_) columns table
  simp only [clause?_declare, beq_iff_eq]

/-- **Every name is listed once, where it was declared first.** -/
theorem names_ofList (columns : List DeclaredColumn) :
    (ofList columns).names = (columns.map DeclaredColumn.name).eraseDups :=
  names_foldl_declare columns empty

/-- **Every name has the clause by which it was declared last.** -/
theorem clause?_ofList (columns : List DeclaredColumn) (name : String) :
    (ofList columns).clause? name =
      ((columns.filter fun column => column.name == name).getLast?).map DeclaredColumn.clause := by
  rw [ofList, clause?_foldl_declare, clause?_empty, Option.or_none]

/-- The clauses of distinct names do not depend on the order of the declarations. -/
theorem clause?_ofList_perm {first second : List DeclaredColumn} (perm : first.Perm second)
    (distinct : (first.map DeclaredColumn.name).Nodup) (name : String) :
    (ofList first).clause? name = (ofList second).clause? name := by
  rw [clause?_ofList, clause?_ofList, getLast?_filter_perm perm distinct]

/-- **Distinct names are listed as they were declared.** -/
theorem entries_ofList {columns : List DeclaredColumn}
    (distinct : (columns.map DeclaredColumn.name).Nodup) : (ofList columns).entries = columns := by
  induction columns using List.reverseRecOn with
  | nil => rfl
  | append_singleton columns column ih =>
    rw [List.map_append, List.nodup_append] at distinct
    obtain ⟨before, -, apart⟩ := distinct
    have fresh : column.name ∉ columns.map DeclaredColumn.name := fun known =>
      apart column.name known column.name (by simp) rfl
    have unlisted : column.name ∉ (ofList columns).names := by rwa [names, ih before]
    rw [ofList_concat, entries_declare_of_fresh _ unlisted, ih before]

theorem entries_eq_map_names (table : ClauseTable) :
    table.entries = table.names.map fun name => ⟨name, (table.clause? name).getD ""⟩ := by
  rw [names, List.map_map]
  refine (List.map_id table.entries).symm.trans (List.map_congr_left fun entry listed => ?_)
  rw [Function.comp_apply, table.clause?_of_mem listed]
  rfl

/-- **A table is known by its listing and by the clause of each name.** -/
theorem ext_clause? {first second : ClauseTable} (names : first.names = second.names)
    (clauses : ∀ name, first.clause? name = second.clause? name) : first = second := by
  apply ext_entries
  rw [entries_eq_map_names, entries_eq_map_names second, names]
  simp only [clauses]

/-! ### The columns of another table -/

/-- The first table with the columns of the second declared in it, one after the other. -/
def merge (first second : ClauseTable) : ClauseTable :=
  second.entries.foldl (fun table column => table.declare column.name column.clause) first

/-- **The columns of the second table stand behind those of the first, if they are new.** -/
theorem names_merge (first second : ClauseTable) :
    (first.merge second).names = (first.names ++ second.names).eraseDups :=
  names_foldl_declare second.entries first

/-- **A clause of the second table counts more than one of the first.** -/
theorem clause?_merge (first second : ClauseTable) (name : String) :
    (first.merge second).clause? name = (second.clause? name).or (first.clause? name) := by
  rw [merge, clause?_foldl_declare, getLast?_filter_of_nodup second.distinct, ← clause?_eq_find?]

theorem merge_empty (table : ClauseTable) : table.merge empty = table := rfl

/-- A declaration in the second table is a declaration in the merged one. -/
theorem merge_declare (first second : ClauseTable) (name clause : String) :
    first.merge (second.declare name clause) = (first.merge second).declare name clause := by
  apply ext_clause?
  · rw [names_merge, names_declare, names_declare, names_merge]
    by_cases known : name ∈ second.names
    · simp [known]
    · rw [if_neg known, ← List.append_assoc, eraseDups_concat]
      simp only [List.mem_eraseDups]
  · intro other
    rw [clause?_merge, clause?_declare, clause?_declare, clause?_merge]
    split <;> rfl

end ClauseTable

end SchemaDump
