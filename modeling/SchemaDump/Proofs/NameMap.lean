/-
**What a map made from a list of entries holds.**

* `find?_of_nodup`: where names are pairwise distinct, looking for the name of an entry finds that entry.
* `find?_perm`: and the order of the entries does not matter.
* `lookup_foldl`: after a run of puts, a lookup gives the value of the last one that hits.
* `get?_ofList`: under each name, the value of the last entry with that name.
* `get?_ofList_eq_some_iff`: where the names are pairwise distinct, exactly the entries of the list.
* `contains_ofList`: the names are those of the entries.
* `ext_get?`: a map is known by what it holds under each name.
* `ofList_perm`: entries with pairwise distinct names may be put in any order.
* `get?_merge`, `merge_put`: one map laid over another, one entry at a time or all at once.
* `get?_mapValues`, `names_mapValues`: the same names, each with the image of its value.
-/

import Mathlib.Data.List.Induction
import Mathlib.Data.List.Sort
import SchemaDump.NameMap

namespace SchemaDump

variable {α β : Type}

/-! ### Lookups in a list -/

/-- **A name that is given once leads to what it names.** -/
theorem find?_of_nodup {name : α → String} {entries : List α} (distinct : (entries.map name).Nodup)
    {entry : α} (listed : entry ∈ entries) :
    entries.find? (fun other => name other == name entry) = some entry := by
  induction entries with
  | nil => exact absurd listed List.not_mem_nil
  | cons first rest ih =>
    rw [List.map_cons, List.nodup_cons] at distinct
    rcases List.mem_cons.mp listed with rfl | later
    · exact List.find?_cons_of_pos (beq_self_eq_true (name entry))
    · have other : name first ≠ name entry := fun same => distinct.1 (same ▸ List.mem_map_of_mem later)
      rw [List.find?_cons_of_neg (by simpa using other), ih distinct.2 later]

theorem find?_eq_some_iff_of_nodup {name : α → String} {entries : List α}
    (distinct : (entries.map name).Nodup) {wanted : String} {entry : α} :
    entries.find? (fun other => name other == wanted) = some entry ↔
      entry ∈ entries ∧ name entry = wanted := by
  constructor
  · intro found
    exact ⟨List.mem_of_find?_eq_some found, by simpa using List.find?_some found⟩
  · rintro ⟨listed, rfl⟩
    exact find?_of_nodup distinct listed

/-- **Where each name is given once, the order of the entries does not matter.** -/
theorem find?_perm {name : α → String} {first second : List α} (perm : first.Perm second)
    (distinct : (first.map name).Nodup) (wanted : String) :
    first.find? (fun entry => name entry == wanted) =
      second.find? fun entry => name entry == wanted := by
  have other : (second.map name).Nodup := (perm.map name).nodup_iff.mp distinct
  ext entry
  rw [find?_eq_some_iff_of_nodup distinct, find?_eq_some_iff_of_nodup other, perm.mem_iff]

/-- A name that is given once is given last by the entry that gives it first. -/
theorem getLast?_filter_of_nodup {name : α → String} {entries : List α}
    (distinct : (entries.map name).Nodup) (wanted : String) :
    (entries.filter fun entry => name entry == wanted).getLast? =
      entries.find? fun entry => name entry == wanted := by
  rw [List.getLast?_filter]
  exact (find?_perm entries.reverse_perm.symm distinct wanted).symm

theorem getLast?_filter_perm {name : α → String} {first second : List α} (perm : first.Perm second)
    (distinct : (first.map name).Nodup) (wanted : String) :
    (first.filter fun entry => name entry == wanted).getLast? =
      (second.filter fun entry => name entry == wanted).getLast? := by
  have other : (second.map name).Nodup := (perm.map name).nodup_iff.mp distinct
  rw [getLast?_filter_of_nodup distinct, getLast?_filter_of_nodup other, find?_perm perm distinct]

/-- **After a run of puts, a lookup gives the value of the last one that hits,** or else what it gave
before. -/
theorem lookup_foldl {State : Type} (lookup : State → Option β) {put : State → α → State}
    {hits : α → Bool} {value : α → β}
    (lookup_put : ∀ state entry,
      lookup (put state entry) = if hits entry then some (value entry) else lookup state)
    (entries : List α) (state : State) :
    lookup (entries.foldl put state) =
      (((entries.filter hits).getLast?).map value).or (lookup state) := by
  induction entries using List.reverseRecOn with
  | nil => rfl
  | append_singleton entries entry ih =>
    rw [List.foldl_append, List.foldl_cons, List.foldl_nil, lookup_put, List.filter_append]
    cases hit : hits entry with
    | true => simp [hit]
    | false => simp [hit, ih]

/-! ### Maps made from lists -/

namespace NameMap

@[simp] theorem ofList_nil : (ofList [] : NameMap α) = empty := rfl

theorem ofList_concat (entries : List (String × α)) (name : String) (value : α) :
    ofList (entries ++ [(name, value)]) = (ofList entries).put name value := by
  rw [ofList, List.foldl_append]
  rfl

theorem get?_foldl_put (entries : List (String × α)) (map : NameMap α) (name : String) :
    (entries.foldl (fun map entry => map.put entry.1 entry.2) map).get? name =
      (((entries.filter fun entry => entry.1 == name).getLast?).map Prod.snd).or (map.get? name) := by
  refine lookup_foldl (fun map => map.get? name) (fun map entry => ?_) entries map
  simp only [get?_put, beq_iff_eq]

/-- **The last entry with a name gives its value.** -/
theorem get?_ofList (entries : List (String × α)) (name : String) :
    (ofList entries).get? name =
      ((entries.filter fun entry => entry.1 == name).getLast?).map Prod.snd := by
  rw [ofList, get?_foldl_put, get?_empty, Option.or_none]

theorem get?_ofList_eq_some_iff {entries : List (String × α)}
    (distinct : (entries.map Prod.fst).Nodup) (name : String) (value : α) :
    (ofList entries).get? name = some value ↔ (name, value) ∈ entries := by
  rw [get?_ofList, getLast?_filter_of_nodup distinct, Option.map_eq_some_iff]
  constructor
  · rintro ⟨⟨other, _⟩, found, rfl⟩
    obtain ⟨listed, rfl⟩ := (find?_eq_some_iff_of_nodup distinct).mp found
    exact listed
  · intro listed
    exact ⟨(name, value), find?_of_nodup distinct listed, rfl⟩

theorem nodup_names (map : NameMap α) : map.names.Nodup := by
  have apart : map.entries.Pairwise fun first second => first.1 ≠ second.1 :=
    map.increasing.imp String.ne_of_lt
  exact List.pairwise_map.mpr apart

theorem mem_entries_iff (map : NameMap α) {entry : String × α} :
    entry ∈ map.entries ↔ map.get? entry.1 = some entry.2 := by
  rw [get?, Option.map_eq_some_iff]
  constructor
  · intro listed
    exact ⟨entry, find?_of_nodup map.nodup_names listed, rfl⟩
  · rintro ⟨other, found, value⟩
    obtain ⟨listed, name⟩ := (find?_eq_some_iff_of_nodup map.nodup_names).mp found
    rwa [← Prod.ext name value]

theorem mem_names_iff (map : NameMap α) {name : String} :
    name ∈ map.names ↔ (map.get? name).isSome = true := by
  rw [names, List.mem_map, Option.isSome_iff_exists]
  constructor
  · rintro ⟨entry, listed, rfl⟩
    exact ⟨entry.2, map.mem_entries_iff.mp listed⟩
  · rintro ⟨value, found⟩
    exact ⟨(name, value), map.mem_entries_iff.mpr found, rfl⟩

/-- **The listing depends on nothing but which names have a value.** -/
theorem names_eq_of_isSome {first : NameMap α} {second : NameMap β}
    (same : ∀ name, (first.get? name).isSome = (second.get? name).isSome) :
    first.names = second.names := by
  have perm : first.names.Perm second.names := by
    refine (List.perm_ext_iff_of_nodup first.nodup_names second.nodup_names).mpr fun name => ?_
    rw [mem_names_iff, mem_names_iff, same]
  refine perm.eq_of_pairwise (fun name other _ _ before after => ?_)
    (List.pairwise_map.mpr first.increasing) (List.pairwise_map.mpr second.increasing)
  exact absurd (String.lt_trans before after) (String.lt_irrefl _)

/-- **A map is known by what it holds under each name.** -/
theorem ext_get? {first second : NameMap α} (same : ∀ name, first.get? name = second.get? name) :
    first = second := by
  have members : ∀ entry, entry ∈ first.entries ↔ entry ∈ second.entries := fun entry => by
    rw [mem_entries_iff, mem_entries_iff, same]
  have perm : first.entries.Perm second.entries :=
    (List.perm_ext_iff_of_nodup first.nodup_names.of_map second.nodup_names.of_map).mpr members
  have entries : first.entries = second.entries := by
    refine perm.eq_of_pairwise (fun entry other _ _ before after => ?_) first.increasing
      second.increasing
    exact absurd (String.lt_trans before after) (String.lt_irrefl _)
  cases first
  cases second
  congr

/-- **Entries with pairwise distinct names may be put in any order.** -/
theorem ofList_perm {first second : List (String × α)} (perm : first.Perm second)
    (distinct : (first.map Prod.fst).Nodup) : ofList first = ofList second := by
  apply ext_get?
  intro name
  rw [get?_ofList, get?_ofList, getLast?_filter_perm perm distinct]

/-! ### One map over another -/

/-- The first map with every entry of the second put into it. -/
def merge (first second : NameMap α) : NameMap α :=
  second.entries.foldl (fun map entry => map.put entry.1 entry.2) first

/-- **The second map counts where it holds a value, and the first map elsewhere.** -/
theorem get?_merge (first second : NameMap α) (name : String) :
    (first.merge second).get? name = (second.get? name).or (first.get? name) := by
  rw [merge, get?_foldl_put, getLast?_filter_of_nodup second.nodup_names]
  rfl

theorem merge_empty (map : NameMap α) : map.merge empty = map := rfl

/-- A put into the second map is a put into the merged one. -/
theorem merge_put (first second : NameMap α) (name : String) (value : α) :
    first.merge (second.put name value) = (first.merge second).put name value := by
  apply ext_get?
  intro other
  rw [get?_merge, get?_put, get?_put, get?_merge]
  split <;> rfl

/-! ### Images -/

theorem get?_mapValues (image : α → β) (map : NameMap α) (name : String) :
    (map.mapValues image).get? name = (map.get? name).map image := by
  rw [get?, mapValues, List.find?_map, Option.map_map, get?, Option.map_map]
  rfl

theorem names_mapValues (image : α → β) (map : NameMap α) :
    (map.mapValues image).names = map.names := by
  rw [names, mapValues, List.map_map]
  rfl

end NameMap

end SchemaDump
