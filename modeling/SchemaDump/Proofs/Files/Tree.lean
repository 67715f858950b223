/-
**The files of a tree.**

The files below a directory are listed entry by entry. `Holds` says where a file stands without a listing:
the names lead to it, step by step.

* `mem_filesBelow`: exactly the files that a tree holds are listed;
* `WellNamed.nodup_filesBelow`: where no directory has a name twice, each is listed once;
* `SameTree.perm_filesBelow`: the order in which directories list their entries, at whatever depth, changes
  nothing but the order of the listing.
-/

import Mathlib.Data.List.Nodup
import SchemaDump.Files.Tree
import SchemaDump.Proofs.Files.Path

namespace SchemaDump

namespace FileEntry

/-- The names lead from the entry to a file with the content. -/
inductive Holds : FileEntry → List String → List UInt8 → Prop
  | file (content : List UInt8) : Holds (.file content) [] content
  | directory {entries : List (String × FileEntry)} {name : String} {entry : FileEntry}
      {names : List String} {content : List UInt8} (listed : (name, entry) ∈ entries)
      (below : Holds entry names content) : Holds (.directory entries) (name :: names) content

/-- In every directory the entries have names, and no two the same. -/
inductive WellNamed : FileEntry → Prop
  | file (content : List UInt8) : WellNamed (.file content)
  | directory {entries : List (String × FileEntry)} (names : ∀ name ∈ entries.map Prod.fst, IsName name)
      (distinct : (entries.map Prod.fst).Nodup)
      (below : ∀ name entry, (name, entry) ∈ entries → WellNamed entry) : WellNamed (.directory entries)

/-- The trees differ at most in the order in which directories list their entries. -/
inductive SameTree : FileEntry → FileEntry → Prop
  | refl (entry : FileEntry) : SameTree entry entry
  | permuted {entries others : List (String × FileEntry)} (perm : entries.Perm others) :
      SameTree (.directory entries) (.directory others)
  | inside (before : List (String × FileEntry)) (name : String) {entry other : FileEntry}
      (after : List (String × FileEntry)) (same : SameTree entry other) :
      SameTree (.directory (before ++ (name, entry) :: after))
        (.directory (before ++ (name, other) :: after))
  | trans {first second third : FileEntry} (before : SameTree first second)
      (after : SameTree second third) : SameTree first third

/-! ### The listing -/

/-- The files at or below an entry that has a name, each with this name in front. -/
def filesUnder (entry : String × FileEntry) : List (List String × List UInt8) :=
  entry.2.filesBelow.map fun file => (entry.1 :: file.1, file.2)

theorem filesBelow_directory (entries : List (String × FileEntry)) :
    (directory entries).filesBelow = entries.flatMap filesUnder := by
  rw [filesBelow]
  induction entries with
  | nil => rw [filesAmong, List.flatMap_nil]
  | cons entry rest ih =>
    rw [filesAmong, ih, List.flatMap_cons]
    rfl

theorem mem_filesBelow_directory {entries : List (String × FileEntry)} {names : List String}
    {content : List UInt8} :
    (names, content) ∈ (directory entries).filesBelow ↔
      ∃ name entry rest, (name, entry) ∈ entries ∧ (rest, content) ∈ entry.filesBelow ∧
        name :: rest = names := by
  rw [filesBelow_directory, List.mem_flatMap]
  simp only [filesUnder, List.mem_map, Prod.exists, Prod.mk.injEq]
  constructor
  · rintro ⟨name, entry, listed, rest, _, below, rfl, rfl⟩
    exact ⟨name, entry, rest, listed, below, rfl⟩
  · rintro ⟨name, entry, rest, listed, below, rfl⟩
    exact ⟨name, entry, listed, rest, content, below, rfl, rfl⟩

/-- **Exactly the files that a tree holds are listed.** -/
theorem mem_filesBelow {entry : FileEntry} {names : List String} {content : List UInt8} :
    (names, content) ∈ entry.filesBelow ↔ entry.Holds names content := by
  constructor
  · intro listed
    induction names generalizing entry with
    | nil =>
      cases entry with
      | file bytes =>
        simp only [filesBelow, List.mem_singleton, Prod.mk.injEq, true_and] at listed
        exact listed ▸ .file bytes
      | directory entries =>
        obtain ⟨_, _, _, _, _, same⟩ := mem_filesBelow_directory.mp listed
        exact nomatch same
    | cons name rest ih =>
      cases entry with
      | file bytes => simp [filesBelow] at listed
      | directory entries =>
        obtain ⟨_, inner, _, known, below, ⟨⟩⟩ := mem_filesBelow_directory.mp listed
        exact .directory known (ih below)
  · intro holds
    induction holds with
    | file content => simp [filesBelow]
    | directory listed _ ih => exact mem_filesBelow_directory.mpr ⟨_, _, _, listed, ih, rfl⟩

/-! ### Names -/

/-- The names that lead to a file are names. -/
theorem WellNamed.isName_of_holds {entry : FileEntry} (named : entry.WellNamed) {names : List String}
    {content : List UInt8} (holds : entry.Holds names content) : ∀ name ∈ names, IsName name := by
  induction holds with
  | file => exact nofun
  | directory listed _ ih =>
    obtain - | ⟨names, -, below⟩ := named
    exact List.forall_mem_cons.mpr ⟨names _ (List.mem_map_of_mem listed), ih (below _ _ listed)⟩

/-- **Where no directory has a name twice, every file is listed once.** -/
theorem WellNamed.nodup_filesBelow {entry : FileEntry} (named : entry.WellNamed) :
    (entry.filesBelow.map Prod.fst).Nodup := by
  induction named with
  | file content => simp [filesBelow]
  | directory names distinct below ih =>
    next entries =>
    rw [filesBelow_directory, List.map_flatMap, List.nodup_flatMap]
    constructor
    · rintro ⟨name, entry⟩ listed
      have apart := (ih name entry listed).map (List.cons_injective (a := name))
      rw [List.map_map] at apart
      rw [filesUnder, List.map_map]
      exact apart
    · refine (List.pairwise_map.mp distinct).imp fun other => ?_
      simp only [Function.onFun, filesUnder, List.map_map]
      -- Two listings have no file in common, as the first names differ.
      intro names first second
      obtain ⟨_, -, rfl⟩ := List.mem_map.mp first
      obtain ⟨_, -, same⟩ := List.mem_map.mp second
      exact other (List.cons.inj same).1.symm

/-! ### The order of listing -/

/-- **The order in which directories list their entries changes nothing but the order of the files.** -/
theorem SameTree.perm_filesBelow {first second : FileEntry} (same : SameTree first second) :
    first.filesBelow.Perm second.filesBelow := by
  induction same with
  | refl entry => exact .refl _
  | permuted perm =>
    rw [filesBelow_directory, filesBelow_directory]
    exact perm.flatMap_right filesUnder
  | inside before name after _ ih =>
    simp only [filesBelow_directory, List.flatMap_append, List.flatMap_cons]
    exact (List.Perm.refl _).append ((ih.map _).append_right _)
  | trans _ _ first second => exact first.trans second

end FileEntry

end SchemaDump
