/-
**The statement files of a directory.**

* `NamesBefore`: the order of the answer, name by name; of two different lists of names one is before the
  other and the other is not before it (`NamesBefore.asymm`, `NamesBefore.trichotomous`);
* `mem_statementFiles`: exactly the files below the directory with the extension and with a relative path
  that the pattern admits are found;
* `pairwise_statementFiles`: each is found once, in order;
* `statementFiles_of_sameTree`: in whatever order directories list their entries;
* `Selects`: without a pattern all relative paths are admitted, and with one those that match it;
* **`findStatements_directory`** reads all this off the answer that a path to a directory gets.
-/

import Mathlib.Data.List.Sort
import SchemaDump.Files.Discovery
import SchemaDump.NameMap
import SchemaDump.Proofs.Files.Tree
import SchemaDump.Proofs.Text.Utf8

namespace SchemaDump

open SchemaDump.Text

/-! ### The order of the answer -/

section Order

/-- The first name that differs is less, or all names are the first ones of the other list. -/
def NamesBefore (first second : List String) : Prop := List.Lex (· < ·) first second

variable {first second third : List String}

theorem NamesBefore.trans (before : NamesBefore first second) (after : NamesBefore second third) :
    NamesBefore first third :=
  List.lex_trans String.lt_trans before after

theorem NamesBefore.asymm (before : NamesBefore first second) : ¬ NamesBefore second first :=
  List.lex_asymm String.lt_asymm before

theorem NamesBefore.trichotomous (notBefore : ¬ NamesBefore first second)
    (notAfter : ¬ NamesBefore second first) : first = second :=
  List.lex_trichotomous (fun _ _ before after => String.le_antisymm after before) notAfter notBefore

/-- The test that sorts is true unless the second list is before the first. -/
theorem not_lex_iff :
    (!second.lex first fun name other => decide (name < other)) = true ↔ ¬ NamesBefore second first := by
  rw [Bool.not_eq_true', ← Bool.not_eq_true, List.lex_eq_true_iff_lex]
  simp only [decide_eq_true_eq, NamesBefore]

variable (names : List (List String))

theorem pairwise_mergeSort_names :
    (names.mergeSort fun first second => !second.lex first fun name other => decide (name < other)).Pairwise
      fun first second => ¬ NamesBefore second first := by
  refine (List.pairwise_mergeSort ?_ ?_ names).imp not_lex_iff.mp
  · intro first second third firstSecond secondThird
    rw [not_lex_iff] at *
    intro thirdFirst
    -- The second would be first of all, so it is before the third, or the third itself.
    by_cases secondFirst : NamesBefore second third
    · exact firstSecond (secondFirst.trans thirdFirst)
    · exact firstSecond (NamesBefore.trichotomous secondFirst secondThird ▸ thirdFirst)
  · intro first second
    rw [Bool.or_eq_true, not_lex_iff, not_lex_iff]
    by_cases before : NamesBefore second first
    · exact .inr before.asymm
    · exact .inl before

/-- Lists that differ in order alone are sorted alike. -/
theorem mergeSort_names_of_perm {others : List (List String)} (perm : names.Perm others) :
    (names.mergeSort fun first second => !second.lex first fun name other => decide (name < other)) =
      others.mergeSort fun first second => !second.lex first fun name other => decide (name < other) := by
  refine List.Perm.eq_of_pairwise (fun _ _ _ _ notAfter notBefore => ?_) (pairwise_mergeSort_names names)
    (pairwise_mergeSort_names others) ?_
  · exact NamesBefore.trichotomous notBefore notAfter
  · exact (names.mergeSort_perm _).trans (perm.trans (others.mergeSort_perm _).symm)

end Order

/-! ### The files that are found -/

section Found

/-- The names lead to a file with the extension, and the pattern admits them. -/
structure IsStatementFile (top : FileEntry) (admits : String → Bool) (names : List String) : Prop where
  present : ∃ content, top.Holds names content
  extension : ∃ above stem, stem ≠ "" ∧ names = above ++ [stem ++ ".sql"]
  admitted : admits ("/".intercalate names) = true

variable {top : FileEntry} {admits : String → Bool} {names : List String}

theorem getLast?_any_hasExtension :
    names.getLast?.any (hasExtension "sql") = true ↔
      ∃ above stem, stem ≠ "" ∧ names = above ++ [stem ++ ".sql"] := by
  have noPoint : '.' ∉ "sql".toList := by decide
  rw [Option.any_eq_true]
  constructor
  · rintro ⟨name, last, extended⟩
    obtain ⟨above, split⟩ := List.getLast?_eq_some_iff.mp last
    obtain ⟨stem, some, rfl⟩ := (hasExtension_iff noPoint).mp extended
    exact ⟨above, stem, some, by rw [split, String.append_assoc]; rfl⟩
  · rintro ⟨above, stem, some, rfl⟩
    refine ⟨stem ++ ".sql", List.getLast?_concat, (hasExtension_iff noPoint).mpr ⟨stem, some, ?_⟩⟩
    rw [String.append_assoc]
    rfl

/-- **Exactly the statement files are found.** -/
theorem mem_statementFiles : names ∈ statementFiles top admits ↔ IsStatementFile top admits names := by
  rw [statementFiles, List.mem_mergeSort, List.mem_filter, Bool.and_eq_true, getLast?_any_hasExtension]
  have listed : names ∈ top.filesBelow.map Prod.fst ↔ ∃ content, top.Holds names content := by
    simp [FileEntry.mem_filesBelow]
  rw [listed]
  exact ⟨fun ⟨present, extension, admitted⟩ => ⟨present, extension, admitted⟩,
    fun ⟨present, extension, admitted⟩ => ⟨present, extension, admitted⟩⟩

/-- **Each statement file is found once, in order.** -/
theorem pairwise_statementFiles (named : top.WellNamed) (admits : String → Bool) :
    (statementFiles top admits).Pairwise NamesBefore := by
  have sorted := pairwise_mergeSort_names ((top.filesBelow.map Prod.fst).filter fun names =>
    names.getLast?.any (hasExtension "sql") && admits ("/".intercalate names))
  have once : (statementFiles top admits).Nodup :=
    (List.mergeSort_perm _ _).nodup_iff.mpr (named.nodup_filesBelow.filter _)
  refine (sorted.and once).imp fun {first second} both => ?_
  by_contra notBefore
  exact both.2 (NamesBefore.trichotomous notBefore both.1)

/-- **The order in which directories list their entries changes nothing.** -/
theorem statementFiles_of_sameTree {other : FileEntry} (same : top.SameTree other)
    (admits : String → Bool) : statementFiles top admits = statementFiles other admits :=
  mergeSort_names_of_perm _ ((same.perm_filesBelow.map _).filter _)

end Found

/-! ### The paths of the answer -/

section Paths

/-- The first component that differs has lesser bytes, or all components are the first ones of the other
path. -/
def Path.Before (first second : Path) : Prop :=
  List.Lex (fun component other => Utf8.encode component.toList < Utf8.encode other.toList)
    first.components second.components

theorem Path.Before.ne {first second : Path} (before : first.Before second) : first ≠ second := by
  rintro rfl
  exact List.lex_irrefl (fun component => List.lt_irrefl (Utf8.encode component.toList)) _ before

theorem lex_append_of_namesBefore {first second : List String} (before : NamesBefore first second)
    (above : List String) :
    List.Lex (fun component other => Utf8.encode component.toList < Utf8.encode other.toList)
      (above ++ first) (above ++ second) := by
  induction above with
  | nil =>
    induction before with
    | nil => exact .nil
    | rel less => exact .rel (Utf8.encode_lt_encode (String.lt_iff.mp less))
    | cons _ ih => exact .cons ih
  | cons _ _ ih => exact .cons ih

/-- The names that lead to a statement file are names, and there are some. -/
theorem IsStatementFile.named {top : FileEntry} {admits : String → Bool} {names : List String}
    (found : IsStatementFile top admits names) (named : top.WellNamed) :
    names ≠ [] ∧ ∀ name ∈ names, IsName name := by
  obtain ⟨_, holds⟩ := found.present
  obtain ⟨above, stem, -, last⟩ := found.extension
  exact ⟨by simp [last], named.isName_of_holds holds⟩

/-- The paths of statement files are in the order of the names that lead there. -/
theorem pairwise_below {top : FileEntry} (named : top.WellNamed) (admits : String → Bool) (path : Path) :
    ((statementFiles top admits).map path.below).Pairwise Path.Before := by
  refine List.pairwise_map.mpr
    ((pairwise_statementFiles named admits).imp_of_mem fun {first second} inFirst inSecond before => ?_)
  obtain ⟨firstSome, firstNamed⟩ := (mem_statementFiles.mp inFirst).named named
  obtain ⟨secondSome, secondNamed⟩ := (mem_statementFiles.mp inSecond).named named
  rw [Path.Before, Path.components_below path firstSome firstNamed,
    Path.components_below path secondSome secondNamed]
  exact lex_append_of_namesBefore before path.components

end Paths

/-! ### The answer -/

/-- **What a pattern admits**: without one, every relative path, and with one, those that match it. -/
inductive Selects : (pattern : Option String) → (admits : String → Bool) → Prop
  | every : Selects none fun _ => true
  | matching {text : String} {pattern : Pattern} (valid : Pattern.ofText text = .ok pattern) :
    Selects (some text) pattern.admits

theorem includeTest_eq_ok {pattern : Option String} {admits : String → Bool}
    (selects : Selects pattern admits) : includeTest pattern = .ok admits := by
  cases selects with
  | every => rfl
  | matching valid =>
    rw [includeTest, valid]
    rfl

theorem findStatements_eq {files : FileSystem} {path : Path} {entries : List (String × FileEntry)}
    (found : files.find path = .ok (.directory entries)) {pattern : Option String}
    {admits : String → Bool} (selects : Selects pattern admits) :
    findStatements files path pattern =
      if (statementFiles (.directory entries) admits).map path.below = [] then
        .error (.files (.noFiles path.text))
      else .ok ((statementFiles (.directory entries) admits).map path.below) := by
  simp only [findStatements, found, includeTest_eq_ok selects, Except.mapError, List.map_eq_nil_iff]
  simp [bind, Except.bind]

/-- **A path to a directory gets exactly the statement files below it, each once, in order.** These are the
files at any depth with a name that is a stem and the extension, and with a relative path that matches the
pattern, if there is one. The answer fails for want of files exactly if there is none, and it is the same in whatever order
directories list their entries. -/
theorem findStatements_directory {files : FileSystem} {path : Path}
    {entries : List (String × FileEntry)} (found : files.find path = .ok (.directory entries))
    (named : (FileEntry.directory entries).WellNamed) {pattern : Option String}
    {admits : String → Bool} (selects : Selects pattern admits) :
    ∃ paths,
      findStatements files path pattern =
        (if paths = [] then .error (.files (.noFiles path.text)) else .ok paths) ∧
      (∀ other, other ∈ paths ↔
        ∃ names, IsStatementFile (.directory entries) admits names ∧ path.below names = other) ∧
      paths.Pairwise Path.Before ∧
      paths.Nodup ∧
      (findStatements files path pattern = .error (.files (.noFiles path.text)) ↔
        ¬ ∃ names, IsStatementFile (.directory entries) admits names) ∧
      ∀ (others : FileSystem) (listed : List (String × FileEntry)),
        others.find path = .ok (.directory listed) →
        (FileEntry.directory entries).SameTree (.directory listed) →
        findStatements others path pattern = findStatements files path pattern := by
  have answer := findStatements_eq found selects
  have increasing := pairwise_below named admits path
  refine ⟨(statementFiles (.directory entries) admits).map path.below, answer, fun other => ?_, increasing,
    increasing.imp Path.Before.ne, ?_, fun others listed foundThere same => ?_⟩
  · simp only [List.mem_map, mem_statementFiles]
  · rw [answer]
    have none : (statementFiles (.directory entries) admits).map path.below = [] ↔
        ¬ ∃ names, IsStatementFile (.directory entries) admits names := by
      rw [List.map_eq_nil_iff, List.eq_nil_iff_forall_not_mem]
      simp only [mem_statementFiles, not_exists]
    rw [← none]
    split
    · next empty => simp [empty]
    · next some => simp [some]
  · rw [answer, findStatements_eq foundThere selects, statementFiles_of_sameTree same]

/-- A directory with a hidden name, and with a directory in it. -/
def nestedEntries : List (String × FileEntry) :=
  [("b.sql", .file []), ("a.sql", .file []), (".sql", .file []), ("a", .directory [("c.d.sql", .file [])])]

theorem wellNamed_nestedEntries : (FileEntry.directory nestedEntries).WellNamed := by
  have inner : (FileEntry.directory [("c.d.sql", .file [])]).WellNamed := by
    refine .directory ?_ (by decide) ?_
    · simpa using IsName.mk (by decide) (by decide) (by decide)
    · simpa using .file []
  refine .directory ?_ (by decide) ?_
  · simp only [nestedEntries, List.map_cons, List.map_nil, List.forall_mem_cons]
    exact ⟨⟨by decide, by decide, by decide⟩, ⟨by decide, by decide, by decide⟩,
      ⟨by decide, by decide, by decide⟩, ⟨by decide, by decide, by decide⟩, nofun⟩
  · rintro name entry listed
    simp only [nestedEntries, List.mem_cons, Prod.mk.injEq, List.not_mem_nil, or_false] at listed
    rcases listed with ⟨-, rfl⟩ | ⟨-, rfl⟩ | ⟨-, rfl⟩ | ⟨-, rfl⟩
    · exact .file []
    · exact .file []
    · exact .file []
    · exact inner

/-- The paths that start with the letter `a`. -/
def startsWithA : Pattern := ⟨[.char 'a', .anyText]⟩

theorem ofText_startsWithA : Pattern.ofText "a*" = .ok startsWithA := by
  decide +kernel

theorem statementFiles_nestedEntries :
    statementFiles (.directory nestedEntries) startsWithA.admits = [["a", "c.d.sql"], ["a.sql"]] := by
  have names : ((FileEntry.directory nestedEntries).filesBelow.map Prod.fst).filter (fun names =>
      names.getLast?.any (hasExtension "sql") && startsWithA.admits ("/".intercalate names)) =
        [["a.sql"], ["a", "c.d.sql"]] := by
    decide +kernel
  rw [statementFiles, names, mergeSort_names_of_perm _ (List.Perm.swap ["a", "c.d.sql"] ["a.sql"] [])]
  exact List.mergeSort_of_pairwise (by decide)

/-- The file of the inner directory comes first, although the text of its path is the greater one. One file
with the extension does not match the pattern. -/
theorem findStatements_directory_nested :
    ∃ paths,
      findStatements (.ofEntry ⟨"d"⟩ (.directory nestedEntries)) ⟨"d"⟩ (some "a*") = .ok paths ∧
      paths = [⟨"d/a/c.d.sql"⟩, ⟨"d/a.sql"⟩] ∧
      paths.Pairwise Path.Before ∧ "d/a.sql" < "d/a/c.d.sql" ∧
      (FileEntry.directory nestedEntries).Holds ["b.sql"] [] ∧
      ¬ IsStatementFile (.directory nestedEntries) startsWithA.admits ["b.sql"] := by
  have found : FileSystem.find (.ofEntry ⟨"d"⟩ (.directory nestedEntries)) ⟨"d"⟩ =
      .ok (.directory nestedEntries) := rfl
  have selects : Selects (some "a*") startsWithA.admits := .matching ofText_startsWithA
  have computed : findStatements (.ofEntry ⟨"d"⟩ (.directory nestedEntries)) ⟨"d"⟩ (some "a*") =
      .ok [⟨"d/a/c.d.sql"⟩, ⟨"d/a.sql"⟩] := by
    rw [findStatements_eq found selects, statementFiles_nestedEntries]
    rfl
  obtain ⟨paths, answer, members, increasing, -⟩ :=
    findStatements_directory found wellNamed_nestedEntries selects
  rw [computed] at answer
  split at answer
  · cases answer
  · obtain rfl := Except.ok.inj answer
    refine ⟨_, computed, rfl, increasing, by decide, ?_, fun other => ?_⟩
    · exact .directory List.mem_cons_self (.file [])
    · have listed := (members _).mpr ⟨_, other, rfl⟩
      exact absurd listed (by decide)

end SchemaDump
