/-
**Steps and traversals that may fail.**

A traversal applies a step to the entries of a list, one after the other, and stops at the first failure.

* `bind_eq_ok_iff`, `mapError_eq_ok_iff`, `exists_ok_of_map_toOption`: when a step succeeds;
* `mapM_eq_ok_iff`: it succeeds exactly if every step does, with the results in order;
* `map_eq_of_mapM_eq_ok`: what every step keeps, all of them keep;
* `mapM_eq_error_iff`: it fails exactly with the failure of the first step that fails.
-/

namespace SchemaDump

variable {α β ε δ : Type}

/-! ### Steps -/

theorem bind_eq_ok_iff {first : Except ε α} {next : α → Except ε β} {result : β} :
    first >>= next = .ok result ↔ ∃ value, first = .ok value ∧ next value = .ok result := by
  cases first <;> simp [bind, Except.bind]

theorem bind_eq_error_iff {first : Except ε α} {next : α → Except ε β} {failure : ε} :
    first >>= next = .error failure ↔
      first = .error failure ∨ ∃ value, first = .ok value ∧ next value = .error failure := by
  cases first <;> simp [bind, Except.bind]

theorem mapError_eq_ok_iff {tell : ε → δ} {result : Except ε α} {value : α} :
    result.mapError tell = .ok value ↔ result = .ok value := by
  cases result with
  | error cause => exact ⟨nofun, nofun⟩
  | ok found =>
    exact ⟨fun same => congrArg Except.ok (Except.ok.inj same),
      fun same => congrArg Except.ok (Except.ok.inj same)⟩

/-- A result that shows something is there. -/
theorem exists_ok_of_map_toOption {result : Except ε α} {view : α → β} {shown : β}
    (seen : result.toOption.map view = some shown) : ∃ value, result = .ok value ∧ view value = shown := by
  cases result with
  | error cause => exact nomatch seen
  | ok value => exact ⟨value, rfl, Option.some.inj seen⟩

/-! ### Traversals -/

variable {step : α → Except ε β}

/-- **A traversal succeeds exactly if every step does.** -/
theorem mapM_eq_ok_iff {entries : List α} {results : List β} :
    entries.mapM step = .ok results ↔ entries.map step = results.map .ok := by
  induction entries generalizing results with
  | nil => cases results <;> simp [pure, Except.pure]
  | cons entry rest ih =>
    simp only [List.mapM_cons, bind_eq_ok_iff, ih, List.map_cons]
    constructor
    · rintro ⟨result, first, others, later, ⟨⟩⟩
      rw [first, later, List.map_cons]
    · cases results with
      | nil => exact nofun
      | cons result others =>
        intro same
        obtain ⟨first, later⟩ := List.cons.inj same
        exact ⟨result, first, others, later, rfl⟩

/-- What a step keeps of every entry, a traversal keeps of all. -/
theorem map_eq_of_mapM_eq_ok {γ : Type} {shown : β → γ} {given : α → γ}
    {entries : List α}
    (keeps : ∀ entry ∈ entries, ∀ result, step entry = .ok result → shown result = given entry)
    {results : List β} (run : entries.mapM step = .ok results) :
    results.map shown = entries.map given := by
  rw [mapM_eq_ok_iff] at run
  induction entries generalizing results with
  | nil =>
    obtain rfl := List.map_eq_nil_iff.mp run.symm
    rfl
  | cons entry rest ih =>
    obtain ⟨result, others, rfl, first, later⟩ := List.map_eq_cons_iff.mp run.symm
    rw [List.forall_mem_cons] at keeps
    rw [List.map_cons, List.map_cons, keeps.1 result first.symm, ih keeps.2 later.symm]

/-- **A traversal fails exactly with the first step that does.** -/
theorem mapM_eq_error_iff {entries : List α} {failure : ε} :
    entries.mapM step = .error failure ↔
      ∃ before entry after, entries = before ++ entry :: after ∧
        (∀ earlier ∈ before, ∃ result, step earlier = .ok result) ∧
        step entry = .error failure := by
  constructor
  · intro fails
    induction entries with
    | nil => exact nomatch fails
    | cons entry rest ih =>
      rw [List.mapM_cons, bind_eq_error_iff] at fails
      rcases fails with here | ⟨result, first, fails⟩
      · exact ⟨[], entry, rest, rfl, nofun, here⟩
      · rcases bind_eq_error_iff.mp fails with later | ⟨_, -, fails⟩
        · obtain ⟨before, other, after, rfl, fine, here⟩ := ih later
          exact ⟨entry :: before, other, after, rfl,
            List.forall_mem_cons.mpr ⟨⟨result, first⟩, fine⟩, here⟩
        · exact nomatch fails
  · rintro ⟨before, entry, after, rfl, fine, fails⟩
    induction before with
    | nil =>
      rw [List.nil_append, List.mapM_cons, fails]
      rfl
    | cons first before ih =>
      rw [List.forall_mem_cons] at fine
      obtain ⟨⟨result, here⟩, fine⟩ := fine
      rw [List.cons_append, List.mapM_cons, here, ih fine]
      rfl

end SchemaDump
