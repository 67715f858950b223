/-
**Maps from names, listed in the order of names.**

A name map holds at most one value for each name. Its entries stand in strictly increasing order of
names, by code points, which is also the order of their UTF-8 bytes. So two maps with the same values
are equal, and the listing needs no sort.
-/

namespace SchemaDump

/-- The entries with the value put under the name, in their place in the order. -/
def putEntry {α : Type} (name : String) (value : α) : List (String × α) → List (String × α)
  | [] => [(name, value)]
  | (other, old) :: rest =>
    if name < other then (name, value) :: (other, old) :: rest
    else if name = other then (name, value) :: rest
    else (other, old) :: putEntry name value rest

/-- The names of the entries increase strictly. -/
abbrev Increasing {α : Type} (entries : List (String × α)) : Prop :=
  entries.Pairwise fun first second => first.1 < second.1

/-- Of two different names, one comes first. -/
theorem name_lt_of_not_lt {first second : String} (notBefore : ¬ first < second)
    (different : first ≠ second) : second < first := by
  apply Decidable.byContradiction
  intro notAfter
  exact different (String.le_antisymm notAfter notBefore)

theorem mem_putEntry {α : Type} {name : String} {value : α} {entries : List (String × α)}
    {entry : String × α} (found : entry ∈ putEntry name value entries) :
    entry = (name, value) ∨ entry ∈ entries := by
  induction entries with
  | nil => simpa [putEntry] using found
  | cons head rest ih =>
    obtain ⟨other, old⟩ := head
    simp only [putEntry] at found
    split at found
    · simpa using found
    · split at found
      · rcases List.mem_cons.mp found with same | later
        · exact .inl same
        · exact .inr (List.mem_cons_of_mem _ later)
      · rcases List.mem_cons.mp found with same | later
        · exact .inr (same ▸ List.mem_cons_self)
        · exact (ih later).imp_right (List.mem_cons_of_mem _)

theorem increasing_putEntry {α : Type} {name : String} {value : α} {entries : List (String × α)}
    (increasing : Increasing entries) : Increasing (putEntry name value entries) := by
  induction entries with
  | nil => simp [putEntry, Increasing]
  | cons head rest ih =>
    obtain ⟨other, old⟩ := head
    have parts := List.pairwise_cons.mp increasing
    simp only [putEntry]
    split
    · next before =>
      refine List.pairwise_cons.mpr ⟨fun entry found => ?_, increasing⟩
      rcases List.mem_cons.mp found with same | later
      · exact same ▸ before
      · exact String.lt_trans before (parts.1 entry later)
    · next notBefore =>
      split
      · next same =>
        refine List.pairwise_cons.mpr ⟨fun entry found => ?_, parts.2⟩
        exact same ▸ parts.1 entry found
      · next different =>
        refine List.pairwise_cons.mpr ⟨fun entry found => ?_, ih parts.2⟩
        rcases mem_putEntry found with same | old
        · exact same ▸ name_lt_of_not_lt notBefore different
        · exact parts.1 entry old

theorem find?_putEntry {α : Type} (name other : String) (value : α)
    (entries : List (String × α)) :
    (putEntry name value entries).find? (fun entry => entry.1 == other) =
      if name = other then some (name, value)
      else entries.find? fun entry => entry.1 == other := by
  induction entries with
  | nil => by_cases same : name = other <;> simp [putEntry, same]
  | cons head rest ih =>
    obtain ⟨first, old⟩ := head
    simp only [putEntry]
    split
    · by_cases same : name = other <;> simp [same]
    · split
      · next here =>
        by_cases same : name = other
        · simp [same]
        · simp [same, ← here]
      · next elsewhere =>
        by_cases same : name = other
        · have : first ≠ other := fun equal => elsewhere (same.trans equal.symm)
          rw [List.find?_cons_of_neg (by simpa using this), ih, if_pos same, if_pos same]
        · by_cases here : first = other <;> simp [here, same, ih]

/-- A map from names. -/
structure NameMap (α : Type) where
  entries : List (String × α) := []
  increasing : Increasing entries := by simp [SchemaDump.Increasing]
  deriving DecidableEq

namespace NameMap

variable {α β : Type}

/-- The map without names. -/
def empty : NameMap α := {}

/-- The value of a name, if there is one. -/
def get? (map : NameMap α) (name : String) : Option α :=
  (map.entries.find? fun entry => entry.1 == name).map Prod.snd

/-- Does the map have a value for the name? -/
def contains (map : NameMap α) (name : String) : Bool := (map.get? name).isSome

/-- The names, in increasing order. -/
def names (map : NameMap α) : List String := map.entries.map Prod.fst

/-- The number of names. -/
def size (map : NameMap α) : Nat := map.entries.length

/-- The map with the value put under the name, in place of the one before. -/
def put (map : NameMap α) (name : String) (value : α) : NameMap α where
  entries := putEntry name value map.entries
  increasing := increasing_putEntry map.increasing

@[simp] theorem get?_empty (name : String) : (empty : NameMap α).get? name = none := rfl

/-- A put shows under its name and nowhere else. -/
theorem get?_put (map : NameMap α) (name other : String) (value : α) :
    (map.put name value).get? other = if name = other then some value else map.get? other := by
  simp only [get?, put, find?_putEntry]
  split <;> rfl

/-- The map of a list of entries, later ones in place of earlier ones. -/
def ofList (entries : List (String × α)) : NameMap α :=
  entries.foldl (fun map entry => map.put entry.1 entry.2) empty

/-- The map with every value replaced by its image. -/
def mapValues (image : α → β) (map : NameMap α) : NameMap β where
  entries := map.entries.map fun entry => (entry.1, image entry.2)
  increasing := List.pairwise_map.mpr map.increasing

end NameMap

end SchemaDump
