/-
**What assembly keeps of the reported columns and the declared keys.**

The reported list gives the columns, numbered by their places. The statement declares its keys by names,
and assembly turns the names into places of columns.

* `Column.view_adjusted`: a load adjusts the name of a type, the length and the notes of a column, and
  touches nothing else.
* `Numbered.columnsAt_positionsOf`: reading places back gives the columns that the names meant.
* **`keeps_assemble`**: columns, marks and keys of the table are those that were reported and declared,
  less the key members that name no reported column.
-/

import SchemaDump.Proofs.NameMap
import SchemaDump.Table.Assembly

namespace SchemaDump

/-! ### What a load adjusts -/

namespace Column

variable {α : Type} {view : Column → α}

/-- The view shows nothing that a load adjusts: not the name of the type, the length or the notes. -/
def Unadjusted (view : Column → α) : Prop :=
  ∀ (column : Column) (typeName : String) (length : Option Nat) (notes : String),
    view { column with typeName := typeName, length := length, notes := notes } = view column

theorem view_markUnsigned (unadjusted : Unadjusted view) (choices : LoadChoices) (column : Column) :
    view (column.markUnsigned choices) = view column := by
  unfold markUnsigned
  split
  · exact unadjusted column _ column.length _
  · rfl

theorem view_refineLength (unadjusted : Unadjusted view) (table : String) (source : Source)
    (choices : LoadChoices) (column : Column) :
    view (column.refineLength table source choices) = view column := by
  unfold refineLength
  split
  · split
    · exact unadjusted column column.typeName _ column.notes
    · rfl
  · rfl

/-- **A load adjusts the name of a type, the length and the notes, and nothing else.** -/
theorem view_adjusted (unadjusted : Unadjusted view) (table : String) (source : Source)
    (choices : LoadChoices) (column : Column) :
    view ((column.markUnsigned choices).refineLength table source choices) = view column := by
  rw [view_refineLength unadjusted, view_markUnsigned unadjusted]

end Column

namespace Table

/-! ### Numbered columns -/

/-- The columns are numbered by their places. -/
def Numbered (columns : List Column) : Prop :=
  columns.map Column.index = List.range columns.length

namespace Numbered

variable {columns : List Column}

theorem index_eq (numbered : Numbered columns) {place : Nat} {column : Column}
    (found : columns[place]? = some column) : column.index = place := by
  obtain ⟨inside, -⟩ := List.getElem?_eq_some_iff.mp found
  have indexes : (columns.map Column.index)[place]? = (List.range columns.length)[place]? :=
    congrArg (·[place]?) numbered
  rw [List.getElem?_map, found, List.getElem?_range inside] at indexes
  exact Option.some.inj indexes

theorem getElem?_index (numbered : Numbered columns) {column : Column} (listed : column ∈ columns) :
    columns[column.index]? = some column := by
  obtain ⟨place, found⟩ := List.mem_iff_getElem?.mp listed
  rw [numbered.index_eq found, found]

end Numbered

/-! ### From names to places and back -/

/-- The last column of the given name, which is the one that a key member means. -/
def lastNamed? (columns : List Column) (name : String) : Option Column :=
  columns.reverse.find? fun column => column.name == name

theorem lastPosition?_eq (columns : List Column) (name : String) :
    lastPosition? columns name = (lastNamed? columns name).map Column.index := rfl

theorem lastNamed?_eq_none_iff {columns : List Column} {name : String} :
    lastNamed? columns name = none ↔ name ∉ columns.map Column.name := by
  simp [lastNamed?, List.find?_eq_none]

theorem of_lastNamed? {columns : List Column} {name : String} {column : Column}
    (found : lastNamed? columns name = some column) : column ∈ columns ∧ column.name = name := by
  refine ⟨List.mem_reverse.mp (List.mem_of_find?_eq_some found), ?_⟩
  simpa using List.find?_some found

/-- The columns that names mean have these names; only the names of no column mean none. -/
theorem map_name_filterMap_lastNamed? (columns : List Column) (names : List String) :
    (names.filterMap (lastNamed? columns)).map Column.name =
      names.filter fun name => name ∈ columns.map Column.name := by
  induction names with
  | nil => rfl
  | cons name rest ih =>
    cases found : lastNamed? columns name with
    | none =>
      have missing := lastNamed?_eq_none_iff.mp found
      rw [List.filterMap_cons_none found, ih, List.filter_cons_of_neg (by simpa using missing)]
    | some column =>
      obtain ⟨listed, rfl⟩ := of_lastNamed? found
      have known : column.name ∈ columns.map Column.name := List.mem_map_of_mem listed
      rw [List.filterMap_cons_some found, List.map_cons, ih,
        List.filter_cons_of_pos (by simpa using known)]

theorem positionsOf_eq_nil_iff {columns : List Column} {names : List String} :
    positionsOf columns names = [] ↔ ∀ name ∈ names, name ∉ columns.map Column.name := by
  simp only [positionsOf, List.filterMap_eq_nil_iff, lastPosition?_eq, Option.map_eq_none_iff,
    lastNamed?_eq_none_iff]

namespace Numbered

variable {columns : List Column}

/-- The places of names are those of the columns that the names mean. -/
theorem mem_positionsOf (numbered : Numbered columns) {names : List String} {place : Nat} :
    place ∈ positionsOf columns names ↔
      ∃ name ∈ names, ∃ column, lastNamed? columns name = some column ∧
        columns[place]? = some column := by
  simp only [positionsOf, List.mem_filterMap, lastPosition?_eq, Option.map_eq_some_iff]
  constructor
  · rintro ⟨name, declared, column, found, rfl⟩
    exact ⟨name, declared, column, found, numbered.getElem?_index (of_lastNamed? found).1⟩
  · rintro ⟨name, declared, column, found, here⟩
    exact ⟨name, declared, column, found, numbered.index_eq here⟩

theorem lt_of_mem_positionsOf (numbered : Numbered columns) {names : List String} {place : Nat}
    (listed : place ∈ positionsOf columns names) : place < columns.length := by
  obtain ⟨name, -, column, -, here⟩ := numbered.mem_positionsOf.mp listed
  exact (List.getElem?_eq_some_iff.mp here).1

/-- **Reading places back gives the columns that the names meant.** -/
theorem columnsAt_positionsOf {table : Table} (numbered : Numbered table.columns)
    (names : List String) : table.columnsAt (positionsOf table.columns names) =
      names.filterMap (lastNamed? table.columns) := by
  rw [columnsAt, positionsOf, List.filterMap_filterMap]
  congr 1
  funext name
  rw [lastPosition?_eq]
  cases found : lastNamed? table.columns name with
  | none => rfl
  | some column => exact numbered.getElem?_index (of_lastNamed? found).1

/-- Read back as names, the members are those that some column has. -/
theorem map_name_columnsAt {table : Table} (numbered : Numbered table.columns) (names : List String) :
    (table.columnsAt (positionsOf table.columns names)).map Column.name =
      names.filter fun name => name ∈ table.columns.map Column.name := by
  rw [numbered.columnsAt_positionsOf, map_name_filterMap_lastNamed?]

end Numbered

/-! ### Assembled tables -/

/-- **What a table keeps of a statement and of the reported columns.** -/
structure Keeps (table : Table) (statement : Statement) (reports : List ReportedColumn) : Prop where
  /-- There is one column for each reported one, with its name, in the reported order. -/
  names : table.columns.map Column.name = reports.map ReportedColumn.name
  /-- The number of a column is its place. -/
  numbered : ∀ (place : Nat) (column : Column), table.columns[place]? = some column →
    column.index = place
  /-- The marked columns are those whose names the primary key declares. -/
  marked : ∀ column ∈ table.columns, column.isPrimaryKey = true ↔ column.name ∈ statement.primaryKey
  primaryKeyInRange : ∀ place ∈ table.primaryKey, place < table.columns.length
  uniqueIndexesInRange : ∀ name places, table.uniqueIndexes.get? name = some places →
    ∀ place ∈ places, place < table.columns.length
  /-- Read back as names, the primary key is the declared one without the names of no reported
  column. -/
  primaryKey : table.primaryKeyColumns.map Column.name =
    statement.primaryKey.filter fun name => name ∈ reports.map ReportedColumn.name
  /-- No index is lost, and none is added. -/
  indexNames : table.uniqueIndexes.names = statement.uniqueIndexes.names
  /-- Read back as names, so are the members of every unique index. -/
  uniqueIndexes : ∀ name, (table.uniqueIndex? name).map (List.map Column.name) =
    (statement.uniqueIndexes.get? name).map
      (List.filter fun member => member ∈ reports.map ReportedColumn.name)
  /-- Key and marks are there together or not at all. -/
  unmarked : table.primaryKey = [] ↔ ∀ column ∈ table.columns, column.isPrimaryKey = false

section Assembled

variable (table text : String) (statement : Statement) (reports : List ReportedColumn)
  (source : Source) (types : TypeMapper) (choices : LoadChoices)

/-- The columns as far as a load does not adjust them. -/
theorem map_assembleColumns {α : Type} {view : Column → α} (unadjusted : Column.Unadjusted view) :
    (assembleColumns table statement reports source types choices).map view =
      reports.zipIdx.map fun (report, index) =>
        view (.ofReport table statement source types index report) := by
  rw [assembleColumns, List.map_map]
  exact List.map_congr_left fun _ _ => Column.view_adjusted unadjusted table source choices _

/-- A view that does not show the numbers of columns shows each as it was reported. -/
theorem map_assembleColumns_eq {α : Type} {view : Column → α} (unadjusted : Column.Unadjusted view)
    {shown : ReportedColumn → α}
    (same : ∀ index report, view (.ofReport table statement source types index report) = shown report) :
    (assembleColumns table statement reports source types choices).map view = reports.map shown := by
  have numbered : reports.map shown = reports.zipIdx.map (shown ∘ Prod.fst) := by
    rw [← List.map_map, List.zipIdx_map_fst]
  rw [map_assembleColumns _ _ _ _ _ _ unadjusted, numbered]
  exact List.map_congr_left fun (report, index) _ => same index report

theorem names_assemble : (assemble table text statement reports source types choices).columns.map
    Column.name = reports.map ReportedColumn.name :=
  map_assembleColumns_eq _ _ _ _ _ _ (fun _ _ _ _ => rfl) fun _ _ => rfl

theorem numbered_assemble :
    Numbered (assemble table text statement reports source types choices).columns := by
  have size : (assembleColumns table statement reports source types choices).length =
      reports.length := by
    rw [assembleColumns, List.length_map, List.length_zipIdx]
  rw [Numbered, assemble, size, List.range_eq_range', ← List.zipIdx_map_snd 0 reports,
    map_assembleColumns _ _ _ _ _ _ fun _ _ _ _ => rfl]
  rfl

variable {table text statement reports source types choices} in
/-- A column is marked exactly if the statement declares its name in the primary key. -/
theorem isPrimaryKey_assemble {column : Column}
    (listed : column ∈ (assemble table text statement reports source types choices).columns) :
    column.isPrimaryKey = true ↔ column.name ∈ statement.primaryKey := by
  let view (column : Column) : String × Bool := (column.name, column.isPrimaryKey)
  have unadjusted : Column.Unadjusted view := fun _ _ _ _ => rfl
  have shown := List.mem_map_of_mem (f := view) listed
  rw [assemble, map_assembleColumns _ _ _ _ _ _ unadjusted] at shown
  obtain ⟨⟨report, index⟩, -, same⟩ := List.mem_map.mp shown
  obtain ⟨name, mark⟩ := Prod.mk.inj same
  rw [← mark, ← name]
  exact List.contains_iff_mem

/-- The primary key has no members exactly if no column is marked. -/
theorem primaryKey_assemble_eq_nil_iff :
    (assemble table text statement reports source types choices).primaryKey = [] ↔
      ∀ column ∈ (assemble table text statement reports source types choices).columns,
        column.isPrimaryKey = false := by
  have absent : (assemble table text statement reports source types choices).primaryKey = [] ↔
      ∀ name ∈ statement.primaryKey, name ∉
        (assemble table text statement reports source types choices).columns.map Column.name :=
    positionsOf_eq_nil_iff
  rw [absent]
  constructor
  · intro missing column listed
    rw [← Bool.not_eq_true, isPrimaryKey_assemble listed]
    exact fun declared => missing column.name declared (List.mem_map_of_mem listed)
  · intro unmarked name declared known
    obtain ⟨column, listed, rfl⟩ := List.mem_map.mp known
    have marked := (isPrimaryKey_assemble listed).mpr declared
    rw [unmarked column listed] at marked
    exact Bool.noConfusion marked

theorem get?_uniqueIndexes_assemble (name : String) :
    (assemble table text statement reports source types choices).uniqueIndexes.get? name =
      (statement.uniqueIndexes.get? name).map
        (positionsOf (assemble table text statement reports source types choices).columns) :=
  NameMap.get?_mapValues _ _ name

/-- Read back as names, a declared key is the members that were reported. -/
theorem map_name_columnsAt_assemble (members : List String) :
    ((assemble table text statement reports source types choices).columnsAt
      (positionsOf (assemble table text statement reports source types choices).columns
        members)).map Column.name =
      members.filter fun name => name ∈ reports.map ReportedColumn.name := by
  rw [(numbered_assemble ..).map_name_columnsAt, names_assemble]

/-- **Assembly keeps columns, marks and keys**, whatever the statement, the reports, the source, the
types and the choices are, and also where the reports repeat a name. -/
theorem keeps_assemble :
    (assemble table text statement reports source types choices).Keeps statement reports where
  names := names_assemble ..
  numbered _ _ found := (numbered_assemble ..).index_eq found
  marked _ listed := isPrimaryKey_assemble listed
  primaryKeyInRange _ listed := (numbered_assemble ..).lt_of_mem_positionsOf listed
  uniqueIndexesInRange name places found place listed := by
    rw [get?_uniqueIndexes_assemble, Option.map_eq_some_iff] at found
    obtain ⟨members, -, rfl⟩ := found
    exact (numbered_assemble ..).lt_of_mem_positionsOf listed
  primaryKey := map_name_columnsAt_assemble ..
  indexNames := NameMap.names_mapValues _ _
  uniqueIndexes name := by
    rw [uniqueIndex?, get?_uniqueIndexes_assemble, Option.map_map, Option.map_map]
    exact congrArg (Option.map · _) (funext fun _ => map_name_columnsAt_assemble ..)
  unmarked := primaryKey_assemble_eq_nil_iff ..

end Assembled

end Table

end SchemaDump
