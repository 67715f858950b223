/-
**The parts of a loaded table agree with each other.**

A table tells twice which columns make up its primary key: by marks on the columns, and by places in the
key. Assembly sets both from the declared names. A stand-in key sets both again, for a table whose key has
no members, be it that none was declared or that none of its columns was reported.

* `Table.coherent_assemble`: an assembled table is coherent if the reported names are distinct;
* `Table.Coherent.withFirstColumnKey`: the first column stands in for a key without members, and the table
  stays coherent;
* **`load_coherent`**: so is every loaded table, and it has a key if it has a column and the choices ask
  for a stand-in.
-/

import SchemaDump.Proofs.Loader

namespace SchemaDump

namespace Table

/-- The marks, numbers and names of the columns and the places in the keys fit together. -/
structure Coherent (table : Table) : Prop where
  numbered : Numbered table.columns
  distinct : (table.columns.map Column.name).Nodup
  marked : ∀ column ∈ table.columns, column.isPrimaryKey = true ↔ column.index ∈ table.primaryKey
  primaryKeyInRange : ∀ place ∈ table.primaryKey, place < table.columns.length
  uniqueIndexesInRange : ∀ name places, table.uniqueIndexes.get? name = some places →
    ∀ place ∈ places, place < table.columns.length

/-! ### Reading -/

/-- Places inside the table are read back one by one. -/
theorem Numbered.map_index_columnsAt {table : Table} (numbered : Numbered table.columns)
    {places : List Nat} (inRange : ∀ place ∈ places, place < table.columns.length) :
    (table.columnsAt places).map Column.index = places := by
  induction places with
  | nil => rfl
  | cons place rest ih =>
    rw [List.forall_mem_cons] at inRange
    obtain ⟨column, here⟩ : ∃ column, table.columns[place]? = some column :=
      ⟨_, List.getElem?_eq_getElem inRange.1⟩
    rw [columnsAt, List.filterMap_cons_some here, List.map_cons, numbered.index_eq here]
    exact congrArg (place :: ·) (ih inRange.2)

theorem mem_of_mem_columnsAt {table : Table} {places : List Nat} {column : Column}
    (read : column ∈ table.columnsAt places) : column ∈ table.columns := by
  obtain ⟨place, -, found⟩ := List.mem_filterMap.mp read
  exact List.mem_of_getElem? found

/-- The names read at places depend on the names of the columns alone. -/
theorem map_name_columnsAt (table : Table) (places : List Nat) :
    (table.columnsAt places).map Column.name =
      places.filterMap fun place => (table.columns.map Column.name)[place]? := by
  rw [columnsAt, List.map_filterMap]
  simp only [List.getElem?_map]

theorem lastNamed?_of_nodup {columns : List Column} (distinct : (columns.map Column.name).Nodup)
    {column : Column} (listed : column ∈ columns) : lastNamed? columns column.name = some column := by
  have reversed : (columns.reverse.map Column.name).Nodup := by
    rw [List.map_reverse]
    exact (List.reverse_perm _).nodup_iff.mpr distinct
  exact find?_of_nodup reversed (List.mem_reverse.mpr listed)

namespace Coherent

variable {table : Table} (coherent : table.Coherent)

include coherent

/-- A name leads to the column that has it. -/
theorem column?_name {column : Column} (listed : column ∈ table.columns) :
    table.column? column.name = some column :=
  find?_of_nodup coherent.distinct listed

/-- A column is among those read at places if its name is. -/
theorem mem_columnsAt_of_name {column : Column} (listed : column ∈ table.columns) {places : List Nat}
    (named : column.name ∈ (table.columnsAt places).map Column.name) :
    column ∈ table.columnsAt places := by
  obtain ⟨other, read, same⟩ := List.mem_map.mp named
  have found := coherent.column?_name (mem_of_mem_columnsAt read)
  rw [same, coherent.column?_name listed] at found
  rwa [Option.some.inj found]

theorem map_index_primaryKeyColumns : table.primaryKeyColumns.map Column.index = table.primaryKey :=
  coherent.numbered.map_index_columnsAt coherent.primaryKeyInRange

theorem map_index_uniqueIndex? (name : String) :
    (table.uniqueIndex? name).map (List.map Column.index) = table.uniqueIndexes.get? name := by
  rw [uniqueIndex?, Option.map_map]
  cases found : table.uniqueIndexes.get? name with
  | none => rfl
  | some places =>
    have inRange := coherent.uniqueIndexesInRange name places found
    exact congrArg some (coherent.numbered.map_index_columnsAt inRange)

end Coherent

/-! ### Assembly -/

/-- **Distinct columns are assembled to a coherent table.** -/
theorem coherent_assemble (table text : String) (statement : Statement)
    {reports : List ReportedColumn} (distinct : (reports.map ReportedColumn.name).Nodup)
    (source : Source) (types : TypeMapper) (choices : LoadChoices) :
    (assemble table text statement reports source types choices).Coherent := by
  have numbered := numbered_assemble table text statement reports source types choices
  have names := names_assemble table text statement reports source types choices
  rw [← names] at distinct
  refine ⟨numbered, distinct, fun column listed => ?_, fun place listed =>
    numbered.lt_of_mem_positionsOf listed, fun name places found place listed => ?_⟩
  · have key : column.index ∈
        (assemble table text statement reports source types choices).primaryKey ↔
          column.name ∈ statement.primaryKey := by
      refine numbered.mem_positionsOf.trans ?_
      constructor
      · rintro ⟨name, declared, other, found, here⟩
        obtain rfl := Option.some.inj ((numbered.getElem?_index listed).symm.trans here)
        rwa [(of_lastNamed? found).2]
      · exact fun declared => ⟨column.name, declared, column, lastNamed?_of_nodup distinct listed,
          numbered.getElem?_index listed⟩
    rw [key, isPrimaryKey_assemble listed]
  · rw [get?_uniqueIndexes_assemble, Option.map_eq_some_iff] at found
    obtain ⟨members, -, rfl⟩ := found
    exact numbered.lt_of_mem_positionsOf listed

/-! ### Stand-in keys -/

/-- A stand-in key changes neither names nor numbers, and leaves the indexes as they are. -/
theorem columns_withFirstColumnKey (table : Table) :
    table.withFirstColumnKey.columns.map Column.name = table.columns.map Column.name ∧
      table.withFirstColumnKey.columns.map Column.index = table.columns.map Column.index ∧
      table.withFirstColumnKey.uniqueIndexes = table.uniqueIndexes := by
  refine ⟨table.map_withFirstColumnKey fun _ _ _ => rfl, table.map_withFirstColumnKey fun _ _ _ => rfl, ?_⟩
  unfold withFirstColumnKey
  split <;> rfl

namespace Coherent

variable {table : Table} (coherent : table.Coherent)

include coherent

/-- No column is marked in a table whose key has no members, so the first one is marked alone. -/
theorem marked_withFirstColumnKey (keyless : table.primaryKey = []) :
    ∀ column ∈ table.withFirstColumnKey.columns,
      column.isPrimaryKey = true ↔ column.index ∈ table.withFirstColumnKey.primaryKey := by
  have unmarked : ∀ column ∈ table.columns, column.isPrimaryKey = false := by
    intro column listed
    rw [← Bool.not_eq_true, coherent.marked column listed, keyless]
    exact List.not_mem_nil
  have apart : (table.columns.map Column.index).Nodup := coherent.numbered ▸ List.nodup_range
  unfold Table.withFirstColumnKey
  split
  · exact coherent.marked
  · next first rest found =>
    rw [found] at unmarked apart
    obtain ⟨new, -⟩ := List.nodup_cons.mp apart
    simp only [List.forall_mem_cons, List.mem_singleton]
    refine ⟨⟨fun _ => rfl, fun _ => rfl⟩, fun column later => ?_⟩
    rw [unmarked column (List.mem_cons_of_mem first later)]
    exact ⟨nofun, fun same => absurd (same ▸ List.mem_map_of_mem later) new⟩

theorem primaryKeyInRange_withFirstColumnKey :
    ∀ place ∈ table.withFirstColumnKey.primaryKey, place < table.columns.length := by
  unfold Table.withFirstColumnKey
  split
  · exact coherent.primaryKeyInRange
  · next first rest found =>
    have listed : first ∈ table.columns := found ▸ List.mem_cons_self
    intro place only
    obtain rfl := List.mem_singleton.mp only
    exact (List.getElem?_eq_some_iff.mp (coherent.numbered.getElem?_index listed)).1

/-- **The first column stands in for a key without members, and the table stays coherent.** -/
theorem withFirstColumnKey (keyless : table.primaryKey = []) : table.withFirstColumnKey.Coherent := by
  obtain ⟨names, indexes, uniqueIndexes⟩ := table.columns_withFirstColumnKey
  have size : table.withFirstColumnKey.columns.length = table.columns.length := by
    simpa using congrArg List.length names
  refine ⟨?_, names ▸ coherent.distinct, coherent.marked_withFirstColumnKey keyless, ?_, ?_⟩
  · rw [Numbered, indexes, size]
    exact coherent.numbered
  · rw [size]
    exact coherent.primaryKeyInRange_withFirstColumnKey
  · rw [uniqueIndexes, size]
    exact coherent.uniqueIndexesInRange

end Coherent

/-- A table with a column has a key once its first column stands in. -/
theorem primaryKey_withFirstColumnKey_ne_nil {table : Table}
    (some : table.withFirstColumnKey.columns ≠ []) : table.withFirstColumnKey.primaryKey ≠ [] := by
  revert some
  unfold withFirstColumnKey
  split
  · next none => exact fun some => absurd none some
  · exact fun _ => List.cons_ne_nil _ _

end Table

/-! ### Loads -/

namespace Loader

variable (loader : Loader)

theorem coherent_standIn (first : loader.policy = Table.withFirstColumnKey) {table : Table}
    (coherent : table.Coherent) : (loader.standIn table).Coherent := by
  unfold standIn
  split
  · next asked =>
    rw [Bool.and_eq_true, List.isEmpty_iff] at asked
    rw [first]
    exact coherent.withFirstColumnKey asked.2
  · exact coherent

theorem names_standIn (first : loader.policy = Table.withFirstColumnKey) (table : Table) :
    (loader.standIn table).columns.map Column.name = table.columns.map Column.name := by
  unfold standIn
  split
  · rw [first]
    exact table.columns_withFirstColumnKey.1
  · rfl

theorem uniqueIndexes_standIn (first : loader.policy = Table.withFirstColumnKey) (table : Table) :
    (loader.standIn table).uniqueIndexes = table.uniqueIndexes := by
  unfold standIn
  split
  · rw [first]
    exact table.columns_withFirstColumnKey.2.2
  · rfl

theorem standIn_of_keyed {table : Table} (keyed : table.primaryKey ≠ []) :
    loader.standIn table = table := by
  rw [standIn, if_neg (by simp [keyed])]

theorem map_name_columnsAt_standIn (first : loader.policy = Table.withFirstColumnKey) (table : Table)
    (places : List Nat) : ((loader.standIn table).columnsAt places).map Column.name =
      (table.columnsAt places).map Column.name := by
  rw [Table.map_name_columnsAt, names_standIn loader first, Table.map_name_columnsAt]

/-- A loaded table has the columns that the source reports, in their order. -/
theorem names_load (first : loader.policy = Table.withFirstColumnKey) {table : String} {loaded : Table}
    (succeeds : loader.load table = .ok loaded) {reports : List ReportedColumn}
    (columns : loader.source.columns table = .ok reports) :
    loaded.columns.map Column.name = reports.map ReportedColumn.name := by
  obtain ⟨_, text, answered, -, rfl⟩ := loader.load_eq_ok_iff.mp succeeds
  obtain rfl := Except.ok.inj (answered.symm.trans columns)
  rw [names_standIn loader first, Table.names_assemble]

theorem primaryKey_standIn_ne_nil (first : loader.policy = Table.withFirstColumnKey)
    (asked : loader.choices.standInKey = true) {table : Table}
    (some : (loader.standIn table).columns ≠ []) : (loader.standIn table).primaryKey ≠ [] := by
  revert some
  rw [standIn, asked, Bool.true_and, first]
  split
  · exact Table.primaryKey_withFirstColumnKey_ne_nil
  · next keyed => exact fun _ keyless => keyed (List.isEmpty_iff.mpr keyless)

/-- **The parts of a loaded table agree**, whatever the statement, the types and the choices are: if the
source reports no name twice and the first column stands in where a key is missing, then the number of
each column is its place, its name leads to it, it is marked exactly if its place is in the primary key,
and all places in keys are read back as the columns at these places. -/
theorem load_coherent (first : loader.policy = Table.withFirstColumnKey) {table : String}
    (distinct : ∀ reports, loader.source.columns table = .ok reports →
      (reports.map ReportedColumn.name).Nodup)
    {loaded : Table} (succeeds : loader.load table = .ok loaded) :
    (∀ (place : Nat) (column : Column), loaded.columns[place]? = some column →
      column.index = place) ∧
    (∀ column ∈ loaded.columns, loaded.column? column.name = some column) ∧
    (∀ column ∈ loaded.columns, column.isPrimaryKey = true ↔ column.index ∈ loaded.primaryKey) ∧
    (∀ place ∈ loaded.primaryKey, place < loaded.columns.length) ∧
    (∀ name places, loaded.uniqueIndexes.get? name = some places →
      ∀ place ∈ places, place < loaded.columns.length) ∧
    loaded.primaryKeyColumns.map Column.index = loaded.primaryKey ∧
    (∀ name, (loaded.uniqueIndex? name).map (List.map Column.index) =
      loaded.uniqueIndexes.get? name) ∧
    (loader.choices.standInKey = true → loaded.columns ≠ [] → loaded.primaryKey ≠ []) := by
  obtain ⟨reports, text, columns, -, rfl⟩ := loader.load_eq_ok_iff.mp succeeds
  have coherent := loader.coherent_standIn first
    (Table.coherent_assemble table text (.ofText text) (distinct reports columns) loader.source
      loader.types loader.choices)
  exact ⟨fun place column => coherent.numbered.index_eq, fun column => coherent.column?_name,
    coherent.marked, coherent.primaryKeyInRange, coherent.uniqueIndexesInRange,
    coherent.map_index_primaryKeyColumns, coherent.map_index_uniqueIndex?,
    fun asked some => loader.primaryKey_standIn_ne_nil first asked some⟩

end Loader

/-- A source whose statement declares a key on a column that is not reported. -/
def ghostKeySource : Source where
  statement _ := .ok "CREATE TABLE `log` (\n  `at` int,\n  `what` text,\n  PRIMARY KEY (`ghost`)\n)"
  columns _ := .ok [⟨"what", some true, "text"⟩, ⟨"at", none, "int"⟩]
  charLength table column := .error (.noLength table column)
  rawDefault _ _ := none

theorem load_coherent_ghostKey :
    ∃ loaded, ({ source := ghostKeySource } : Loader).load "log" = .ok loaded ∧
      loaded.columns.map Column.name = ["what", "at"] ∧
      loaded.primaryKeyColumns.map Column.index = loaded.primaryKey ∧ loaded.primaryKey ≠ [] := by
  let loader : Loader := { source := ghostKeySource }
  obtain ⟨loaded, succeeds⟩ : ∃ loaded, loader.load "log" = .ok loaded := ⟨_, rfl⟩
  have names : loaded.columns.map Column.name = ["what", "at"] := loader.names_load rfl succeeds rfl
  have some : loaded.columns ≠ [] := fun none => by simp [none] at names
  have distinct : ∀ reports, loader.source.columns "log" = .ok reports →
      (reports.map ReportedColumn.name).Nodup := by
    rintro _ ⟨⟩
    decide
  obtain ⟨-, -, -, -, -, read, -, keyed⟩ := loader.load_coherent rfl distinct succeeds
  exact ⟨loaded, succeeds, names, read, keyed rfl some⟩

end SchemaDump
