/-
**Keys of a table loaded from a catalog mean the columns that they name.**

A catalog reports the columns that a statement declares, and a load keeps their names. So a key member
means a column of the table if some column line gives the same name. Column lines and key lines agree on
a name exactly if it has no backtick: a column never has one in its name, and a member that does is
dropped.

* `names_load_register`: a loaded table has the columns that its statement declares;
* `mem_primaryKeyColumns_load`, `mem_uniqueIndex?_load`: a member that is declared as a column means it;
* **`writtenName_resolves`**: what the lines give for a written name, and what comes of it in a table.
-/

import SchemaDump.Proofs.Catalog.RoundTrip
import SchemaDump.Proofs.Statement.WrittenName
import SchemaDump.Proofs.Table.Coherence
import SchemaDump.Proofs.Traversal

namespace SchemaDump

open SchemaDump.Text SchemaDump.Sql

/-! ### What the lines of a statement give -/

namespace Statement

theorem mem_names_ofText {text name : String} : name ∈ (ofText text).columns.names ↔
    ∃ line ∈ Line.ofStatement text, ∃ column, line.column? = some column ∧ column.name = name := by
  rw [ofText_eq_collect]
  show name ∈ (ClauseTable.ofList _).names ↔ _
  rw [ClauseTable.names_ofList, List.mem_eraseDups]
  simp only [List.mem_map, List.mem_filterMap]
  constructor
  · rintro ⟨column, ⟨line, listed, found⟩, rfl⟩
    exact ⟨line, listed, column, found, rfl⟩
  · rintro ⟨line, listed, column, found, rfl⟩
    exact ⟨column, ⟨line, listed, found⟩, rfl⟩

theorem mem_primaryKey_ofText {text name : String} : name ∈ (ofText text).primaryKey ↔
    ∃ line ∈ Line.ofStatement text, ∃ members, line.primaryKey? = some members ∧ name ∈ members := by
  rw [ofText_eq_collect]
  show name ∈ ((Line.ofStatement text).filterMap Line.primaryKey?).flatten ↔ _
  simp only [List.mem_flatten, List.mem_filterMap]
  constructor
  · rintro ⟨members, ⟨line, listed, found⟩, member⟩
    exact ⟨line, listed, members, found, member⟩
  · rintro ⟨line, listed, members, found, member⟩
    exact ⟨members, ⟨line, listed, found⟩, member⟩

end Statement

/-! ### Loads from a catalog -/

namespace Catalog

variable {catalog : Catalog} {table text : String} {types : TypeMapper} {choices : LoadChoices}
  {loaded : Table}

variable (succeeds : ((catalog.register table text).loader types choices).load table = .ok loaded)

include succeeds

/-- What a load from a catalog is made of. -/
theorem load_register_eq :
    ∃ reports, reports.map ReportedColumn.name = (Statement.ofText text).columns.names ∧
      loaded = ((catalog.register table text).loader types choices).standIn
        (.assemble table text (.ofText text) reports (catalog.register table text).source types
          choices) := by
  obtain ⟨reports, answer, columns, statement, rfl⟩ := Loader.load_eq_ok_iff _ |>.mp succeeds
  obtain rfl : answer = text :=
    Except.ok.inj (statement.symm.trans (catalog.statement_register table text))
  exact ⟨reports, names_of_columns (catalog.text?_register table _) columns, rfl⟩

/-- A loaded table has the columns that its statement declares. -/
theorem names_load_register :
    loaded.columns.map Column.name = (Statement.ofText text).columns.names := by
  obtain ⟨reports, names, rfl⟩ := load_register_eq succeeds
  rw [Loader.names_standIn _ rfl, Table.names_assemble, names]

theorem coherent_load_register : loaded.Coherent := by
  obtain ⟨reports, names, rfl⟩ := load_register_eq succeeds
  refine Loader.coherent_standIn _ rfl (Table.coherent_assemble _ _ _ ?_ _ _ _)
  rw [names]
  exact (Statement.ofText text).columns.distinct

theorem mem_names_of_mem {column : Column} (listed : column ∈ loaded.columns) :
    column.name ∈ (Statement.ofText text).columns.names :=
  names_load_register succeeds ▸ List.mem_map_of_mem listed

/-- **A member of the primary key that is declared as a column means that column.** -/
theorem mem_primaryKeyColumns_load {column : Column} (listed : column ∈ loaded.columns)
    (member : column.name ∈ (Statement.ofText text).primaryKey) : column ∈ loaded.primaryKeyColumns := by
  have known := mem_names_of_mem succeeds listed
  refine (coherent_load_register succeeds).mem_columnsAt_of_name listed ?_
  obtain ⟨reports, names, rfl⟩ := load_register_eq succeeds
  rw [← names] at known
  have read : column.name ∈ (Table.assemble table text (.ofText text) reports
      (catalog.register table text).source types choices).primaryKeyColumns.map Column.name := by
    rw [Table.primaryKeyColumns]
    refine (Table.map_name_columnsAt_assemble ..).symm ▸ List.mem_filter.mpr ⟨member, ?_⟩
    exact decide_eq_true known
  have keyed : (Table.assemble table text (.ofText text) reports
      (catalog.register table text).source types choices).primaryKey ≠ [] := by
    intro none
    rw [Table.primaryKeyColumns, none] at read
    exact List.not_mem_nil read
  rw [Loader.standIn_of_keyed _ keyed]
  exact read

/-- **So does a member of a unique index.** -/
theorem mem_uniqueIndex?_load {column : Column} (listed : column ∈ loaded.columns) {index : String}
    {members : List String}
    (declared : (Statement.ofText text).uniqueIndexes.get? index = some members)
    (member : column.name ∈ members) :
    ∃ columns, loaded.uniqueIndex? index = some columns ∧ column ∈ columns := by
  have known := mem_names_of_mem succeeds listed
  have coherent := coherent_load_register succeeds
  obtain ⟨reports, names, rfl⟩ := load_register_eq succeeds
  rw [← names] at known
  rw [Table.uniqueIndex?, Loader.uniqueIndexes_standIn _ rfl, Table.get?_uniqueIndexes_assemble,
    declared]
  refine ⟨_, rfl, coherent.mem_columnsAt_of_name listed ?_⟩
  rw [Loader.map_name_columnsAt_standIn _ rfl, Table.map_name_columnsAt_assemble]
  exact List.mem_filter.mpr ⟨member, decide_eq_true known⟩

end Catalog

/-- A column whose name has a backtick is declared by a clause that starts with one, and defines no
type. -/
theorem reportOf_of_ticked {line : Line} {name : String} (ticked : backtick ∈ name.toList)
    {rest : List Char} (spelled : line.text = writeName name ++ rest) :
    ∃ column, line.column? = some column ∧
      Catalog.reportOf column = .error (.unreadableType (untilBacktick name)) := by
  obtain ⟨more, found⟩ := ofLine?_writeName_of_ticked ticked rest
  refine ⟨_, (Line.column?_of_writeName spelled).trans found, ?_⟩
  rw [Catalog.reportOf, ofClause?_backtick]

/-- **What becomes of a written name.** Key lines give it as it was meant. A column line gives the part
in front of the first backtick, which is the name exactly if it has none; the clause is then cut off so
that it defines no type. In a table loaded from a catalog, a column line whose name has no backtick has
its column, which the key members of that name mean; and no column has a name with a backtick, so that
key members with one mean none. -/
theorem writtenName_resolves (name : String) :
    (∀ (line : Line) (text : List Char) (mention : Mention text name), EndsWord text →
      (line.text = behindKeywords .primary .key text → line.primaryKey? = some mention.names) ∧
      (line.text = behindKeywords .unique .key text →
        line.uniqueKey? = UniqueKey.ofNames? mention.names)) ∧
    (∀ (line : Line) (rest : List Char), line.text = writeName name ++ rest →
      line.column?.map DeclaredColumn.name = some (untilBacktick name) ∧
      (backtick ∈ name.toList → ∃ column, line.column? = some column ∧
        Catalog.reportOf column = .error (.unreadableType (untilBacktick name)))) ∧
    (untilBacktick name = name ↔ backtick ∉ name.toList) ∧
    ∀ (catalog : Catalog) (table text : String) (types : TypeMapper) (choices : LoadChoices)
      (loaded : Table),
      ((catalog.register table text).loader types choices).load table = .ok loaded →
      (backtick ∈ name.toList → name ∉ loaded.columns.map Column.name) ∧
      (backtick ∉ name.toList → ∀ line ∈ Line.ofStatement text, ∀ rest,
        line.text = writeName name ++ rest →
        ∃ column, loaded.column? name = some column ∧ column.name = name ∧
          (∀ key ∈ Line.ofStatement text, ∀ members, key.primaryKey? = some members →
            name ∈ members → column ∈ loaded.primaryKeyColumns) ∧
          ∀ index members, (Statement.ofText text).uniqueIndexes.get? index = some members →
            name ∈ members → ∃ columns, loaded.uniqueIndex? index = some columns ∧
              column ∈ columns) := by
  refine ⟨fun line text mention ends => ⟨Line.primaryKey?_of_mention mention ends,
    Line.uniqueKey?_of_mention mention ends⟩, fun line rest spelled => ⟨?_, fun ticked =>
    reportOf_of_ticked ticked spelled⟩, untilBacktick_eq_iff, ?_⟩
  · rw [Line.column?_of_writeName spelled, name_ofLine?_writeName]
  intro catalog table text types choices loaded succeeds
  have names := Catalog.names_load_register succeeds
  refine ⟨fun ticked known => ?_, fun free line listed rest spelled => ?_⟩
  · rw [names, Statement.mem_names_ofText] at known
    obtain ⟨line, -, column, found, rfl⟩ := known
    exact Line.free_of_column? found ticked
  · have known : name ∈ loaded.columns.map Column.name := by
      rw [names, Statement.mem_names_ofText]
      exact ⟨line, listed, _, (Line.column?_of_writeName spelled).trans
        (ofLine?_writeName_of_free free rest), rfl⟩
    obtain ⟨column, stored, rfl⟩ := List.mem_map.mp known
    refine ⟨column, (Catalog.coherent_load_register succeeds).column?_name stored, rfl,
      fun key declares members said member => ?_, fun index members declared member =>
      Catalog.mem_uniqueIndex?_load succeeds stored declared member⟩
    exact Catalog.mem_primaryKeyColumns_load succeeds stored
      (Statement.mem_primaryKey_ofText.mpr ⟨key, declares, members, said, member⟩)

/-- Column lines and key lines do not agree on every name. -/
theorem writtenName_disagrees :
    DeclaredColumn.ofLine? "`a``b` int".toList = some ⟨"a", "`b` int"⟩ ∧
    primaryKeyColumns? "PRIMARY KEY (`a``b`)".toList = some ["a`b"] ∧
    ¬ ∀ (name : String) (rest : List Char), name ≠ "" → lineFeed ∉ name.toList →
      (DeclaredColumn.ofLine? (writeName name ++ rest)).map DeclaredColumn.name = some name := by
  have key := (Mention.alone "a`b").primaryKeyColumns?_eq (endsWord_cons (by decide) _)
  refine ⟨by decide, key, fun agree => ?_⟩
  have cut := agree "a`b" " int".toList (by decide) (by decide)
  exact absurd cut (by decide)

end SchemaDump
