/-
**A stand-in key changes only what it must.**

Whether a stand-in is made turns on the places in the key and not on what the statement declares, so a
table whose declared members were all dropped gets one as well. Assembly marks columns by the declared
names, and it marks one exactly if the key has a member: where a stand-in is made, no column is marked.

* `Column.addNote_standInNote`: the note comes behind the one on an unsigned column;
* `Table.withFirstColumnKey_assemble`: a stand-in key on an assembled table;
* **`load_standInKey`**: a load that asks for a stand-in key against the same load without.
-/

import SchemaDump.Proofs.Loader
import SchemaDump.Proofs.Table.Adjustment
import SchemaDump.Proofs.Text.Lines

namespace SchemaDump

open SchemaDump.Text

/-! ### The note -/

/-- The note on a stand-in key has no blanks at its ends. -/
theorem trim_standInNote (table column : String) :
    String.ofList (trim (standInNote table column).toList) = standInNote table column := by
  have spelled : (standInNote table column).toList =
      't' :: ("able `".toList ++ table.toList ++ "` has no primary key defined, using column `".toList ++
        column.toList ++ "` at position ".toList) ++ ['1'] := by
    simp [standInNote]
  rw [spelled, trim_between (by decide) (by decide), ← spelled, String.ofList_toList]

/-- **A stand-in note comes behind the note on an unsigned column**, set off by a space. -/
theorem Column.addNote_standInNote (column : Column)
    (noted : column.notes = if column.isUnsigned then unsignedNote else "") (table name : String) :
    column.addNote (standInNote table name) =
      { column with
        notes := (if column.isUnsigned then unsignedNote ++ " " else "") ++ standInNote table name } := by
  rw [addNote, trim_standInNote, noted]
  split
  · rfl
  · rfl

example : (Column.addNote { isUnsigned := true, notes := unsignedNote } (standInNote "t" "n")).notes =
    "column is set for unsigned table `t` has no primary key defined, using column `n` at position 1" := by
  decide +kernel

/-! ### Tables -/

namespace Table

/-- **A stand-in key** is the place of the first column, which is marked and noted for it. -/
theorem withFirstColumnKey_eq {table : Table} {first : Column} {rest : List Column}
    (columns : table.columns = first :: rest) (place : first.index = 0)
    (noted : first.notes = if first.isUnsigned then unsignedNote else "") :
    table.withFirstColumnKey =
      { table with
        columns :=
          { first with
            isPrimaryKey := true
            notes := (if first.isUnsigned then unsignedNote ++ " " else "") ++
              standInNote table.name first.name } :: rest
        primaryKey := [0] } := by
  have marked := Column.addNote_standInNote { first with isPrimaryKey := true } noted table.name first.name
  rw [withFirstColumnKey, columns]
  dsimp only
  rw [marked, place]

/-- Assembly notes that a column is unsigned, and nothing else. -/
theorem notes_assemble {table text : String} {statement : Statement} {reports : List ReportedColumn}
    {source : Source} {types : TypeMapper} {choices : LoadChoices} :
    ∀ column ∈ (assemble table text statement reports source types choices).columns,
      column.notes = if column.isUnsigned then unsignedNote else "" :=
  forall_columns_assemble.mpr fun _ _ => rfl

end Table

/-! ### Loads -/

namespace Loader

/-- **A stand-in key changes only what it must.** With and without one asked for, a load fails alike or
succeeds. A table with a key, or without columns, is the same in both. Any other table has no marked
column, and with a stand-in key it is the same, but that its key is the place of its first column, which
is marked and has one more note. -/
theorem load_standInKey (source : Source) (types : TypeMapper) (choices : LoadChoices) (table : String) :
    let load (asked : Bool) : Except Failure Table :=
      { source := source, types := types, choices := { choices with standInKey := asked } : Loader }.load
        table
    (∃ failure, load false = .error failure ∧ load true = .error failure) ∨
    ∃ plain keyed, load false = .ok plain ∧ load true = .ok keyed ∧
      (plain.primaryKey ≠ [] ∨ plain.columns = [] → keyed = plain) ∧
      ∀ first rest, plain.primaryKey = [] → plain.columns = first :: rest →
        (∀ column ∈ plain.columns, column.isPrimaryKey = false) ∧
        first.notes = (if first.isUnsigned then unsignedNote else "") ∧
        keyed =
          { plain with
            columns :=
              { first with
                isPrimaryKey := true
                notes := (if first.isUnsigned then unsignedNote ++ " " else "") ++
                  standInNote table first.name } :: rest
            primaryKey := [0] } := by
  intro load
  obtain fails | ⟨reports, text, without, withKey⟩ :=
    load_both { source := source, types := types, choices := { choices with standInKey := false } }
      { source := source, types := types, choices := { choices with standInKey := true } } table rfl rfl
  · exact .inl fails
  · let plain : Table := .assemble table text (.ofText text) reports source types choices
    have noted : ∀ column ∈ plain.columns, _ := Table.notes_assemble
    have unmarked : plain.primaryKey = [] ↔ _ := Table.primaryKey_assemble_eq_nil_iff ..
    refine .inr ⟨plain, if plain.primaryKey.isEmpty then plain.withFirstColumnKey else plain, without,
      withKey, ?_, ?_⟩
    · rintro (keyed | bare)
      · exact if_neg (by simpa using keyed)
      · rw [Table.withFirstColumnKey, bare, ite_self]
    · intro first rest keyless columns
      have listed : first ∈ plain.columns := columns ▸ List.mem_cons_self
      have place : first.index = 0 :=
        (Table.numbered_assemble ..).index_eq (columns ▸ rfl : plain.columns[0]? = some first)
      refine ⟨unmarked.mp keyless, noted first listed, ?_⟩
      rw [keyless, List.isEmpty_nil, if_pos rfl]
      exact Table.withFirstColumnKey_eq columns place (noted first listed)

/-- A source whose statement declares a key on a column that is not reported, and whose first column is
unsigned. -/
def keylessSource : Source where
  statement _ := .ok "CREATE TABLE `t` (\n  `n` int unsigned,\n  PRIMARY KEY (`ghost`)\n)"
  columns _ := .ok [⟨"n", none, "int unsigned"⟩]
  charLength table column := .error (.noLength table column)
  rawDefault _ _ := none

/-- The first column stands in for the key that was dropped, and keeps its note. -/
theorem load_standInKey_keyless :
    ∃ plain keyed,
      ({ source := keylessSource, choices := { standInKey := false } } : Loader).load "t" = .ok plain ∧
      ({ source := keylessSource } : Loader).load "t" = .ok keyed ∧
      plain.columns.map Column.isPrimaryKey = [false] ∧
      keyed.primaryKey = [0] ∧ keyed.columns.map Column.isPrimaryKey = [true] ∧
      keyed.columns.map Column.notes =
        [unsignedNote ++ " " ++ "table `t` has no primary key defined, using column `n` at position 1"] := by
  obtain ⟨failure, fails, -⟩ | ⟨plain, keyed, without, withKey, -, standsIn⟩ :=
    load_standInKey keylessSource TypeName.ofNative {} "t"
  · exact nomatch fails
  · dsimp only at without withKey
    refine ⟨plain, keyed, without, withKey, ?_⟩
    have run : (Loader.load { source := keylessSource, choices := { standInKey := false } } "t").toOption.map
        (fun plain => (plain.primaryKey, plain.columns.map fun column => (column.name, column.isUnsigned))) =
          some ([], [("n", true)]) := by
      decide +kernel
    rw [without] at run
    obtain ⟨keyless, facts⟩ := Prod.mk.inj (Option.some.inj run)
    obtain ⟨first, columns, same⟩ := List.map_eq_singleton_iff.mp facts
    obtain ⟨name, unsigned⟩ := Prod.mk.inj same
    obtain ⟨unmarked, -, rfl⟩ := standsIn first [] keyless columns
    have plainMark : first.isPrimaryKey = false := unmarked first (columns ▸ List.mem_cons_self)
    refine ⟨by simp [columns, plainMark], rfl, rfl, ?_⟩
    rw [List.map_singleton, name, unsigned]
    rfl

end Loader

end SchemaDump
