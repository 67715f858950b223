/-
**Loading tables from a source.**

A load asks the source for the columns, then for the statement; if either fails, so does the load.
Everything after that can only leave single fields as they are. A table without a primary key gets a
stand-in if the choices say so.
-/

import SchemaDump.Table.Assembly
import SchemaDump.Table.StandInKey

namespace SchemaDump

/-- A source, with all choices in how its tables are loaded. -/
structure Loader where
  source : Source
  types : TypeMapper := TypeName.ofNative
  policy : KeyPolicy := Table.withFirstColumnKey
  choices : LoadChoices := {}

namespace Loader

/-- The table with a stand-in key, if it has no primary key and the choices ask for one. -/
def standIn (loader : Loader) (table : Table) : Table :=
  if loader.choices.standInKey && table.primaryKey.isEmpty then loader.policy table else table

/-- Loads one table. -/
def load (loader : Loader) (table : String) : Except Failure Table := do
  let reports ← (loader.source.columns table).mapError (.introspection table)
  let text ← (loader.source.statement table).mapError (.fetch table)
  pure (loader.standIn
    (.assemble table text (.ofText text) reports loader.source loader.types loader.choices))

/-- Loads several tables, each on its own, in the order given. -/
def loadAll (loader : Loader) (tables : List String) : List (Except Failure Table) :=
  tables.map loader.load

end Loader

end SchemaDump
