/-
**Tables as JSON.**

The report is an array with one object for each table. Columns are given with all their fields; keys are
given by the names of their columns, in key order, and the unique indexes in order of index names.
-/

import SchemaDump.Json
import SchemaDump.Table

namespace SchemaDump

open Json

/-- A column, with all its fields. -/
def Column.json (column : Column) : Json :=
  .object
    [("index", .number column.index),
     ("name", .string column.name),
     ("nullable", .bool column.nullable),
     ("database_type_name", .string column.nativeType),
     ("column_type", .string column.typeName),
     ("column_len", (column.length.map Json.number).getD .null),
     ("is_primary_key", .bool column.isPrimaryKey),
     ("is_auto_increment", .bool column.isAutoIncrement),
     ("is_unsigned", .bool column.isUnsigned),
     ("default_value", .string column.defaultValue),
     ("comment", .string column.comment),
     ("notes", .string column.notes),
     ("column_ddl", .string column.clause)]

/-- The names of the columns, as an array. -/
def columnNames (columns : List Column) : Json :=
  .array (columns.map fun column => .string column.name)

/-- A table, with its keys by column names. -/
def Table.json (table : Table) : Json :=
  .object
    [("table", .string table.name),
     ("columns", .array (table.columns.map Column.json)),
     ("primary_key", columnNames table.primaryKeyColumns),
     ("unique_indexes",
       .object (table.uniqueIndexColumns.map fun (name, columns) => (name, columnNames columns)))]

/-- The report of several tables. -/
def jsonReport (tables : List Table) : String := (Json.array (tables.map Table.json)).text

end SchemaDump
