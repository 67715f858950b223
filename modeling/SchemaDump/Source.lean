/-
**Sources of schemas.**

A source answers, for a table name, the statement that declares the table and the columns as it reports
them, and, for a column, a length and a default. The first three may fail, with a reason.
-/

import SchemaDump.DefaultText
import SchemaDump.Failure

namespace SchemaDump

/-- A column as a source reports it. -/
structure ReportedColumn where
  name : String
  /-- Whether the column takes NULL, if the source knows. -/
  nullable : Option Bool
  nativeType : String
  deriving DecidableEq, Repr

/-- A source of schemas. -/
structure Source where
  statement : (table : String) → Except Reason String
  columns : (table : String) → Except Reason (List ReportedColumn)
  charLength : (table column : String) → Except Reason Nat
  rawDefault : (table column : String) → Option (List UInt8)
  cleanDefault : List UInt8 → String := defaultText

end SchemaDump
