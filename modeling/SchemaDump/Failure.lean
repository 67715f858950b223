/-
**What can go wrong, and how it is told.**

A failure has a message of its own and causes, outermost first; its chain is all of them. Two of them
only leave a result poorer and stop nothing: a failed length lookup and a malformed key line.
`RunFailure` is what stops a whole run over files.
-/

namespace SchemaDump

/-- Why a source of schemas or files gave no answer. -/
inductive Reason where
  /-- The catalog has no statement of the table. -/
  | noStatement (table : String)
  /-- The clause of the column does not start with a type. -/
  | unreadableType (column : String)
  /-- Statements alone do not tell the length. -/
  | noLength (table column : String)
  | fileMissing
  | notADirectory
  | isADirectory
  /-- A name has more bytes than a directory can list, or a path more than it may have. -/
  | nameTooLong
  /-- A path has the character 0 in it, which no name has. -/
  | zeroInName
  /-- What an outside source tells, with its causes, outermost first. -/
  | told (message : String) (causes : List String)
  deriving DecidableEq, Repr

/-- The messages of a reason, outermost first. -/
def Reason.messages : Reason → List String
  | .noStatement table => ["no DDL registered for table `" ++ table ++ "`"]
  | .unreadableType column => ["cannot read type of column `" ++ column ++ "`"]
  | .noLength table column =>
    ["character length of `" ++ table ++ "`.`" ++ column ++
      "` is not available without a database"]
  | .fileMissing => ["No such file or directory (os error 2)"]
  | .notADirectory => ["Not a directory (os error 20)"]
  | .isADirectory => ["Is a directory (os error 21)"]
  | .nameTooLong => ["File name too long (os error 36)"]
  | .zeroInName => ["file name contained an unexpected NUL byte"]
  | .told message causes => message :: causes

/-- What goes wrong with one table or one file. -/
inductive Failure where
  | fetch (table : String) (reason : Reason)
  | introspection (table : String) (reason : Reason)
  | lengthLookup (table column : String) (reason : Reason)
  | malformedKeyLine (number : Nat) (text : String)
  | unreadableFile (path : String) (reason : Reason)
  | undecodableFile (path : String)
  | noFiles (path : String)
  deriving DecidableEq, Repr

namespace Failure

/-- The message of a failure, without its causes. -/
def message : Failure → String
  | fetch table _ => "Failed to fetch DDL for table `" ++ table ++ "`"
  | introspection table _ => "Failed to introspect columns of table `" ++ table ++ "`"
  | lengthLookup table column _ =>
    "Failed to look up character length of `" ++ table ++ "`.`" ++ column ++ "`"
  | malformedKeyLine number text =>
    "Malformed constraint at DDL line " ++ toString number ++ ": " ++ text
  | unreadableFile path _ => "Failed to read DDL file: " ++ path
  | undecodableFile path => "DDL file is neither UTF-8 nor Windows-1252: " ++ path
  | noFiles path => "No .sql files found under " ++ path

/-- The messages of the causes, outermost first. -/
def causes : Failure → List String
  | fetch _ reason | introspection _ reason | lengthLookup _ _ reason | unreadableFile _ reason =>
    reason.messages
  | malformedKeyLine .. | undecodableFile _ | noFiles _ => []

/-- The message and the messages of the causes, outermost first. -/
def chain (failure : Failure) : List String := failure.message :: failure.causes

/-- Does the failure stop the work on its table or file? -/
def isFatal : Failure → Bool
  | lengthLookup .. | malformedKeyLine .. => false
  | fetch .. | introspection .. | unreadableFile .. | undecodableFile _ | noFiles _ => true

end Failure

/-- The fault in a file name pattern, and the character position at which it is found. -/
structure PatternFault where
  position : Nat
  text : String
  deriving DecidableEq, Repr

/-- The message of a fault in a pattern. -/
def PatternFault.message (fault : PatternFault) : String :=
  "Pattern syntax error near position " ++ toString fault.position ++ ": " ++ fault.text

/-- What stops a run over files. -/
inductive RunFailure where
  | pattern (fault : PatternFault)
  /-- Finding or reading files failed. -/
  | files (failure : Failure)
  | repeatedTable (table : String)
  /-- Loading the table failed. -/
  | table (table : String) (failure : Failure)
  deriving DecidableEq, Repr

/-- The messages of what stopped a run, outermost first. -/
def RunFailure.chain : RunFailure → List String
  | .pattern fault => [fault.message]
  | .files failure => failure.chain
  | .repeatedTable name => ["table `" ++ name ++ "` is defined by more than one file"]
  | .table name failure => ("while inspecting table `" ++ name ++ "`") :: failure.chain

/-- The messages of a chain in one line. -/
def chainText (chain : List String) : String := ": ".intercalate chain

end SchemaDump
