/-
**The command line.**

The command `inspect` takes settings with a value and switches, each at most once; the input must be
given. A value stands behind an equals sign, behind a short name, or in the next argument, which then may
not look like an option. A request for help ends the reading: what is missing then does not matter, but
what was given before must be right. The command `help` has a page for each command. Anything else is
refused as a whole.

An outcome is an exit code, the text for standard output and, for a run that failed, the text for
standard error. Of a run, nothing is printed unless the whole of it succeeded.
-/

import SchemaDump.Inspection
import SchemaDump.Report.Json
import SchemaDump.Report.Text

namespace SchemaDump

/-! ### Arguments -/

/-- The settings of a run that take a value. -/
inductive Setting where
  | input
  | pattern
  | format
  | unsignedPrefix
  deriving DecidableEq, Repr

/-- The switches of a run. -/
inductive Switch where
  | noStandInKey
  | verbose
  deriving DecidableEq, Repr

/-- What one argument gives. -/
inductive Given where
  | setting (name : Setting) (value : String)
  | switch (name : Switch)
  /-- A request for help, behind which nothing is read. -/
  | help
  deriving DecidableEq, Repr

/-- The setting with a long name. -/
def Setting.ofLong? (name : String) : Option Setting :=
  match name with
  | "input" => some .input
  | "include" => some .pattern
  | "format" => some .format
  | "unsigned-prefix" => some .unsignedPrefix
  | _ => none

/-- The setting with a letter as a short name. -/
def Setting.ofShort? (letter : Char) : Option Setting :=
  match letter with
  | 'i' => some .input
  | 'f' => some .format
  | _ => none

/-- The switch with a long name. -/
def Switch.ofLong? (name : String) : Option Switch :=
  match name with
  | "no-fallback-pk" => some .noStandInKey
  | "verbose" => some .verbose
  | _ => none

/-- The switch with a letter as a short name. -/
def Switch.ofShort? (letter : Char) : Option Switch :=
  match letter with
  | 'v' => some .verbose
  | _ => none

/-- What a long name without a value gives. -/
def Given.ofLong? (name : String) : Option Given :=
  if name = "help" then some .help else (Switch.ofLong? name).map .switch

/-- What a letter as a short name without a value gives. -/
def Given.ofShort? (letter : Char) : Option Given :=
  if letter = 'h' then some .help else (Switch.ofShort? letter).map .switch

/-- What an argument gives, and the setting whose value the next argument is, if any. -/
abbrev ArgumentReading := Option (List Given × Option Setting)

/-- Reads an argument behind its two hyphens. -/
def readLong (body : List Char) : ArgumentReading :=
  let name := String.ofList (body.takeWhile (· != '='))
  match Setting.ofLong? name, body.dropWhile (· != '=') with
  | some setting, _ :: value => some ([.setting setting (String.ofList value)], none)
  | some setting, [] => some ([], some setting)
  | none, [] => (Given.ofLong? name).map fun given => ([given], none)
  | none, _ :: _ => none

/-- Reads short names behind their one hyphen. The first one with a value takes all that follows it, and
what follows a request for help is not read. -/
def readShort : List Char → ArgumentReading
  | [] => some ([], none)
  | letter :: rest =>
    match Setting.ofShort? letter with
    | some setting =>
      match rest with
      | [] => some ([], some setting)
      | '=' :: value => some ([.setting setting (String.ofList value)], none)
      | value => some ([.setting setting (String.ofList value)], none)
    | none => do
      let given ← Given.ofShort? letter
      if given = .help then pure ([given], none)
      else do
        let (more, pending) ← readShort rest
        pure (given :: more, pending)

/-- Reads one argument that is not a value. -/
def readArgument (argument : List Char) : ArgumentReading :=
  match argument with
  | '-' :: '-' :: body => readLong body
  | '-' :: letter :: rest => readShort (letter :: rest)
  | _ => none

/-- Does an argument look like an option, so that it cannot be a value? -/
def looksLikeOption (argument : String) : Bool :=
  match argument.toList with
  | '-' :: _ :: _ => true
  | _ => false

/-- What the arguments give; `pending` is the setting whose value comes next. Two hyphens alone end
the options, and nothing may follow them. A request for help is the last that is given. -/
def readArguments : (pending : Option Setting) → List String → Option (List Given)
  | none, [] => some []
  | some _, [] => none
  | some setting, value :: rest =>
    if looksLikeOption value then none
    else (readArguments none rest).map (.setting setting value :: ·)
  | none, argument :: rest =>
    if argument = "--" then (if rest.isEmpty then some [] else none)
    else do
      let (given, pending) ← readArgument argument.toList
      if .help ∈ given then pure given
      else do
        let more ← readArguments pending rest
        pure (given ++ more)

/-! ### Requests -/

/-- The forms of a report. -/
inductive ReportFormat where
  | text
  | json
  deriving DecidableEq, Repr

/-- The form with the given name. -/
def ReportFormat.ofName? (name : String) : Option ReportFormat :=
  match name with
  | "text" => some .text
  | "json" => some .json
  | _ => none

/-- The pages of help: on the program, and on each of its commands. -/
inductive HelpPage where
  | program
  | inspect
  | help
  deriving DecidableEq, Repr

/-- What the command line asks for. -/
inductive Request where
  | version
  | help (page : HelpPage)
  | inspect (inspection : Inspection) (format : ReportFormat)

/-- What is given, without the value. -/
def Given.key : Given → Option (Setting ⊕ Switch)
  | .setting name _ => some (.inl name)
  | .switch name => some (.inr name)
  | .help => none

/-- The value given for a setting. -/
def valueOf? (given : List Given) (wanted : Setting) : Option String :=
  given.findSome? fun
    | .setting name value => if name = wanted then some value else none
    | .switch _ | .help => none

/-- The form of the report that is given, unless it has another name. -/
def givenFormat? (given : List Given) : Option ReportFormat :=
  match valueOf? given .format with
  | some name => ReportFormat.ofName? name
  | none => some .text

/-- The choices for loads that are given. -/
def givenChoices (given : List Given) : LoadChoices :=
  { unsignedPrefix := (valueOf? given .unsignedPrefix).getD "u"
    standInKey := !given.contains (.switch .noStandInKey) }

/-- The request for an inspection with what is given, or for help on it. -/
def Request.ofGiven? (given : List Given) : Option Request :=
  if ¬ (given.map Given.key).Nodup ∨ valueOf? given .input = some "" then none
  else do
    let format ← givenFormat? given
    if .help ∈ given then pure (.help .inspect)
    else do
      let input ← valueOf? given .input
      pure (.inspect ⟨⟨input⟩, valueOf? given .pattern, givenChoices given⟩ format)

/-- Does the argument ask for the version? -/
def asksVersion (argument : String) : Bool :=
  argument == "--version" || "-V".toList.isPrefixOf argument.toList

/-- Does the argument ask for help on the program? -/
def asksHelp (argument : String) : Bool :=
  argument == "--help" || "-h".toList.isPrefixOf argument.toList

/-- The page that the command `help` has on the names behind it. -/
def HelpPage.ofNames? : List String → Option HelpPage
  | [] => some .program
  | ["inspect"] => some .inspect
  | ["help"] => some .help
  | _ => none

/-- The request that the arguments make, unless they are refused. -/
def Request.ofArguments? (arguments : List String) : Option Request :=
  match arguments with
  | [] => none
  | command :: rest =>
    if asksVersion command then some .version
    else if asksHelp command then some (.help .program)
    else if command = "help" then (HelpPage.ofNames? rest).map .help
    else if command = "inspect" then (readArguments none rest).bind Request.ofGiven?
    else none

/-! ### Outcomes -/

/-- What a run leaves behind. -/
structure Outcome where
  code : Nat
  output : String := ""
  failure : Option String := none
  deriving DecidableEq, Repr

/-- The line of `--version`. -/
def versionLine : String := "rust-dbmeta 0.1.0\n"

/-- The pages of the manual. -/
def HelpPage.text : HelpPage → String
  | program =>
    "Table metadata from MySQL SHOW CREATE TABLE output\n\n" ++
    "Usage: rust-dbmeta <COMMAND>\n\n" ++
    "Commands:\n" ++
    "  inspect  Report column, primary key and unique index metadata for DDL files\n" ++
    "  help     Print this message or the help of the given subcommand(s)\n\n" ++
    "Options:\n" ++
    "  -h, --help     Print help\n" ++
    "  -V, --version  Print version\n"
  | inspect =>
    "Report column, primary key and unique index metadata for DDL files\n\n" ++
    "Usage: rust-dbmeta inspect [OPTIONS] --input <INPUT>\n\n" ++
    "Options:\n" ++
    "  -i, --input <INPUT>                      " ++
      "A .sql file, or a directory searched for .sql files\n" ++
    "      --include <INCLUDE>                  " ++
      "Only inspect files matching this glob (relative to the input directory)\n" ++
    "  -f, --format <FORMAT>                    " ++
      "Output format [default: text] [possible values: text, json]\n" ++
    "      --unsigned-prefix <UNSIGNED_PREFIX>  " ++
      "Prefix for the type name of unsigned columns [default: u]\n" ++
    "      --no-fallback-pk                     " ++
      "Do not mark the first column as primary key on tables without one\n" ++
    "  -v, --verbose                            Enable verbose output\n" ++
    "  -h, --help                               Print help\n"
  | help =>
    "Print this message or the help of the given subcommand(s)\n\n" ++
    "Usage: rust-dbmeta help [COMMAND]...\n\n" ++
    "Arguments:\n" ++
    "  [COMMAND]...  Print help for the subcommand(s)\n"

/-- A cause on lines of its own, behind its number if there are several causes. -/
def causeText (number : Option Nat) (cause : String) : String :=
  let (lead, margin) := match number with
    | some number => (padLeft 5 (toString number) ++ ": ", "       ")
    | none => ("    ", "    ")
  lead ++ ("\n" ++ margin).intercalate ((cause.toList.splitOn '\n').map String.ofList) ++ "\n"

/-- The text of a failed run: the outermost message, and the causes below it. -/
def failureText (chain : List String) : String :=
  match chain with
  | [] => ""
  | [message] => "Error: " ++ message ++ "\n"
  | [message, cause] => "Error: " ++ message ++ "\n\nCaused by:\n" ++ causeText none cause
  | message :: causes =>
    "Error: " ++ message ++ "\n\nCaused by:\n" ++
      String.join (causes.zipIdx.map fun (cause, number) => causeText (some number) cause)

/-- The report of tables in a form. -/
def report (format : ReportFormat) (tables : List Table) : String :=
  match format with
  | .text => String.join (tables.map fun table => table.textReport ++ "\n")
  | .json => jsonReport tables ++ "\n"

/-- The outcome of a request, with a manual for the pages of help. -/
def Request.outcome (files : FileSystem) (manual : HelpPage → String) : Request → Outcome
  | .version => { code := 0, output := versionLine }
  | .help page => { code := 0, output := manual page }
  | .inspect inspection format =>
    match inspection.run files with
    | .ok tables => { code := 0, output := report format tables }
    | .error failure => { code := 1, failure := some (failureText failure.chain) }

/-- The outcome of refused arguments. -/
def Outcome.refused : Outcome := { code := 2 }

/-- The outcome of a run with the given arguments. -/
def runCommand (files : FileSystem) (arguments : List String)
    (manual : HelpPage → String := HelpPage.text) : Outcome :=
  match Request.ofArguments? arguments with
  | some request => request.outcome files manual
  | none => .refused

end SchemaDump
