import ScriptWorkbench.CodecError
import ScriptWorkbench.Command.FileSystem
import ScriptWorkbench.Command.Options
import ScriptWorkbench.Log
import ScriptWorkbench.Text.ControlSequence

/-!
# Reports

What a command leaves behind: what it prints, the file it writes and its exit code.
How a failure is worded and which exit code it has is the same for all commands.

A report says what is printed. What is seen of it depends on the console, which may
leave out control sequences, and cannot encode every line. A line that it cannot
encode ends the command.
-/

namespace ScriptWorkbench

inductive ExitCode where
  | success
  /-- The text does not assemble or disassemble. -/
  | codecError
  | invalidArguments
  | internalError
  | engineError
  | scriptFailed
  /-- An error that nothing looks for ends the command. -/
  | uncaught
  deriving DecidableEq

def ExitCode.value : ExitCode → Nat
  | .success => 0
  | .codecError => 1
  | .invalidArguments => 2
  | .internalError => 3
  | .engineError => 4
  | .scriptFailed => 5
  | .uncaught => 1

inductive Failure where
  | codec (error : CodecError)
  | engine (message : String)
  | file (error : FileError)
  /-- A file is not text. -/
  | encoding (fault : Text.Utf8Fault)
  /-- A request that the command cannot fulfil as it stands. -/
  | invalid (message : String)
  | internal (message : String)
  deriving DecidableEq

namespace Failure

/-- The failure of script text. A payload that is too long is not foreseen. -/
def ofCodecError (error : CodecError) : Failure :=
  match error.fault with
  | .pushLength length => .internal length.message
  | _ => .codec error

/-- A missing file is the user's mistake. Other trouble with files is not
foreseen. -/
def exitCode : Failure → ExitCode
  | .codec _ => .codecError
  | .engine _ => .engineError
  | .file (.missing _) | .invalid _ => .invalidArguments
  | .file _ | .encoding _ | .internal _ => .internalError

/-- The failure in the words of whoever found it. -/
def message : Failure → String
  | .codec error => error.text
  | .file error => error.message
  | .encoding fault => fault.message
  | .engine message | .invalid message | .internal message => message

/-- The failure under its heading. A codec error brings its own; that of an
engine error may have a label. -/
def text (label : String) (failure : Failure) : String :=
  match failure.exitCode with
  | .codecError => failure.message
  | .internalError => "Internal error: " ++ failure.message
  | .engineError =>
    (if label = "" then "Error: " else label ++ " error: ") ++ failure.message
  | _ => "Error: " ++ failure.message

end Failure

/-- A piece of what a command prints. -/
inductive Entry where
  /-- A line on the standard output. -/
  | output (line : String)
  /-- What the command itself says on the standard error. -/
  | notice (text : String)
  /-- A line of the log, on the standard error too. -/
  | logged (line : String)
  deriving DecidableEq

namespace Entry

def outputLine? : Entry → Option String
  | .output line => some line
  | .notice _ | .logged _ => none

def diagnostic? : Entry → Option String
  | .output _ => none
  | .notice text | .logged text => some text

end Entry

structure Report where
  exitCode : ExitCode := .success
  /-- All that is printed, in order. -/
  entries : List Entry := []
  /-- Whether a description of the usage stands in place of the diagnostics. -/
  showsUsage : Bool := false
  /-- Whether the place of an internal error is shown after the diagnostics. -/
  showsTrace : Bool := false
  written : Option (FilePath × String) := none
  deriving DecidableEq

namespace Report

/-- The lines on the standard output. -/
def output (report : Report) : List String := report.entries.filterMap Entry.outputLine?

/-- The texts on the standard error. -/
def diagnostics (report : Report) : List String := report.entries.filterMap Entry.diagnostic?

/-- The report on arguments that do not fit the command. -/
def usage : Report := { exitCode := .invalidArguments, showsUsage := true }

/-- The report on arguments that do not follow the rules of options. An option
without its value, or with one too many, is named. -/
def ofOptionError : OptionError → Report
  | .unknown _ => usage
  | .missingValue spelling =>
    { exitCode := .invalidArguments
      entries := [.notice ("Error: Option " ++ Text.quoted spelling ++ " requires an argument.")] }
  | .unexpectedValue spelling =>
    { exitCode := .invalidArguments
      entries := [.notice ("Error: Option " ++ Text.quoted spelling ++ " does not take a value.")] }

def ofFailure (verbose : Bool) (earlier : List Entry) (label : String)
    (failure : Failure) : Report :=
  { exitCode := failure.exitCode
    entries := earlier ++ [.notice (failure.text label)]
    showsTrace := verbose && failure.exitCode == .internalError }

/-- Puts entries in front. A description of the usage leaves no room for them on the
standard error. -/
def after (earlier : List Entry) (report : Report) : Report :=
  { report with entries := earlier ++ report.entries }

end Report

/-! ## What is seen -/

/-- How the two streams show what is printed on them. The standard output shows
nothing of a line that it cannot encode; the standard error can encode every text. -/
structure Console where
  output? : String → Option String
  error : String → String

namespace Console

/-- Streams that encode all characters. One that is no terminal gets plain text. -/
def ofTerminals (outputIsTerminal errorIsTerminal : Bool) : Console where
  output? line :=
    if Text.isEncodable line then some (if outputIsTerminal then line else Text.plain line)
    else none
  error text := if errorIsTerminal then text else Text.plain text

/-- Both streams go to files. -/
def redirected : Console := ofTerminals false false

/-- An entry as it is shown. The log is shown as it was recorded. -/
def show? (console : Console) : Entry → Option Entry
  | .output line => (console.output? line).map Entry.output
  | .notice text => some (.notice (console.error text))
  | .logged line => some (.logged line)

/-- The entries as they are shown, up to one that cannot be. -/
def showUntil (console : Console) : List Entry → List Entry
  | [] => []
  | entry :: rest =>
    match console.show? entry with
    | some shown => shown :: showUntil console rest
    | none => []

end Console

/-- What is seen of a report. -/
def Report.seenOn (console : Console) (report : Report) : Report :=
  match report.entries.mapM console.show? with
  | some shown => { report with entries := shown }
  | none =>
    { exitCode := .uncaught
      entries := console.showUntil report.entries
      written := report.written }

/-- Half of a surrogate pair cannot be encoded. -/
example :
    let half := String.singleton (Text.characterOfUnit 0xD800)
    ({ entries := [.output "4c", .output half, .output "51"] } : Report).seenOn .redirected =
      { exitCode := .uncaught, entries := [.output "4c"] } := by
  decide +kernel

end ScriptWorkbench
