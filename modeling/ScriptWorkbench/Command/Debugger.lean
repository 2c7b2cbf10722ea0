import ScriptWorkbench.Command.Invocation
import ScriptWorkbench.Workspace.Records

/-!
# The debugger command

Shows the offset tables of a script, or runs a script on the engine and shows
the trace. Options before the name of the subcommand say how the engine is
reached; they are read first, so what they have to say is printed before any
complaint about the subcommand's own arguments.
-/

namespace ScriptWorkbench.DebuggerCommand

def name : String := "btcdbg"

def urlOption : OptionForm := { long := "url", takesValue := true }

def timeoutOption : OptionForm := { long := "timeout", takesValue := true }

def options : List OptionForm :=
  [urlOption, timeoutOption, verboseOption, versionOption, helpOption]

def breakOption : OptionForm := { long := "break", short := some 'b', takesValue := true }

def stepsOption : OptionForm := { long := "steps" }

structure Context where
  config : EngineConfig
  verbose : Bool

def Context.log (context : Context) (records : List LogRecord) : List Entry :=
  (LogRecord.lines context.verbose records).map .logged

/-! ## Offset tables -/

def lineTableLines (map : OffsetMap) : List String :=
  (map.lineTable.zipIdx 1).map fun (offset, line) =>
    "  line " ++ Text.padLeft 4 ' ' (toString line) ++ s!"  offset {offset}"

/-- The entry for the end of the program is marked. -/
def tokenTableLines (map : OffsetMap) (tokens : List Token) : List String :=
  map.tokenTable.map fun (offset, index) =>
    let word := match tokens[index.toNat]? with
      | some token => token.text
      | none => ""
    let mark := if offset = map.totalLength then "  (end)" else ""
    "  pc " ++ Text.padLeft 6 ' ' (toString offset) ++ "  token " ++
      Text.padLeft 4 ' ' (toString index) ++ "  " ++ word ++ mark

def tableLines (map : OffsetMap) (tokens : List Token) : List String :=
  "Line table:" :: lineTableLines map ++ "PC map:" :: tokenTableLines map tokens ++
    [s!"{map.tokenCount} tokens, {map.totalLength} bytes"]

def mapSource (filename source : String) : Except CodecError (OffsetMap × List Token) := do
  let map ← OffsetMap.ofSource filename source
  let tokens ← Token.ofSource .standard filename source
  return (map, tokens)

def showOffsets (invocation : Invocation) (context : Context) (path : FilePath) : Report :=
  match invocation.readText (some path) with
  | .error failure => .ofFailure context.verbose [] "" failure
  | .ok source =>
    match mapSource path.text source with
    | .error error => .ofFailure context.verbose [] "" (.ofCodecError error)
    | .ok (map, tokens) =>
      { entries := context.log [map.record] ++ (tableLines map tokens).map Entry.output }

/-! ## Runs -/

/-- A stack between brackets, with an item for each line of its text. -/
def stackItems (text : String) : String :=
  "[" ++ ", ".intercalate (Text.displayLines text) ++ "]"

/-- The word that a view points at, with its line. -/
def viewPlace (words : List String) (view : Session.View) : String :=
  match view.tokenIndex.bind fun index => words[index.toNat]? with
  | some word =>
    let line := match view.highlightLine with
      | some line => toString line
      | none => "None"
    s!"{word} (line {line})"
  | none => "(unmapped)"

def viewLines (words : List String) (view : Session.View) : List String :=
  match view.programCounter with
  | none => ["(no steps)"]
  | some programCounter =>
    [s!"step {view.position}: pc={programCounter} " ++ viewPlace words view,
      "  stack:    " ++ stackItems view.stackText,
      "  altstack: " ++ stackItems view.altStackText]

/-- What the loop over a loaded trace prints, in at most as many steps forward as
given: every view up to the end, with what the steps in between record. -/
def loopEntries (context : Context) (words : List String) : (steps : Nat) → Session → List Entry
  | 0, session => (viewLines words session.view).map Entry.output
  | steps + 1, session =>
    let shown := (viewLines words session.view).map Entry.output
    match session.phase with
    | .active =>
      shown ++ context.log session.forwardRecords ++
        loopEntries context words steps session.stepForward
    | _ => shown

/-- The report on a loaded trace: every view up to the end, or the last one alone,
and the outcome of the run. Every step forward gets closer to the end, so no more
steps are taken than the trace has. -/
def traceReport (context : Context) (session : Session) : Report :=
  let shown := loopEntries context session.words session.traceLength session
  match (session.viewsToEnd.getLastD session.view).reached with
  | some .success => { entries := shown ++ [.output "Result: success"] }
  | reached =>
    let detail := match reached with
      | some outcome => outcome.detail
      | none => ""
    { exitCode := .scriptFailed, entries := shown ++ [.output ("Result: error: " ++ detail)] }

structure RunSettings where
  path : FilePath
  /-- The lines whose breakpoints are toggled, in order. -/
  breakLines : List Int
  showsSteps : Bool

/-- The report on a run that the engine has answered. Only errors of the engine are
looked for. -/
def settle (context : Context) (settings : RunSettings) (begun : Workspace) (ticket : Int)
    (earlier : List Entry) (outcome : PostOutcome) : Report :=
  let answered := earlier ++ context.log (Engine.outcomeRecords outcome)
  match Engine.readOutcome context.config outcome with
  | .escaped _ => { exitCode := .uncaught, entries := answered }
  | .failed error =>
    let records := begun.failRunRecords ticket error.message
    .ofFailure context.verbose (answered ++ context.log records) "Engine" (.engine error.message)
  | .response response =>
    let jumpToEnd := !settings.showsSteps
    let completed := (begun.completeRun ticket response jumpToEnd).2
    let records := begun.completeRunRecords ticket response jumpToEnd
    (traceReport context completed.session).after (answered ++ context.log records)

def runSource (context : Context) (settings : RunSettings) (source : String) : Exchange Report :=
  let blank : Workspace := { source, hex := "", activeEditor := .source }
  let created := Workspace.create source "" .source
  let compiling := context.log blank.refreshRecords
  match created.fault with
  | some error => .settled (.ofFailure context.verbose compiling "" (.ofCodecError error))
  | none =>
    let marked := settings.breakLines.foldl
      (fun workspace line => (workspace.toggleBreakpoint line).2) created
    let (ticket, begun) := marked.beginRun
    match ticket, begun.runRequest? with
    | some ticket, some request =>
      let records := marked.beginRunRecords ++ begun.runRequestRecords ++
        [Engine.requestRecord context.config request]
      let earlier := compiling ++ context.log records
      .posting (Engine.post context.config request)
        (settle context settings begun ticket earlier)
    | _, _ => .settled (.ofFailure context.verbose compiling "" (.internal begun.errorText))

def runScript (invocation : Invocation) (context : Context) (settings : RunSettings) :
    Exchange Report :=
  match invocation.readText (some settings.path) with
  | .error failure => .settled (.ofFailure context.verbose [] "" failure)
  | .ok source => runSource context settings source

/-! ## Arguments -/

/-- A line number for a breakpoint, which is at least 1. -/
def readLine? (text : String) : Option Int :=
  (Number.parseInteger? text).filter fun line => 1 ≤ line

/-- The one operand of a subcommand, which is a file. -/
def fileOperand? (files : FileSystem) (arguments : Arguments) : Option FilePath :=
  match arguments.operands with
  | [operand] => if files.hasFile operand then some (.ofText operand) else none
  | _ => none

def runSettings? (files : FileSystem) (arguments : Arguments) : Option RunSettings := do
  let breakLines ← (arguments.values breakOption.long).mapM readLine?
  let path ← fileOperand? files arguments
  return { path, breakLines, showsSteps := arguments.has stepsOption.long }

/-- The configuration that options give on top of the environment's. An empty
address counts as none. -/
def configure? (config : EngineConfig) (arguments : Arguments) : Option EngineConfig := do
  let timeout ← choice? arguments timeoutOption Number.Binary64.parse?
  let url := (arguments.value? urlOption.long).filter fun url => url ≠ ""
  return { config with url := url.getD config.url, timeout := timeout.getD config.timeout }

/-- Reads arguments and goes on with them, unless they ask for help or for the
version. -/
def withArguments (forms : List OptionForm) (mixed : Bool) (arguments : List String)
    (execute : Arguments → Exchange Report) : Exchange Report :=
  match Arguments.parse forms mixed arguments with
  | .error error => .settled (.ofOptionError error)
  | .ok arguments =>
    match informationReport? name arguments with
    | some report => .settled report
    | none => execute arguments

inductive Subcommand where
  | offsets
  | run

def Subcommand.ofName? : String → Option Subcommand
  | "offsets" => some .offsets
  | "run" => some .run
  | _ => none

def Subcommand.execute (subcommand : Subcommand) (invocation : Invocation) (context : Context)
    (arguments : List String) : Exchange Report :=
  match subcommand with
  | .offsets =>
    withArguments [helpOption] true arguments fun arguments =>
      match fileOperand? invocation.files arguments with
      | some path => .settled (showOffsets invocation context path)
      | none => .settled .usage
  | .run =>
    withArguments [breakOption, stepsOption, helpOption] true arguments fun arguments =>
      match runSettings? invocation.files arguments with
      | some settings => runScript invocation context settings
      | none => .settled .usage

/-- Refuses operands that name no subcommand. They may be meant as options, so
they are read as such first: one that is at fault is named, and one that asks
for information gets it. -/
def refuseSubcommand (operands : List String) : Exchange Report :=
  withArguments options false operands fun _ => .settled .usage

/-- Carries out the subcommand that the operands of the command name. -/
def executeSubcommand (invocation : Invocation) (arguments : Arguments) : Exchange Report :=
  let (environmentConfig, records) := EngineConfig.ofEnvironment invocation.environment
  let verbose := arguments.has verboseOption.long
  match configure? environmentConfig arguments, arguments.operands with
  | some config, subcommandName :: rest =>
    match Subcommand.ofName? subcommandName with
    | some subcommand =>
      let context : Context := { config, verbose }
      (subcommand.execute invocation context rest).map (Report.after (context.log records))
    | none => refuseSubcommand arguments.operands
  | _, _ => .settled .usage

def run (invocation : Invocation) : Exchange Report :=
  withArguments options false invocation.arguments (executeSubcommand invocation)

end ScriptWorkbench.DebuggerCommand
