import ScriptWorkbench.Workspace.Run

/-!
# Records of a workspace

What each operation on a workspace has to say, in the order in which its parts
are carried out.
-/

namespace ScriptWorkbench

def codecFailureRecord (activity : String) (error : CodecError) : LogRecord :=
  { level := .debug, message := activity ++ " failed: " ++ error.fault.message }

def assemblyRecords (source : String) : List LogRecord :=
  match assemble source with
  | .ok _ => []
  | .error error => [codecFailureRecord "Assembly" error]

def disassemblyRecords (bytes : Bytes) : List LogRecord :=
  match disassemble bytes with
  | .ok _ => []
  | .error error => [codecFailureRecord "Disassembly" error]

namespace Program

/-- The records of exporting bytecode and mapping the source that goes with
it. -/
def derivationRecords (source : String) (bytes : Bytes) : List LogRecord :=
  match Exports.ofBytes bytes with
  | .error _ => disassemblyRecords bytes
  | .ok _ =>
    match OffsetMap.ofSource Token.sourceName source with
    | .error _ => []
    | .ok offsets => [offsets.record]

def sourceRecords (source : String) : List LogRecord :=
  match assemble source with
  | .error _ => assemblyRecords source
  | .ok bytes => derivationRecords source bytes

def hexRecords (current text : String) : List LogRecord :=
  match Hex.parse text with
  | .error _ => []
  | .ok bytes =>
    assemblyRecords current ++
      match sourceFor current bytes with
      | .error _ => disassemblyRecords bytes
      | .ok source => derivationRecords source bytes

end Program

namespace Workspace

def programRecords (workspace : Workspace) : List LogRecord :=
  match workspace.activeEditor with
  | .source => Program.sourceRecords workspace.source
  | .hex => Program.hexRecords workspace.source workspace.hex

def refreshRecords (workspace : Workspace) : List LogRecord :=
  let failure := match workspace.program with
    | .ok _ => []
    | .error error => [codecFailureRecord "Refresh" error]
  let compiled := workspace.adopt workspace.program
  workspace.programRecords ++ failure ++
    compiled.session.sourceChangeRecords (Text.splitWords compiled.source)

def beginRunRecords (workspace : Workspace) : List LogRecord :=
  let refusal : LogRecord := { level := .debug, message := "Run refused: source has errors" }
  workspace.refreshRecords ++ if workspace.refresh.fault.isSome then [refusal] else []

def runRequestRecords (workspace : Workspace) : List LogRecord :=
  if workspace.fault.isSome then []
  else unmappedLineRecords workspace.offsets.lineTable workspace.breakpoints

def completeRunRecords (ticket : Int) (response : RunResponse) (jumpToEnd : Bool)
    (workspace : Workspace) : List LogRecord :=
  match workspace.awaited? ticket with
  | none => [{ level := .debug, message := s!"Dropping response for superseded run {ticket}" }]
  | some run =>
    let loaded := Session.load response run.words (some run.offsets) jumpToEnd
    loaded.loadRecord response :: loaded.sourceChangeRecords (Text.splitWords workspace.source)

def failRunRecords (ticket : Int) (message : String) (workspace : Workspace) : List LogRecord :=
  match workspace.awaited? ticket with
  | none => []
  | some _ => [{ level := .warning, message := s!"Run {ticket} failed: {message}" }]

end Workspace

end ScriptWorkbench
