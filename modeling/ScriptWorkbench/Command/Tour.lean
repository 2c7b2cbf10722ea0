import ScriptWorkbench.Command.Report
import ScriptWorkbench.Workspace.Run

/-!
# A tour

Loads a sample into a workspace, shows what is derived from it, runs it on the
engine with a breakpoint and steps through the trace.
-/

namespace ScriptWorkbench.Tour

def sampleName : String := "p2pkh"

/-- The line whose breakpoint is set: the fourth word has it to itself. -/
def breakLine : Int := 4

/-- The workspace with the sample in it. -/
def loaded : Workspace :=
  let blank := Workspace.create "" "" .source
  (blank.loadSample? sampleName).getD blank

/-- The workspace with a line for each word and the breakpoint set. -/
def prepared : Workspace :=
  let words := Text.splitWords loaded.source
  ((loaded.editSource ("\n".intercalate words)).toggleBreakpoint breakLine).2

def derivedLines (workspace : Workspace) : List String :=
  ["ASM:    " ++ " ".intercalate (Text.splitWords workspace.source),
    s!"Hex:    {workspace.hex}  ({workspace.info})",
    "Python: " ++ workspace.exports.list,
    "C/C++:  " ++ workspace.exports.initializer]

def tableLines (workspace : Workspace) : List String :=
  "Line table:" :: (workspace.offsets.lineTable.zipIdx 1).map fun (offset, line) =>
    s!"  line {line}: byte {offset}"

def breakpointLine (workspace : Workspace) : String :=
  let offsets := workspace.breakpointOffsets.map toString
  "Breakpoint offsets: [" ++ ", ".intercalate offsets ++ "]"

/-- The step that a view shows, and the outcome if it is the last one. -/
def viewLines (words : List String) (view : Session.View) : List String :=
  let word := (view.tokenIndex.bind fun index => words[index.toNat]?).getD "?"
  let stack := Text.quotedList (Text.displayLines view.stackText)
  let step := s!"step {view.position}: " ++ Text.padRight 16 word ++ " stack=" ++ stack
  match view.phase with
  | .terminal => [step, "Finished: " ++ view.outcomeName ++ " " ++ view.errorDetail]
  | _ => [step]

/-- The lines on a run and its exit code. Only errors of the engine are looked for. -/
def runLines : Workspace.Outcome → List String × ExitCode
  | (.error _, _) => ([], .uncaught)
  | (.ok false, workspace) => (["Run failed: " ++ workspace.info], .success)
  | (.ok true, workspace) =>
    (workspace.session.viewsToEnd.flatMap (viewLines (Text.splitWords workspace.source)),
      .success)

def report (config : EngineConfig) : Exchange Report :=
  let introduction := derivedLines loaded ++ "" :: tableLines prepared ++
    ["", breakpointLine prepared]
  match prepared.stepForward (some config) with
  | .error _ => .settled { exitCode := .uncaught, entries := introduction.map Entry.output }
  | .ok exchange =>
    exchange.map fun outcome =>
      let (lines, exitCode) := runLines outcome
      { exitCode, entries := (introduction ++ lines).map Entry.output }

end ScriptWorkbench.Tour
