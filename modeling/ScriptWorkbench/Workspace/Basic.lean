import ScriptWorkbench.Debug.Session
import ScriptWorkbench.Sample
import ScriptWorkbench.Workspace.Program

/-!
# Workspaces

A workspace holds one script in two editors, everything derived from it, and a
debug session. The active editor determines the other one. A text that does
not compile leaves all derived values as they were.

A run is begun and completed apart, because the engine may take its time. Each
run has a ticket, and only the latest one is waited for.
-/

namespace ScriptWorkbench

inductive Editor where
  | source
  | hex
  deriving DecidableEq

/-- A run that waits for its response, with the words and the offset map of
the source that it was begun with. -/
structure PendingRun where
  ticket : Int
  words : List String
  offsets : OffsetMap
  deriving DecidableEq

structure Workspace where
  source : String
  hex : String
  exports : Exports := { list := "", initializer := "" }
  /-- What is wrong with the active editor's text. -/
  fault : Option CodecError := none
  /-- The status line. -/
  info : String := ""
  activeEditor : Editor
  /-- The lines with a breakpoint, in order. -/
  breakpoints : List Int := []
  session : Session := .idle
  /-- The offset map of the last source that compiled. -/
  offsets : OffsetMap := {}
  lastTicket : Int := 0
  pending : Option PendingRun := none
  deriving DecidableEq

namespace Workspace

/-! ## Compiling -/

def program (workspace : Workspace) : Except CodecError Program :=
  match workspace.activeEditor with
  | .source => Program.ofSource workspace.source
  | .hex => Program.ofHex workspace.source workspace.hex

/-- Takes over a program, or notes why there is none. -/
def adopt (workspace : Workspace) : Except CodecError Program → Workspace
  | .ok program =>
    { workspace with
      source := program.source
      hex := program.hex
      exports := program.exports
      offsets := program.offsets
      fault := none
      info := Hex.byteCountNote program.hex }
  | .error error => { workspace with fault := some error, info := "" }

/-- Compiles the active editor and ends the session if the words of the source
have changed. -/
def refresh (workspace : Workspace) : Workspace :=
  let compiled := workspace.adopt workspace.program
  { compiled with session := compiled.session.onSourceChanged (Text.splitWords compiled.source) }

/-- A workspace with the given texts, of which the active one is compiled. -/
def create (source hex : String) (activeEditor : Editor) : Workspace :=
  refresh { source, hex, activeEditor }

def errorText (workspace : Workspace) : String :=
  match workspace.fault with
  | some error => error.text
  | none => ""

/-! ## Editing -/

def editSource (text : String) (workspace : Workspace) : Workspace :=
  refresh { workspace with source := text, activeEditor := .source }

def editHex (text : String) (workspace : Workspace) : Workspace :=
  refresh { workspace with hex := text, activeEditor := .hex }

def switchEditor (editor : Editor) (workspace : Workspace) : Workspace :=
  refresh { workspace with activeEditor := editor }

def clear (workspace : Workspace) : Workspace :=
  match workspace.activeEditor with
  | .source => workspace.editSource ""
  | .hex => workspace.editHex ""

/-- Puts a sample into the source editor, if there is one of that name. -/
def loadSample? (name : String) (workspace : Workspace) : Option Workspace :=
  (Sample.find? name).map fun sample => workspace.editSource sample.source

/-! ## Breakpoints -/

/-- Puts a line into an ordered list of lines. -/
def insertLine (line : Int) : List Int → List Int
  | [] => [line]
  | first :: rest => if line ≤ first then line :: first :: rest else first :: insertLine line rest

/-- Sets or removes a breakpoint, and says whether the line has one now. -/
def toggleBreakpoint (line : Int) (workspace : Workspace) : Bool × Workspace :=
  if line ∈ workspace.breakpoints then
    (false, { workspace with breakpoints := workspace.breakpoints.erase line })
  else (true, { workspace with breakpoints := insertLine line workspace.breakpoints })

def breakpointOffsets (workspace : Workspace) : List Int :=
  workspace.offsets.breakpointOffsets workspace.breakpoints

/-! ## Running -/

/-- The request for the current program, unless there is an error. -/
def runRequest? (workspace : Workspace) : Option RunRequest :=
  match workspace.fault with
  | some _ => none
  | none => some { input := workspace.hex, breakpoints := some workspace.breakpointOffsets }

/-- Begins a run and gives its ticket. A text that does not compile is not
run. -/
def beginRun (workspace : Workspace) : Option Int × Workspace :=
  let refreshed := workspace.refresh
  match refreshed.fault with
  | some _ => (none, refreshed)
  | none =>
    let ticket := refreshed.lastTicket + 1
    let words := Text.splitWords refreshed.source
    (some ticket,
      { refreshed with
        lastTicket := ticket
        pending := some { ticket, words, offsets := refreshed.offsets } })

/-- The run that a ticket stands for, if it is waited for. -/
def awaited? (ticket : Int) (workspace : Workspace) : Option PendingRun :=
  workspace.pending.filter fun run => run.ticket == ticket

/-- Loads the response to the run that is waited for. The session is idle if
the source has changed since the run began. -/
def completeRun (ticket : Int) (response : RunResponse) (jumpToEnd : Bool)
    (workspace : Workspace) : Bool × Workspace :=
  match workspace.awaited? ticket with
  | none => (false, workspace)
  | some run =>
    let loaded := Session.load response run.words (some run.offsets) jumpToEnd
    (true,
      { workspace with
        pending := none
        session := loaded.onSourceChanged (Text.splitWords workspace.source)
        activeEditor := .source
        info := if response.outcome.succeeded then "Success!" else response.outcome.detail })

/-- Notes that the run that is waited for failed. -/
def failRun (ticket : Int) (message : String) (workspace : Workspace) : Bool × Workspace :=
  match workspace.awaited? ticket with
  | none => (false, workspace)
  | some _ =>
    (true, { workspace with pending := none, info := "Server connection error: " ++ message })

def view (workspace : Workspace) : Session.View := workspace.session.view

example :
    ((create "OP_DUP\n<0011>" "" .source).toggleBreakpoint 2).2.runRequest? =
      some { input := "76020011", breakpoints := some [1] } := by rfl

end Workspace

end ScriptWorkbench
