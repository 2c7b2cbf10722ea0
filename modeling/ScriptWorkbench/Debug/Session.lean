import ScriptWorkbench.Debug.OffsetMap
import ScriptWorkbench.Debug.Trace

/-!
# Debug sessions

A session is idle or plays back one trace. Its position is the number of steps
shown so far; past the first step it moves between 1 and the length of the
trace. A session ends when the source no longer has the words that the trace
was loaded with.
-/

namespace ScriptWorkbench

structure Playback where
  response : RunResponse
  position : Nat
  /-- The words of the source that the trace belongs to. -/
  words : List String
  offsets : Option OffsetMap
  deriving DecidableEq

inductive Session where
  | idle
  | loaded (playback : Playback)
  deriving DecidableEq

/-- Whether a session has no trace, is inside one, or has shown all of it. -/
inductive SessionPhase where
  | idle
  | active
  | terminal
  deriving DecidableEq

def SessionPhase.name : SessionPhase → String
  | .idle => "IDLE"
  | .active => "ACTIVE"
  | .terminal => "TERMINAL"

namespace Playback

def length (playback : Playback) : Nat := playback.response.trace.length

/-- The position that a fresh trace starts at and never goes back behind. -/
def firstPosition (playback : Playback) : Nat := min 1 playback.length

def phase (playback : Playback) : SessionPhase :=
  if playback.length ≤ playback.position then .terminal else .active

/-- The outcome of the run, once all of the trace has been shown. -/
def reachedOutcome (playback : Playback) : Option RunOutcome :=
  match playback.phase with
  | .terminal => some playback.response.outcome
  | _ => none

def forward (playback : Playback) : Playback :=
  { playback with position := min (playback.position + 1) playback.length }

def backward (playback : Playback) : Playback :=
  { playback with position := max (playback.position - 1) playback.firstPosition }

def currentStep? (playback : Playback) : Option TraceStep :=
  match playback.position with
  | 0 => none
  | shown + 1 => playback.response.trace[shown]?

end Playback

namespace Session

/-! ## Transitions -/

/-- A session that plays back a response from its first step, or from its
last. -/
def load (response : RunResponse) (words : List String) (offsets : Option OffsetMap)
    (jumpToEnd : Bool) : Session :=
  let length := response.trace.length
  .loaded { response, position := if jumpToEnd then length else min 1 length, words, offsets }

def stepForward : Session → Session
  | .idle => .idle
  | .loaded playback => .loaded playback.forward

def stepBackward : Session → Session
  | .idle => .idle
  | .loaded playback => .loaded playback.backward

/-- Ends the session if the source has other words than it was loaded with. -/
def onSourceChanged (words : List String) : Session → Session
  | .idle => .idle
  | .loaded playback => if words = playback.words then .loaded playback else .idle

/-! ## Queries -/

def phase : Session → SessionPhase
  | .idle => .idle
  | .loaded playback => playback.phase

def hasTrace : Session → Bool
  | .idle => false
  | .loaded _ => true

def position : Session → Nat
  | .idle => 0
  | .loaded playback => playback.position

def traceLength : Session → Nat
  | .idle => 0
  | .loaded playback => playback.length

/-- The outcome of the loaded run, whether or not its end is shown. -/
def outcome? : Session → Option RunOutcome
  | .idle => none
  | .loaded playback => some playback.response.outcome

def reachedOutcome : Session → Option RunOutcome
  | .idle => none
  | .loaded playback => playback.reachedOutcome

def words : Session → List String
  | .idle => []
  | .loaded playback => playback.words

/-- The name of an outcome that may not be reached yet. -/
def outcomeName : Option RunOutcome → String
  | none => "none"
  | some outcome => outcome.name

/-! ## Views -/

structure View where
  phase : SessionPhase
  position : Nat := 0
  programCounter : Option Nat := none
  tokenIndex : Option Int := none
  /-- The token to highlight, counted from 1 while steps are left and from 0 at
  the end of the trace; 0 if there is none. -/
  highlightToken : Int := 0
  highlightLine : Option Int := none
  stackText : String := ""
  altStackText : String := ""
  reached : Option RunOutcome := none
  deriving DecidableEq

namespace View

def outcomeName (view : View) : String := Session.outcomeName view.reached

/-- What went wrong, if the end of a failed run is shown. -/
def errorDetail (view : View) : String :=
  match view.reached with
  | some outcome => outcome.detail
  | none => ""

end View

/-- What is shown of one step of a loaded trace. -/
def viewOfStep (playback : Playback) (step : TraceStep) : View :=
  let phase := playback.phase
  let tokenIndex := playback.offsets.bind fun offsets => offsets.tokenAt step.programCounter
  {
    phase
    position := playback.position
    programCounter := some step.programCounter
    tokenIndex
    highlightToken :=
      match tokenIndex, phase with
      | none, _ => 0
      | some index, .terminal => index
      | some index, _ => index + 1
    highlightLine := playback.offsets.bind fun offsets => tokenIndex.bind offsets.lineOfToken
    stackText := ScriptWorkbench.stackText step.stack
    altStackText := ScriptWorkbench.stackText step.altStack
    reached := playback.reachedOutcome }

def view : Session → View
  | .idle => { phase := .idle }
  | .loaded playback =>
    match playback.currentStep? with
    | none => { phase := playback.phase, reached := playback.reachedOutcome }
    | some step => viewOfStep playback step

/-- The views from the position on, for as many steps as given or up to the end
of the trace. -/
def viewsWithin : (steps : Nat) → Session → List View
  | 0, session => [session.view]
  | steps + 1, session =>
    match session.phase with
    | .active => session.view :: viewsWithin steps session.stepForward
    | _ => [session.view]

/-- The views from the position to the end of the trace. Every step forward
gets closer to the end, so no more steps are taken than the trace has. -/
def viewsToEnd (session : Session) : List View := viewsWithin session.traceLength session

/-! ## Records -/

def loadRecord (response : RunResponse) (session : Session) : LogRecord :=
  let length := response.trace.length
  let status := response.outcome.name
  let reached := s!"step {session.position} ({session.phase.name})"
  { level := .debug, message := s!"Loaded trace: {length} steps, status {status}, " ++ reached }

/-- The record of a step forward, if it shows the last step for the first
time. -/
def forwardRecords (session : Session) : List LogRecord :=
  match session.phase, session.stepForward.reachedOutcome with
  | .active, some outcome =>
    [{ level := .info, message := "Reached end of trace: " ++ outcome.name }]
  | _, _ => []

/-- The record of a session that a change of source ends. -/
def sourceChangeRecords (words : List String) (session : Session) : List LogRecord :=
  if session.hasTrace && session.onSourceChanged words = .idle then
    [{ level := .debug, message := "Source tokens changed, debug session reset" }]
  else []

end Session

end ScriptWorkbench
