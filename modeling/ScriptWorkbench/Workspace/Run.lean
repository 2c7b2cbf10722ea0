import ScriptWorkbench.Engine.Client
import ScriptWorkbench.Workspace.Basic

/-!
# Running a workspace on the engine

A whole run asks the engine at most once: it is begun, its request is posted,
and it is completed with the response or failed with the error. An error that is
none of the engine's escapes and leaves the run as it was begun. Stepping without
a trace starts such a run.
-/

namespace ScriptWorkbench

inductive SessionError where
  | noEngine
  deriving DecidableEq

def SessionError.message : SessionError → String
  | .noEngine => "no trace loaded and no engine client to request one"

namespace Workspace

/-- What comes of an action: whether it was carried out, unless an error escapes,
and the workspace after it. -/
abbrev Outcome := Except Json.NestingError Bool × Workspace

/-- Settles a run that the engine has answered, and says whether its response
was loaded. -/
def settleRun (ticket : Int) (jumpToEnd : Bool) (workspace : Workspace) : RunAnswer → Outcome
  | .response response =>
    let (loaded, completed) := workspace.completeRun ticket response jumpToEnd
    (.ok loaded, completed)
  | .failed error => (.ok false, (workspace.failRun ticket error.message).2)
  | .escaped error => (.error error, workspace)

def run (config : EngineConfig) (jumpToEnd : Bool) (workspace : Workspace) : Exchange Outcome :=
  match workspace.beginRun with
  | (none, refused) => .settled (.ok false, refused)
  | (some ticket, begun) =>
    match begun.runRequest? with
    | none => .settled (.ok false, begun)
    | some request => (Engine.run config request).map (begun.settleRun ticket jumpToEnd)

/-- Moves through the loaded trace, or starts a run at its first step when none
is loaded. -/
def move (step : Session → Session) (config : Option EngineConfig) (workspace : Workspace) :
    Except SessionError (Exchange Outcome) :=
  match workspace.fault with
  | some _ => .ok (.settled (.ok false, workspace))
  | none =>
    if workspace.session.hasTrace then
      .ok (.settled (.ok true, { workspace with session := step workspace.session }))
    else
      match config with
      | none => .error .noEngine
      | some config => .ok (workspace.run config false)

def stepForward (config : Option EngineConfig) (workspace : Workspace) :
    Except SessionError (Exchange Outcome) :=
  workspace.move Session.stepForward config

def stepBackward (config : Option EngineConfig) (workspace : Workspace) :
    Except SessionError (Exchange Outcome) :=
  workspace.move Session.stepBackward config

end Workspace

end ScriptWorkbench
