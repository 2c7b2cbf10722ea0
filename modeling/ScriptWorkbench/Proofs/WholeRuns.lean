import ScriptWorkbench.Proofs.AllOrNothing
import ScriptWorkbench.Proofs.EngineAnswers
import ScriptWorkbench.Proofs.Refusals
import ScriptWorkbench.Proofs.Soundness

/-!
# Whole runs

A whole run posts the request of the refreshed program, or nothing if there is
none. It is settled with a response or an error of the engine: the run that it
begins is the one that it settles, so nothing stays pending, and a run that fails
gives back the session that was there before. Only an error that escapes leaves
the run pending.
-/

namespace ScriptWorkbench

/-! ## Exchanges -/

namespace Workspace

variable {workspace : Workspace}

/-- The request of a workspace without an error. -/
def compiledRequest (workspace : Workspace) : RunRequest :=
  { input := workspace.hex, breakpoints := some workspace.breakpointOffsets }

theorem runRequest?_of_compiled (compiled : workspace.fault = none) :
    workspace.runRequest? = some workspace.compiledRequest := by
  simp only [runRequest?, compiled, compiledRequest]

theorem awaited?_awaiting (workspace : Workspace) :
    workspace.awaiting.awaited? (workspace.lastTicket + 1) =
      some {
        ticket := workspace.lastTicket + 1
        words := Text.splitWords workspace.source
        offsets := workspace.offsets } := by
  simp [awaited?, awaiting]

/-- The source has not changed since the run began, so the session stays. -/
theorem settleRun_awaiting_response (workspace : Workspace) (jumpToEnd : Bool)
    (response : RunResponse) :
    workspace.awaiting.settleRun (workspace.lastTicket + 1) jumpToEnd (.response response) =
      (.ok true, { workspace with
        lastTicket := workspace.lastTicket + 1
        pending := none
        session := Session.load response (Text.splitWords workspace.source)
          (some workspace.offsets) jumpToEnd
        activeEditor := .source
        info := if response.outcome.succeeded then "Success!" else response.outcome.detail }) := by
  have stays : (Session.load response (Text.splitWords workspace.source)
      (some workspace.offsets) jumpToEnd).onSourceChanged (Text.splitWords workspace.source) =
        Session.load response (Text.splitWords workspace.source) (some workspace.offsets)
          jumpToEnd :=
    Session.onSourceChanged_eq_self_iff.mpr rfl
  rw [settleRun, completeRun_of_awaited workspace.awaited?_awaiting]
  simp only [awaiting, stays]

end Workspace

end ScriptWorkbench
