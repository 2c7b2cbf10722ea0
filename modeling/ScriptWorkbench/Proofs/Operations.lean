import Mathlib.Logic.Relation
import ScriptWorkbench.Workspace.Run

/-!
# Operations on a workspace

Everything that can be done to a workspace from outside, and the states that
this reaches. Every operation is made up of a few kinds of changes, so an
invariant has to be checked against these alone.
-/

namespace ScriptWorkbench.Workspace

/-- What can be done to a workspace. A transport answers the posts of a run; a
run on another engine is begun, and later completed or failed. -/
inductive Operation where
  | editSource (text : String)
  | editHex (text : String)
  | switchEditor (editor : Editor)
  | clear
  | loadSample (name : String)
  | toggleBreakpoint (line : Int)
  | beginRun
  | completeRun (ticket : Int) (response : RunResponse) (jumpToEnd : Bool)
  | failRun (ticket : Int) (message : String)
  | run (config : EngineConfig) (jumpToEnd : Bool) (transport : Post → PostOutcome)
  | stepForward (config : Option EngineConfig) (transport : Post → PostOutcome)
  | stepBackward (config : Option EngineConfig) (transport : Post → PostOutcome)

/-- The workspace after a move, which is as before if the move is refused. -/
def afterMove (transport : Post → PostOutcome) (workspace : Workspace) :
    Except SessionError (Exchange Outcome) → Workspace
  | .ok exchange => (exchange.run transport).2
  | .error _ => workspace

namespace Operation

def apply : Operation → Workspace → Workspace
  | .editSource text, workspace => workspace.editSource text
  | .editHex text, workspace => workspace.editHex text
  | .switchEditor editor, workspace => workspace.switchEditor editor
  | .clear, workspace => workspace.clear
  | .loadSample name, workspace => (workspace.loadSample? name).getD workspace
  | .toggleBreakpoint line, workspace => (workspace.toggleBreakpoint line).2
  | .beginRun, workspace => workspace.beginRun.2
  | .completeRun ticket response jumpToEnd, workspace =>
    (workspace.completeRun ticket response jumpToEnd).2
  | .failRun ticket message, workspace => (workspace.failRun ticket message).2
  | .run config jumpToEnd transport, workspace =>
    ((workspace.run config jumpToEnd).run transport).2
  | .stepForward config transport, workspace =>
    afterMove transport workspace (workspace.stepForward config)
  | .stepBackward config transport, workspace =>
    afterMove transport workspace (workspace.stepBackward config)

/-- Whether an operation changes a text, the active editor or a breakpoint on
purpose. -/
def isEdit : Operation → Bool
  | .editSource _ | .editHex _ | .switchEditor _ | .clear | .loadSample _
  | .toggleBreakpoint _ => true
  | .beginRun | .completeRun _ _ _ | .failRun _ _ | .run _ _ _ | .stepForward _ _
  | .stepBackward _ _ => false

end Operation

/-- The workspaces that operations lead to from a new one. -/
inductive Reachable : Workspace → Prop
  | create (source hex : String) (editor : Editor) : Reachable (create source hex editor)
  | operate {workspace : Workspace} (reachable : Reachable workspace) (operation : Operation) :
      Reachable (operation.apply workspace)

/-- The workspace after several operations, the first one first. -/
def afterAll (operations : List Operation) (workspace : Workspace) : Workspace :=
  operations.foldl (fun current operation => operation.apply current) workspace

theorem Reachable.afterAll {workspace : Workspace} (reachable : Reachable workspace)
    (operations : List Operation) : Reachable (afterAll operations workspace) := by
  induction operations generalizing workspace with
  | nil => exact reachable
  | cons operation operations induction => exact induction (reachable.operate operation)

/-- A reachable workspace is a new one after some operations. -/
theorem Reachable.exists_afterAll {workspace : Workspace} (reachable : Reachable workspace) :
    ∃ source hex editor operations,
      Workspace.afterAll operations (Workspace.create source hex editor) = workspace := by
  induction reachable with
  | create source hex editor => exact ⟨source, hex, editor, [], rfl⟩
  | operate _ operation induction =>
      rcases induction with ⟨source, hex, editor, operations, rfl⟩
      refine ⟨source, hex, editor, operations ++ [operation], ?_⟩
      rw [Workspace.afterAll, List.foldl_append]
      rfl

/-! ## What the operations do -/

/-- An edit finds nothing to do, compiles the texts anew, or changes the
breakpoints. -/
theorem Operation.edit_cases {operation : Operation} (edit : operation.isEdit = true)
    (workspace : Workspace) :
    operation.apply workspace = workspace ∨
      (∃ source hex editor, operation.apply workspace =
        refresh { workspace with source, hex, activeEditor := editor }) ∨
      ∃ breakpoints, operation.apply workspace = { workspace with breakpoints } := by
  cases operation with
  | editSource text => exact .inr (.inl ⟨text, workspace.hex, .source, rfl⟩)
  | editHex text => exact .inr (.inl ⟨workspace.source, text, .hex, rfl⟩)
  | switchEditor editor => exact .inr (.inl ⟨workspace.source, workspace.hex, editor, rfl⟩)
  | clear =>
      rw [apply, Workspace.clear]
      split
      · exact .inr (.inl ⟨"", workspace.hex, .source, rfl⟩)
      · exact .inr (.inl ⟨workspace.source, "", .hex, rfl⟩)
  | loadSample name =>
      rw [apply, loadSample?]
      cases Sample.find? name with
      | none => exact .inl rfl
      | some sample => exact .inr (.inl ⟨sample.source, workspace.hex, .source, rfl⟩)
  | toggleBreakpoint line =>
      rw [apply, Workspace.toggleBreakpoint]
      split
      · exact .inr (.inr ⟨_, rfl⟩)
      · exact .inr (.inr ⟨_, rfl⟩)
  | beginRun | completeRun | failRun | run | stepForward | stepBackward => cases edit

/-- A compiled workspace that waits for a new run of its program. -/
def awaiting (workspace : Workspace) : Workspace :=
  { workspace with
    lastTicket := workspace.lastTicket + 1
    pending := some {
      ticket := workspace.lastTicket + 1
      words := Text.splitWords workspace.source
      offsets := workspace.offsets } }

theorem beginRun_of_fault {workspace : Workspace} {error : CodecError}
    (fault : workspace.refresh.fault = some error) :
    workspace.beginRun = (none, workspace.refresh) := by
  simp only [beginRun, fault]

theorem beginRun_of_compiled {workspace : Workspace} (compiled : workspace.refresh.fault = none) :
    workspace.beginRun = (some (workspace.refresh.lastTicket + 1), workspace.refresh.awaiting) := by
  simp only [beginRun, awaiting, compiled]

theorem completeRun_of_awaited {workspace : Workspace} {ticket : Int} {run : PendingRun}
    (awaited : workspace.awaited? ticket = some run) (response : RunResponse) (jumpToEnd : Bool) :
    workspace.completeRun ticket response jumpToEnd =
      (true, { workspace with
        pending := none
        session := (Session.load response run.words (some run.offsets) jumpToEnd).onSourceChanged
          (Text.splitWords workspace.source)
        activeEditor := .source
        info := if response.outcome.succeeded then "Success!" else response.outcome.detail }) := by
  simp only [completeRun, awaited]

theorem completeRun_of_not_awaited {workspace : Workspace} {ticket : Int}
    (dropped : workspace.awaited? ticket = none) (response : RunResponse) (jumpToEnd : Bool) :
    workspace.completeRun ticket response jumpToEnd = (false, workspace) := by
  simp only [completeRun, dropped]

theorem failRun_of_awaited {workspace : Workspace} {ticket : Int} {run : PendingRun}
    (awaited : workspace.awaited? ticket = some run) (message : String) :
    workspace.failRun ticket message =
      (true, { workspace with
        pending := none
        info := "Server connection error: " ++ message }) := by
  simp only [failRun, awaited]

theorem failRun_of_not_awaited {workspace : Workspace} {ticket : Int}
    (dropped : workspace.awaited? ticket = none) (message : String) :
    workspace.failRun ticket message = (false, workspace) := by
  simp only [failRun, dropped]

/-- A run is begun, and unless it is refused the engine's answer to it is dealt with. -/
theorem run_cases (config : EngineConfig) (jumpToEnd : Bool) (transport : Post → PostOutcome)
    (workspace : Workspace) :
    ((workspace.run config jumpToEnd).run transport).2 = workspace.beginRun.2 ∨
      ∃ ticket answer, ((workspace.run config jumpToEnd).run transport).2 =
        (workspace.beginRun.2.settleRun ticket jumpToEnd answer).2 := by
  unfold run
  rcases workspace.beginRun with ⟨_ | ticket, begun⟩
  · exact .inl rfl
  · simp only
    cases begun.runRequest? with
    | none => exact .inl rfl
    | some request => exact .inr ⟨ticket, _, rfl⟩

/-- A move is refused, goes one step through the trace, or starts a run. -/
theorem afterMove_cases (step : Session → Session) (config : Option EngineConfig)
    (transport : Post → PostOutcome) (workspace : Workspace) :
    afterMove transport workspace (workspace.move step config) = workspace ∨
      (workspace.fault = none ∧ afterMove transport workspace (workspace.move step config) =
        { workspace with session := step workspace.session }) ∨
      ∃ engine, afterMove transport workspace (workspace.move step config) =
        ((workspace.run engine false).run transport).2 := by
  unfold move
  cases fault : workspace.fault with
  | some error => exact .inl rfl
  | none =>
      simp only
      split
      · exact .inr (.inl ⟨trivial, by rw [← fault]; rfl⟩)
      · cases config with
        | none => exact .inl rfl
        | some engine => exact .inr (.inr ⟨engine, rfl⟩)

/-! ## Changes -/

/-- A kind of change that operations are made up of. -/
inductive Change : Workspace → Workspace → Prop
  | recompile (workspace : Workspace) (source hex : String) (editor : Editor) :
      Change workspace (refresh { workspace with source, hex, activeEditor := editor })
  | mark (workspace : Workspace) (breakpoints : List Int) :
      Change workspace { workspace with breakpoints }
  | await {workspace : Workspace} (compiled : workspace.fault = none) :
      Change workspace workspace.awaiting
  | complete {workspace : Workspace} {ticket : Int} {run : PendingRun}
      (awaited : workspace.awaited? ticket = some run) (response : RunResponse)
      (jumpToEnd : Bool) (info : String) :
      Change workspace
        { workspace with
          pending := none
          session := (Session.load response run.words (some run.offsets) jumpToEnd).onSourceChanged
            (Text.splitWords workspace.source)
          activeEditor := .source
          info }
  | fail {workspace : Workspace} {ticket : Int} {run : PendingRun}
      (awaited : workspace.awaited? ticket = some run) (info : String) :
      Change workspace { workspace with pending := none, info }
  | forward {workspace : Workspace} (compiled : workspace.fault = none) :
      Change workspace { workspace with session := workspace.session.stepForward }
  | backward {workspace : Workspace} (compiled : workspace.fault = none) :
      Change workspace { workspace with session := workspace.session.stepBackward }

/-- Whether some changes lead from one workspace to another. -/
def Changes : Workspace → Workspace → Prop := Relation.ReflTransGen Change

namespace Changes

variable (workspace : Workspace)

theorem refresh : Changes workspace workspace.refresh :=
  .single (.recompile workspace workspace.source workspace.hex workspace.activeEditor)

theorem edit {operation : Operation} (edit : operation.isEdit = true) :
    Changes workspace (operation.apply workspace) := by
  rcases operation.edit_cases edit workspace with
    same | ⟨source, hex, editor, recompiled⟩ | ⟨breakpoints, marked⟩
  · rw [same]
    exact .refl
  · rw [recompiled]
    exact .single (.recompile workspace source hex editor)
  · rw [marked]
    exact .single (.mark workspace breakpoints)

theorem beginRun : Changes workspace workspace.beginRun.2 := by
  cases fault : workspace.refresh.fault with
  | some error =>
      rw [beginRun_of_fault fault]
      exact refresh workspace
  | none =>
      rw [beginRun_of_compiled fault]
      exact (refresh workspace).tail (.await fault)

theorem completeRun (ticket : Int) (response : RunResponse) (jumpToEnd : Bool) :
    Changes workspace (workspace.completeRun ticket response jumpToEnd).2 := by
  cases awaited : workspace.awaited? ticket with
  | none =>
      rw [completeRun_of_not_awaited awaited]
      exact .refl
  | some run =>
      rw [completeRun_of_awaited awaited]
      exact .single (.complete awaited response jumpToEnd _)

theorem failRun (ticket : Int) (message : String) :
    Changes workspace (workspace.failRun ticket message).2 := by
  cases awaited : workspace.awaited? ticket with
  | none =>
      rw [failRun_of_not_awaited awaited]
      exact .refl
  | some run =>
      rw [failRun_of_awaited awaited]
      exact .single (.fail awaited _)

theorem settleRun (ticket : Int) (jumpToEnd : Bool) (answer : RunAnswer) :
    Changes workspace (workspace.settleRun ticket jumpToEnd answer).2 := by
  cases answer with
  | response response => exact completeRun workspace ticket response jumpToEnd
  | failed error => exact failRun workspace ticket error.message
  | escaped error => exact .refl

theorem run (config : EngineConfig) (jumpToEnd : Bool) (transport : Post → PostOutcome) :
    Changes workspace ((workspace.run config jumpToEnd).run transport).2 := by
  rcases run_cases config jumpToEnd transport workspace with begun | ⟨ticket, answer, settled⟩
  · rw [begun]
    exact beginRun workspace
  · rw [settled]
    exact (beginRun workspace).trans (settleRun _ ticket jumpToEnd answer)

theorem move {step : Session → Session} (config : Option EngineConfig)
    (transport : Post → PostOutcome)
    (steps : workspace.fault = none →
      Change workspace { workspace with session := step workspace.session }) :
    Changes workspace (afterMove transport workspace (workspace.move step config)) := by
  rcases afterMove_cases step config transport workspace with
    refused | ⟨compiled, stepped⟩ | ⟨engine, ran⟩
  · rw [refused]
    exact .refl
  · rw [stepped]
    exact .single (steps compiled)
  · rw [ran]
    exact run workspace engine false transport

end Changes

theorem Operation.changes (operation : Operation) (workspace : Workspace) :
    Changes workspace (operation.apply workspace) := by
  cases operation with
  | editSource | editHex | switchEditor | clear | loadSample | toggleBreakpoint =>
      exact .edit workspace rfl
  | beginRun => exact .beginRun workspace
  | completeRun ticket response jumpToEnd =>
      exact .completeRun workspace ticket response jumpToEnd
  | failRun ticket message => exact .failRun workspace ticket message
  | run config jumpToEnd transport => exact .run workspace config jumpToEnd transport
  | stepForward config transport => exact .move workspace config transport .forward
  | stepBackward config transport => exact .move workspace config transport .backward

/-- What holds of new workspaces and is kept by every change holds of all
reachable ones. -/
theorem Reachable.invariant {holds : Workspace → Prop}
    (created : ∀ source hex editor, holds (Workspace.create source hex editor))
    (changed : ∀ {before after : Workspace}, Change before after → holds before → holds after)
    {workspace : Workspace} (reachable : Reachable workspace) : holds workspace := by
  induction reachable with
  | create source hex editor => exact created source hex editor
  | operate _ operation induction =>
      have changes := operation.changes
      refine Relation.ReflTransGen.head_induction_on
        (motive := fun before _ => holds before → holds _) (changes _) id ?_ induction
      exact fun change _ rest held => rest (changed change held)

end ScriptWorkbench.Workspace
