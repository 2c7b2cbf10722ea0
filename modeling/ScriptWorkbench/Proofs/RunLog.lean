import ScriptWorkbench.Proofs.Soundness

/-!
# The log of runs

What operations on a workspace do about runs, told by their results alone: a
run is begun when a ticket is given out, and it is settled when completing or
failing it takes effect. A whole run, and a move that starts one, logs what its
parts do.
-/

namespace ScriptWorkbench.Workspace

/-- A run as it was begun, with the source of that moment and its offset map. -/
structure Beginning where
  ticket : Int
  source : String
  offsets : OffsetMap
  deriving DecidableEq

/-- What is kept of a run until it is settled. -/
def Beginning.pendingRun (beginning : Beginning) : PendingRun :=
  { ticket := beginning.ticket
    words := Text.splitWords beginning.source
    offsets := beginning.offsets }

inductive RunEvent where
  | begun (beginning : Beginning)
  | completed (ticket : Int) (response : RunResponse)
  | failed (ticket : Int)
  deriving DecidableEq

namespace RunEvent

def beginning? : RunEvent → Option Beginning
  | .begun beginning => some beginning
  | .completed _ _ | .failed _ => none

def settledTicket? : RunEvent → Option Int
  | .begun _ => none
  | .completed ticket _ | .failed ticket => some ticket

end RunEvent

/-! ## What a log says -/

def beginnings (log : List RunEvent) : List Beginning := log.filterMap RunEvent.beginning?

def settledTickets (log : List RunEvent) : List Int := log.filterMap RunEvent.settledTicket?

/-- Whether a ticket is the one that was given out last, and is not settled. -/
def Awaits (log : List RunEvent) (ticket : Int) : Prop :=
  (beginnings log).getLast?.map Beginning.ticket = some ticket ∧ ticket ∉ settledTickets log

/-- The run that was begun last, unless it is settled. -/
def unsettledRun? (log : List RunEvent) : Option Beginning :=
  (beginnings log).getLast?.filter fun beginning => beginning.ticket ∉ settledTickets log

@[simp] theorem beginnings_append (log events : List RunEvent) :
    beginnings (log ++ events) = beginnings log ++ beginnings events :=
  List.filterMap_append

@[simp] theorem settledTickets_append (log events : List RunEvent) :
    settledTickets (log ++ events) = settledTickets log ++ settledTickets events :=
  List.filterMap_append

theorem unsettledRun?_eq_some_iff {log : List RunEvent} {beginning : Beginning} :
    unsettledRun? log = some beginning ↔
      (beginnings log).getLast? = some beginning ∧ beginning.ticket ∉ settledTickets log := by
  rw [unsettledRun?, Option.filter_eq_some_iff, decide_eq_true_iff]

theorem awaits_iff {log : List RunEvent} {ticket : Int} :
    Awaits log ticket ↔
      ∃ beginning, unsettledRun? log = some beginning ∧ beginning.ticket = ticket := by
  simp only [Awaits, Option.map_eq_some_iff, unsettledRun?_eq_some_iff]
  constructor
  · rintro ⟨⟨beginning, latest, rfl⟩, unsettled⟩
    exact ⟨beginning, ⟨latest, unsettled⟩, rfl⟩
  · rintro ⟨beginning, ⟨latest, unsettled⟩, rfl⟩
    exact ⟨⟨beginning, latest, rfl⟩, unsettled⟩

/-! ## What operations log -/

def beginEvents (workspace : Workspace) : List RunEvent :=
  match workspace.beginRun with
  | (some ticket, begun) => [.begun { ticket, source := begun.source, offsets := begun.offsets }]
  | (none, _) => []

def completeEvents (ticket : Int) (response : RunResponse) (jumpToEnd : Bool)
    (workspace : Workspace) : List RunEvent :=
  if (workspace.completeRun ticket response jumpToEnd).1 then [.completed ticket response] else []

def failEvents (ticket : Int) (message : String) (workspace : Workspace) : List RunEvent :=
  if (workspace.failRun ticket message).1 then [.failed ticket] else []

/-- An error that escapes settles nothing. -/
def settleEvents (ticket : Int) (jumpToEnd : Bool) (workspace : Workspace) :
    RunAnswer → List RunEvent
  | .response response => workspace.completeEvents ticket response jumpToEnd
  | .failed error => workspace.failEvents ticket error.message
  | .escaped _ => []

def runEvents (config : EngineConfig) (jumpToEnd : Bool) (transport : Post → PostOutcome)
    (workspace : Workspace) : List RunEvent :=
  workspace.beginEvents ++
    match workspace.beginRun with
    | (none, _) => []
    | (some ticket, begun) =>
      match begun.runRequest? with
      | none => []
      | some request =>
        begun.settleEvents ticket jumpToEnd ((Engine.run config request).run transport)

/-- A move logs a run if it starts one, and nothing else. -/
def moveEvents (config : Option EngineConfig) (transport : Post → PostOutcome)
    (workspace : Workspace) : List RunEvent :=
  match workspace.fault, workspace.session.hasTrace, config with
  | none, false, some engine => workspace.runEvents engine false transport
  | _, _, _ => []

def Operation.events : Operation → Workspace → List RunEvent
  | .editSource _, _ | .editHex _, _ | .switchEditor _, _ | .clear, _ | .loadSample _, _
  | .toggleBreakpoint _, _ => []
  | .beginRun, workspace => workspace.beginEvents
  | .completeRun ticket response jumpToEnd, workspace =>
    workspace.completeEvents ticket response jumpToEnd
  | .failRun ticket message, workspace => workspace.failEvents ticket message
  | .run config jumpToEnd transport, workspace => workspace.runEvents config jumpToEnd transport
  | .stepForward config transport, workspace => workspace.moveEvents config transport
  | .stepBackward config transport, workspace => workspace.moveEvents config transport

/-- The log of several operations, the first one first. -/
def runLog : List Operation → Workspace → List RunEvent
  | [], _ => []
  | operation :: operations, workspace =>
    operation.events workspace ++ runLog operations (operation.apply workspace)

example :
    settledTickets (runLog [.beginRun, .failRun 1 "late", .failRun 1 "twice"]
      (create "OP_DUP" "" .source)) = [1] := by rfl

end ScriptWorkbench.Workspace
