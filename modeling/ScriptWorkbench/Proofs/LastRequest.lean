import Mathlib.Data.List.Nodup
import ScriptWorkbench.Proofs.RunLog

/-!
# The last request wins

A workspace accounts for its log: it waits for the run that was begun last
until that run is settled, and a loaded trace is the response to a run of the
log. So a response takes effect exactly once, and only if no run was begun
since.
-/

namespace ScriptWorkbench.Workspace

variable {log : List RunEvent} {workspace before after : Workspace}

/-- Whether the log of runs explains what a workspace knows of them. -/
structure Accounts (log : List RunEvent) (workspace : Workspace) : Prop where
  increasing : (beginnings log).Pairwise fun earlier later => earlier.ticket < later.ticket
  begun_le : ∀ beginning ∈ beginnings log, beginning.ticket ≤ workspace.lastTicket
  settled_le : ∀ ticket ∈ settledTickets log, ticket ≤ workspace.lastTicket
  compiled : ∀ beginning ∈ beginnings log,
    OffsetMap.ofSource Token.sourceName beginning.source = .ok beginning.offsets
  pending : workspace.pending = (unsettledRun? log).map Beginning.pendingRun
  session : ∀ playback, workspace.session = .loaded playback →
    ∃ beginning ∈ beginnings log, RunEvent.completed beginning.ticket playback.response ∈ log ∧
      playback.words = Text.splitWords beginning.source ∧
      playback.offsets = some beginning.offsets

/-! ## Changes that are not about runs -/

/-- Whether no run is begun or settled, and the session is ended or moved at
most. -/
structure Undisturbed (before after : Workspace) : Prop where
  lastTicket : after.lastTicket = before.lastTicket
  pending : after.pending = before.pending
  session : ∀ playback, after.session = .loaded playback →
    ∃ position, before.session = .loaded { playback with position }

theorem Undisturbed.refl (workspace : Workspace) : Undisturbed workspace workspace :=
  ⟨rfl, rfl, fun playback loaded => ⟨playback.position, loaded⟩⟩

theorem Undisturbed.refresh (workspace : Workspace) : Undisturbed workspace workspace.refresh := by
  have session (words : List String) (playback : Playback)
      (loaded : workspace.session.onSourceChanged words = .loaded playback) :
      ∃ position, workspace.session = .loaded { playback with position } := by
    cases own : workspace.session with
    | idle =>
        rw [own] at loaded
        cases loaded
    | loaded other =>
        rw [own, Session.onSourceChanged] at loaded
        split at loaded
        · cases loaded
          exact ⟨playback.position, rfl⟩
        · cases loaded
  cases compiled : workspace.program with
  | ok program =>
      rw [refresh_of_ok compiled]
      exact ⟨rfl, rfl, session _⟩
  | error error =>
      rw [refresh_of_error compiled]
      exact ⟨rfl, rfl, session _⟩

theorem Undisturbed.edit {operation : Operation} (edit : operation.isEdit = true)
    (workspace : Workspace) : Undisturbed workspace (operation.apply workspace) := by
  rcases operation.edit_cases edit workspace with
    same | ⟨source, hex, editor, recompiled⟩ | ⟨breakpoints, marked⟩
  · rw [same]
    exact .refl workspace
  · rw [recompiled]
    have refreshed := Undisturbed.refresh { workspace with source, hex, activeEditor := editor }
    exact ⟨refreshed.lastTicket, refreshed.pending, refreshed.session⟩
  · rw [marked]
    exact ⟨rfl, rfl, (Undisturbed.refl workspace).session⟩

/-- Going to another position of a loaded trace disturbs no run. -/
theorem Undisturbed.move {step : Session → Session} (idle : step .idle = .idle)
    (moves : ∀ playback : Playback, ∃ position,
      step (.loaded playback) = .loaded { playback with position }) (workspace : Workspace) :
    Undisturbed workspace { workspace with session := step workspace.session } := by
  refine ⟨rfl, rfl, fun playback loaded => ?_⟩
  cases own : workspace.session with
  | idle =>
      rw [own, idle] at loaded
      cases loaded
  | loaded other =>
      rcases moves other with ⟨position, moved⟩
      rw [own, moved] at loaded
      cases loaded
      exact ⟨other.position, rfl⟩

theorem Accounts.undisturbed (accounts : Accounts log before)
    (undisturbed : Undisturbed before after) : Accounts log after where
  increasing := accounts.increasing
  begun_le := by
    rw [undisturbed.lastTicket]
    exact accounts.begun_le
  settled_le := by
    rw [undisturbed.lastTicket]
    exact accounts.settled_le
  compiled := accounts.compiled
  pending := undisturbed.pending.trans accounts.pending
  session playback loaded := by
    rcases undisturbed.session playback loaded with ⟨position, own⟩
    exact accounts.session { playback with position } own

theorem accounts_create (source hex : String) (editor : Editor) :
    Accounts [] (create source hex editor) := by
  have fresh : Accounts [] { source, hex, activeEditor := editor } :=
    ⟨.nil, by simp [beginnings], by simp [settledTickets], by simp [beginnings], rfl,
      fun _ loaded => by cases loaded⟩
  exact fresh.undisturbed (.refresh _)

/-! ## Beginning a run -/

/-- The run that a compiled workspace begins next. -/
def nextBeginning (workspace : Workspace) : Beginning :=
  { ticket := workspace.lastTicket + 1
    source := workspace.source
    offsets := workspace.offsets }

theorem Accounts.awaiting (accounts : Accounts log workspace)
    (compiled : OffsetMap.ofSource Token.sourceName workspace.source = .ok workspace.offsets) :
    Accounts (log ++ [.begun workspace.nextBeginning]) workspace.awaiting := by
  have begun : beginnings (log ++ [.begun workspace.nextBeginning]) =
      beginnings log ++ [workspace.nextBeginning] := beginnings_append _ _
  have settled : settledTickets (log ++ [.begun workspace.nextBeginning]) =
      settledTickets log := by
    rw [settledTickets_append]
    exact List.append_nil _
  have newest : workspace.nextBeginning.ticket = workspace.lastTicket + 1 := rfl
  have last : workspace.awaiting.lastTicket = workspace.lastTicket + 1 := rfl
  have unsettled : unsettledRun? (log ++ [.begun workspace.nextBeginning]) =
      some workspace.nextBeginning := by
    rw [unsettledRun?_eq_some_iff, begun, settled]
    -- Settled tickets were given out before, and the new one is greater.
    refine ⟨List.getLast?_concat, fun member => ?_⟩
    have bound := accounts.settled_le _ member
    omega
  refine ⟨?_, ?_, ?_, ?_, ?_, ?_⟩
  · rw [begun, List.pairwise_append]
    refine ⟨accounts.increasing, List.pairwise_singleton _ _, ?_⟩
    intro earlier member later isNext
    rw [List.mem_singleton.mp isNext]
    have bound := accounts.begun_le earlier member
    omega
  · rw [begun, List.forall_mem_append, List.forall_mem_singleton]
    refine ⟨fun beginning member => ?_, Int.le_refl _⟩
    have bound := accounts.begun_le beginning member
    omega
  · rw [settled]
    intro ticket member
    have bound := accounts.settled_le ticket member
    omega
  · rw [begun, List.forall_mem_append, List.forall_mem_singleton]
    exact ⟨accounts.compiled, compiled⟩
  · rw [unsettled]
    rfl
  · intro playback loaded
    rcases accounts.session playback loaded with ⟨beginning, member, completed, belongs⟩
    refine ⟨beginning, ?_, List.mem_append_left _ completed, belongs⟩
    rw [begun]
    exact List.mem_append_left _ member

theorem Accounts.beginRun (accounts : Accounts log workspace) :
    Accounts (log ++ workspace.beginEvents) workspace.beginRun.2 := by
  have refreshed := accounts.undisturbed (.refresh workspace)
  cases fault : workspace.refresh.fault with
  | some error =>
      rw [beginEvents, beginRun_of_fault fault]
      simpa only [List.append_nil] using refreshed
  | none =>
      rw [beginEvents, beginRun_of_compiled fault]
      rcases (sound_refresh workspace).program fault with ⟨program, sound, source, _, _, offsets⟩
      have compiled := sound.offsets
      rw [← source, ← offsets] at compiled
      exact refreshed.awaiting compiled

/-! ## Settling a run -/

/-- The run that is waited for is the one that the log has as not settled. -/
theorem Accounts.awaited?_eq_some_iff (accounts : Accounts log workspace) {ticket : Int}
    {run : PendingRun} :
    workspace.awaited? ticket = some run ↔
      ∃ beginning, unsettledRun? log = some beginning ∧ beginning.ticket = ticket ∧
        beginning.pendingRun = run := by
  rw [awaited?, accounts.pending, Option.filter_eq_some_iff, Option.map_eq_some_iff, beq_iff_eq]
  constructor
  · rintro ⟨⟨beginning, unsettled, rfl⟩, same⟩
    exact ⟨beginning, unsettled, same, rfl⟩
  · rintro ⟨beginning, unsettled, same, rfl⟩
    exact ⟨⟨beginning, unsettled, rfl⟩, same⟩

theorem Accounts.isSome_awaited?_iff (accounts : Accounts log workspace) {ticket : Int} :
    (∃ run, workspace.awaited? ticket = some run) ↔ Awaits log ticket := by
  simp only [accounts.awaited?_eq_some_iff, awaits_iff]
  constructor
  · rintro ⟨_, beginning, unsettled, same, _⟩
    exact ⟨beginning, unsettled, same⟩
  · rintro ⟨beginning, unsettled, same⟩
    exact ⟨_, beginning, unsettled, same, rfl⟩

/-- The ticket that is waited for is one of the log. -/
theorem Accounts.le_of_awaits (accounts : Accounts log workspace) {ticket : Int}
    (awaits : Awaits log ticket) : ticket ≤ workspace.lastTicket := by
  rcases Option.map_eq_some_iff.mp awaits.1 with ⟨beginning, latest, rfl⟩
  exact accounts.begun_le beginning (List.mem_of_getLast? latest)

theorem Accounts.settled (accounts : Accounts log before) {ticket : Int} {event : RunEvent}
    (awaits : Awaits log ticket) (settles : event.settledTicket? = some ticket)
    (lastTicket : after.lastTicket = before.lastTicket) (noPending : after.pending = none)
    (session : ∀ playback, after.session = .loaded playback →
      ∃ beginning ∈ beginnings log,
        RunEvent.completed beginning.ticket playback.response ∈ log ++ [event] ∧
        playback.words = Text.splitWords beginning.source ∧
        playback.offsets = some beginning.offsets) :
    Accounts (log ++ [event]) after := by
  have begun : beginnings (log ++ [event]) = beginnings log := by
    rw [beginnings_append]
    cases event with
    | begun => cases settles
    | completed | failed => exact List.append_nil _
  have settled : settledTickets (log ++ [event]) = settledTickets log ++ [ticket] := by
    rw [settledTickets_append]
    cases event with
    | begun => cases settles
    | completed | failed =>
        cases settles
        rfl
  have noneUnsettled : unsettledRun? (log ++ [event]) = none := by
    rw [Option.eq_none_iff_forall_ne_some]
    -- Only the latest run can be left, and it is the one that is settled here.
    intro beginning unsettled
    rw [unsettledRun?_eq_some_iff, begun, settled] at unsettled
    have latest := awaits.1
    rw [unsettled.1, Option.map_some, Option.some.injEq] at latest
    exact unsettled.2 (List.mem_append_right _ (List.mem_singleton.mpr latest))
  refine ⟨?_, ?_, ?_, ?_, ?_, ?_⟩
  · rw [begun]
    exact accounts.increasing
  · rw [begun, lastTicket]
    exact accounts.begun_le
  · rw [settled, lastTicket, List.forall_mem_append, List.forall_mem_singleton]
    exact ⟨accounts.settled_le, accounts.le_of_awaits awaits⟩
  · rw [begun]
    exact accounts.compiled
  · rw [noneUnsettled, noPending]
    rfl
  · rw [begun]
    exact session

theorem Accounts.completeRun (accounts : Accounts log workspace) (ticket : Int)
    (response : RunResponse) (jumpToEnd : Bool) :
    Accounts (log ++ workspace.completeEvents ticket response jumpToEnd)
      (workspace.completeRun ticket response jumpToEnd).2 := by
  cases awaited : workspace.awaited? ticket with
  | none =>
      rw [completeEvents, completeRun_of_not_awaited awaited]
      simpa using accounts
  | some run =>
      have awaits := accounts.isSome_awaited?_iff.mp ⟨run, awaited⟩
      rcases accounts.awaited?_eq_some_iff.mp awaited with ⟨beginning, unsettled, rfl, rfl⟩
      rw [completeEvents, completeRun_of_awaited awaited]
      refine accounts.settled awaits rfl rfl rfl fun playback loaded => ?_
      have member := List.mem_of_getLast? (unsettledRun?_eq_some_iff.mp unsettled).1
      simp only [Session.load, Session.onSourceChanged] at loaded
      split at loaded
      · cases loaded
        exact ⟨beginning, member, List.mem_append_right _ (List.mem_singleton.mpr rfl), rfl, rfl⟩
      · cases loaded

theorem Accounts.failRun (accounts : Accounts log workspace) (ticket : Int) (message : String) :
    Accounts (log ++ workspace.failEvents ticket message) (workspace.failRun ticket message).2 := by
  cases awaited : workspace.awaited? ticket with
  | none =>
      rw [failEvents, failRun_of_not_awaited awaited]
      simpa using accounts
  | some run =>
      have awaits := accounts.isSome_awaited?_iff.mp ⟨run, awaited⟩
      rw [failEvents, failRun_of_awaited awaited]
      refine accounts.settled awaits rfl rfl rfl fun playback loaded => ?_
      rcases accounts.session playback loaded with ⟨beginning, member, completed, belongs⟩
      exact ⟨beginning, member, List.mem_append_left _ completed, belongs⟩

theorem Accounts.settleRun (accounts : Accounts log workspace) (ticket : Int) (jumpToEnd : Bool)
    (answer : RunAnswer) :
    Accounts (log ++ workspace.settleEvents ticket jumpToEnd answer)
      (workspace.settleRun ticket jumpToEnd answer).2 := by
  cases answer with
  | response response => exact accounts.completeRun ticket response jumpToEnd
  | failed error => exact accounts.failRun ticket error.message
  | escaped error =>
      rw [settleEvents, List.append_nil]
      exact accounts

/-! ## Whole runs and moves -/

theorem Accounts.run (accounts : Accounts log workspace) (config : EngineConfig)
    (jumpToEnd : Bool) (transport : Post → PostOutcome) :
    Accounts (log ++ workspace.runEvents config jumpToEnd transport)
      ((workspace.run config jumpToEnd).run transport).2 := by
  have begun := accounts.beginRun
  unfold Workspace.run runEvents
  rw [← List.append_assoc]
  -- What follows knows the begun workspace only through the log that accounts for it.
  generalize log ++ workspace.beginEvents = begunLog at begun ⊢
  generalize workspace.beginRun = outcome at begun ⊢
  rcases outcome with ⟨_ | ticket, begunWorkspace⟩
  · rw [List.append_nil]
    exact begun
  · simp only
    cases begunWorkspace.runRequest? with
    | none =>
        rw [List.append_nil]
        exact begun
    | some request => exact begun.settleRun ticket jumpToEnd _

theorem Accounts.move (accounts : Accounts log workspace) {step : Session → Session}
    (config : Option EngineConfig) (transport : Post → PostOutcome)
    (steps : Undisturbed workspace { workspace with session := step workspace.session }) :
    Accounts (log ++ workspace.moveEvents config transport)
      (afterMove transport workspace (workspace.move step config)) := by
  unfold Workspace.move moveEvents
  cases fault : workspace.fault with
  | some error =>
      rw [List.append_nil]
      exact accounts
  | none =>
      simp only
      cases workspace.session.hasTrace with
      | true =>
          rw [List.append_nil, if_pos rfl, ← fault]
          exact accounts.undisturbed steps
      | false =>
          cases config with
          | none =>
              rw [List.append_nil]
              exact accounts
          | some engine => exact accounts.run engine false transport

theorem Accounts.apply (accounts : Accounts log workspace) (operation : Operation) :
    Accounts (log ++ operation.events workspace) (operation.apply workspace) := by
  cases operation with
  | editSource | editHex | switchEditor | clear | loadSample | toggleBreakpoint =>
      rw [Operation.events, List.append_nil]
      exact accounts.undisturbed (.edit rfl workspace)
  | beginRun => exact accounts.beginRun
  | completeRun ticket response jumpToEnd => exact accounts.completeRun ticket response jumpToEnd
  | failRun ticket message => exact accounts.failRun ticket message
  | run config jumpToEnd transport => exact accounts.run config jumpToEnd transport
  | stepForward config transport =>
      exact accounts.move config transport (.move rfl (fun _ => ⟨_, rfl⟩) workspace)
  | stepBackward config transport =>
      exact accounts.move config transport (.move rfl (fun _ => ⟨_, rfl⟩) workspace)

theorem Accounts.afterAll (accounts : Accounts log workspace) (operations : List Operation) :
    Accounts (log ++ runLog operations workspace) (afterAll operations workspace) := by
  induction operations generalizing log workspace with
  | nil =>
      rw [runLog, List.append_nil]
      exact accounts
  | cons operation operations induction =>
      rw [runLog, ← List.append_assoc]
      exact induction (accounts.apply operation)

/-- Whatever is done to a new workspace, the log explains what it knows. -/
theorem accounts_runLog (source hex : String) (editor : Editor) (operations : List Operation) :
    Accounts (runLog operations (create source hex editor))
      (afterAll operations (create source hex editor)) :=
  (accounts_create source hex editor).afterAll operations

/-! ## Which responses take effect -/

theorem Accounts.completeRun_eq_true_iff (accounts : Accounts log workspace) (ticket : Int)
    (response : RunResponse) (jumpToEnd : Bool) :
    (workspace.completeRun ticket response jumpToEnd).1 = true ↔ Awaits log ticket := by
  rw [← accounts.isSome_awaited?_iff]
  cases awaited : workspace.awaited? ticket with
  | none => simp [completeRun_of_not_awaited awaited]
  | some run => simp [completeRun_of_awaited awaited]

theorem Accounts.failRun_eq_true_iff (accounts : Accounts log workspace) (ticket : Int)
    (message : String) :
    (workspace.failRun ticket message).1 = true ↔ Awaits log ticket := by
  rw [← accounts.isSome_awaited?_iff]
  cases awaited : workspace.awaited? ticket with
  | none => simp [failRun_of_not_awaited awaited]
  | some run => simp [failRun_of_awaited awaited]

theorem completeRun_of_eq_false {ticket : Int} {response : RunResponse} {jumpToEnd : Bool}
    (dropped : (workspace.completeRun ticket response jumpToEnd).1 = false) :
    (workspace.completeRun ticket response jumpToEnd).2 = workspace := by
  cases awaited : workspace.awaited? ticket with
  | none => rw [completeRun_of_not_awaited awaited]
  | some run =>
      rw [completeRun_of_awaited awaited] at dropped
      cases dropped

theorem failRun_of_eq_false {ticket : Int} {message : String}
    (dropped : (workspace.failRun ticket message).1 = false) :
    (workspace.failRun ticket message).2 = workspace := by
  cases awaited : workspace.awaited? ticket with
  | none => rw [failRun_of_not_awaited awaited]
  | some run =>
      rw [failRun_of_awaited awaited] at dropped
      cases dropped

theorem Accounts.nodup_tickets (accounts : Accounts log workspace) :
    ((beginnings log).map Beginning.ticket).Nodup := by
  rw [List.Nodup, List.pairwise_map]
  exact accounts.increasing.imp Int.ne_of_lt

/-- A response that takes effect is loaded with what its run was begun with. -/
theorem Accounts.session_completeRun (accounts : Accounts log workspace) {beginning : Beginning}
    (member : beginning ∈ beginnings log) {response : RunResponse} {jumpToEnd : Bool}
    (applied : (workspace.completeRun beginning.ticket response jumpToEnd).1 = true) :
    (workspace.completeRun beginning.ticket response jumpToEnd).2.session =
      if Text.splitWords workspace.source = Text.splitWords beginning.source then
        .loaded {
          response
          position := if jumpToEnd then response.trace.length else min 1 response.trace.length
          words := Text.splitWords beginning.source
          offsets := some beginning.offsets }
      else .idle := by
  have awaits := (accounts.completeRun_eq_true_iff _ _ _).mp applied
  rcases accounts.isSome_awaited?_iff.mpr awaits with ⟨run, awaited⟩
  rcases accounts.awaited?_eq_some_iff.mp awaited with ⟨latest, unsettled, sameTicket, rfl⟩
  have latestMember := List.mem_of_getLast? (unsettledRun?_eq_some_iff.mp unsettled).1
  have same := List.inj_on_of_nodup_map accounts.nodup_tickets latestMember member sameTicket
  subst same
  rw [completeRun_of_awaited awaited]
  rfl

/-- Over any operations on a new workspace, a response or a failure takes effect
exactly if its ticket is the one that was given out last and is not settled;
otherwise nothing changes. No ticket is given out twice. A response that takes
effect is played back, from its first step or at its last, with the words and the
offset map of the source that its run was begun with, unless the source has other
words by now. -/
theorem takes_effect_iff_awaited (source hex : String) (editor : Editor)
    (operations : List Operation) :
    let workspace := afterAll operations (create source hex editor)
    let log := runLog operations (create source hex editor)
    (∀ ticket response jumpToEnd,
      ((workspace.completeRun ticket response jumpToEnd).1 = true ↔ Awaits log ticket) ∧
      ((workspace.completeRun ticket response jumpToEnd).1 = false →
        (workspace.completeRun ticket response jumpToEnd).2 = workspace)) ∧
    (∀ ticket message,
      ((workspace.failRun ticket message).1 = true ↔ Awaits log ticket) ∧
      ((workspace.failRun ticket message).1 = false →
        (workspace.failRun ticket message).2 = workspace)) ∧
    ((beginnings log).map Beginning.ticket).Nodup ∧
    ∀ beginning ∈ beginnings log, ∀ response jumpToEnd,
      (workspace.completeRun beginning.ticket response jumpToEnd).1 = true →
        (workspace.completeRun beginning.ticket response jumpToEnd).2.session =
          if Text.splitWords workspace.source = Text.splitWords beginning.source then
            .loaded {
              response
              position := if jumpToEnd then response.trace.length else min 1 response.trace.length
              words := Text.splitWords beginning.source
              offsets := some beginning.offsets }
          else .idle := by
  intro workspace log
  have accounts : Accounts log workspace := accounts_runLog source hex editor operations
  refine ⟨fun ticket response jumpToEnd => ⟨?_, ?_⟩, fun ticket message => ⟨?_, ?_⟩, ?_, ?_⟩
  · exact accounts.completeRun_eq_true_iff ticket response jumpToEnd
  · exact completeRun_of_eq_false
  · exact accounts.failRun_eq_true_iff ticket message
  · exact failRun_of_eq_false
  · exact accounts.nodup_tickets
  · intro beginning member response jumpToEnd applied
    exact accounts.session_completeRun member applied

/-- Of two runs only the second is waited for. Its response is loaded although
the layout of the source has changed. -/
theorem takes_effect_iff_awaited_of_two_runs :
    let operations : List Operation :=
      [.beginRun, .editSource "OP_DUP OP_ADD", .beginRun, .editSource "OP_DUP\nOP_ADD"]
    let workspace := afterAll operations (create "OP_DUP" "" .source)
    let second : Beginning := {
      ticket := 2
      source := "OP_DUP OP_ADD"
      offsets := {
        lineTable := [0]
        tokenTable := [(0, 0), (1, 1), (2, 1)]
        tokenLines := [1, 1]
        totalLength := 2 } }
    let response : RunResponse := { outcome := .success, trace := [{ programCounter := 1 }] }
    second ∈ beginnings (runLog operations (create "OP_DUP" "" .source)) ∧
    (workspace.completeRun 1 response false).1 = false ∧
    (workspace.completeRun 1 response false).2 = workspace ∧
    (workspace.completeRun 2 response false).1 = true ∧
    (workspace.completeRun 2 response false).2.session = .loaded {
      response
      position := 1
      words := ["OP_DUP", "OP_ADD"]
      offsets := some second.offsets } := by
  intro operations workspace second response
  have begunWords : Text.splitWords second.source = ["OP_DUP", "OP_ADD"] := by decide +revert
  have words : Text.splitWords workspace.source = ["OP_DUP", "OP_ADD"] := by decide +revert
  have member : second ∈ beginnings (runLog operations (create "OP_DUP" "" .source)) := by
    decide +revert
  have dropped : (workspace.completeRun 1 response false).1 = false := by rfl
  have applied : (workspace.completeRun 2 response false).1 = true := by rfl
  rcases takes_effect_iff_awaited "OP_DUP" "" .source operations with ⟨completes, _, _, loads⟩
  have loaded := loads second member response false applied
  rw [words, begunWords, if_pos rfl] at loaded
  exact ⟨member, dropped, (completes 1 response false).2 dropped, applied, loaded⟩

end ScriptWorkbench.Workspace
