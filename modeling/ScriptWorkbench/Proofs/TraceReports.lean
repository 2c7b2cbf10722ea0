import ScriptWorkbench.Command.Debugger
import ScriptWorkbench.Proofs.LoadedTraces
import ScriptWorkbench.Proofs.PlaybackSteps
import ScriptWorkbench.Proofs.SeenReports
import ScriptWorkbench.Proofs.TokenOffsets
import ScriptWorkbench.Proofs.WholeRuns

/-!
# Reports on traces

A run that the engine answers is reported once and for all. The loop that shows one
step after the other comes to an end, because every turn gets closer to the last step
and nothing refuses it, and it shows each position of the trace once. A position is
shown with the word of the file that its program counter stands for.

Stacks and the detail of a failure are the engine's own texts, so a console may leave
out control sequences of theirs. All else that is printed is plain.
-/

namespace ScriptWorkbench

/-! ## Steps to the end of a trace -/

namespace Playback

theorem InRange.position_forward {playback : Playback} (inRange : playback.InRange)
    (active : playback.phase = .active) : playback.forward.position = playback.position + 1 :=
  Nat.min_eq_left (inRange.phase_eq_active_iff.mp active)

/-- Steps forward reach the end of the trace, so what holds there, and anywhere if it
holds one step further, holds at every position. -/
theorem forward_induction {motive : (playback : Playback) → playback.InRange → Prop}
    (ended : ∀ playback (inRange : playback.InRange), playback.phase ≠ .active →
      motive playback inRange)
    (active : ∀ playback (inRange : playback.InRange), playback.phase = .active →
      motive playback.forward (inRange_forward inRange) → motive playback inRange)
    (playback : Playback) (inRange : playback.InRange) : motive playback inRange := by
  -- The number of steps that are left gets smaller.
  generalize left : playback.length - playback.position = steps
  induction steps generalizing playback with
  | zero =>
      apply ended playback inRange
      rw [inRange.phase_ne_active_iff]
      have last := inRange.le_length
      omega
  | succ steps induction =>
      have stepsLeft : playback.phase = .active := by
        rw [inRange.phase_eq_active_iff]
        omega
      apply active playback inRange stepsLeft
      apply induction
      rw [inRange.position_forward stepsLeft]
      change playback.length - (playback.position + 1) = steps
      omega

end Playback

namespace Session

variable {playback : Playback}

/-- The view at a position of a loaded trace. -/
def viewAt (playback : Playback) (position : Nat) : View := (loaded { playback with position }).view

/-- The views from the position on to the end of the trace. -/
def viewsFrom (playback : Playback) : List View :=
  (List.range' playback.position (playback.length - playback.position + 1)).map (viewAt playback)

theorem viewsFrom_of_active (inRange : playback.InRange) (active : playback.phase = .active) :
    viewsFrom playback = (loaded playback).view :: viewsFrom playback.forward := by
  have before := inRange.phase_eq_active_iff.mp active
  have left : playback.length - playback.position =
      playback.length - (playback.position + 1) + 1 := by omega
  rw [viewsFrom, viewsFrom, inRange.position_forward active, left, List.range'_succ,
    List.map_cons]
  rfl

theorem viewsFrom_of_not_active (inRange : playback.InRange) (ended : playback.phase ≠ .active) :
    viewsFrom playback = [(loaded playback).view] := by
  have atEnd : playback.length - playback.position = 0 := by
    rw [inRange.phase_ne_active_iff.mp ended, Nat.sub_self]
  rw [viewsFrom, atEnd]
  rfl

theorem viewsWithin_succ (steps : Nat) (playback : Playback) :
    viewsWithin (steps + 1) (.loaded playback) =
      if playback.phase = .active then
        (loaded playback).view :: viewsWithin steps (.loaded playback.forward)
      else [(loaded playback).view] := by
  have phase : phase (.loaded playback) = playback.phase := rfl
  rw [viewsWithin, phase]
  cases playback.phase <;> rfl

/-- As many steps as the trace has are enough to reach its end. -/
theorem viewsWithin_loaded (inRange : playback.InRange) {steps : Nat}
    (enough : playback.length ≤ playback.position + steps) :
    viewsWithin steps (.loaded playback) = viewsFrom playback := by
  induction playback, inRange using Playback.forward_induction generalizing steps with
  | ended playback inRange ended =>
      rw [viewsFrom_of_not_active inRange ended]
      cases steps with
      | zero => rfl
      | succ steps => rw [viewsWithin_succ, if_neg ended]
  | active playback inRange active induction =>
      have before := inRange.phase_eq_active_iff.mp active
      cases steps with
      | zero => omega
      | succ steps =>
          rw [viewsWithin_succ, if_pos active, viewsFrom_of_active inRange active, induction]
          rw [inRange.position_forward active]
          change playback.length ≤ _
          omega

theorem viewsToEnd_loaded (inRange : playback.InRange) :
    viewsToEnd (.loaded playback) = viewsFrom playback :=
  viewsWithin_loaded inRange (Nat.le_add_left ..)

end Session

/-! ## The loop -/

namespace Workspace

/-- The loop that shows a trace: a view is shown, and unless it is the last one, a
step forward is taken, whatever becomes of it. -/
inductive ShowsSteps : Workspace → List Session.View → Prop
  | last {workspace : Workspace} (ended : workspace.view.phase ≠ .active) :
      ShowsSteps workspace [workspace.view]
  | next {workspace moved : Workspace} {accepted : Bool} {views : List Session.View}
      (active : workspace.view.phase = .active)
      (stepped : workspace.stepForward none = .ok (.settled (.ok accepted, moved)))
      (rest : ShowsSteps moved views) : ShowsSteps workspace (workspace.view :: views)

variable {workspace : Workspace} {playback : Playback}

theorem ShowsSteps.unique {views others : List Session.View} (shows : workspace.ShowsSteps views)
    (showsOthers : workspace.ShowsSteps others) : views = others := by
  induction shows generalizing others with
  | last ended =>
      cases showsOthers with
      | last => rfl
      | next active => exact absurd active ended
  | next active stepped _ induction =>
      cases showsOthers with
      | last ended => exact absurd active ended
      | next _ steppedAgain rest =>
          rw [stepped] at steppedAgain
          cases steppedAgain
          rw [induction rest]

/-- Without an error, a step through a loaded trace is not refused. -/
theorem stepForward_of_loaded (compiled : workspace.fault = none)
    (loaded : workspace.session = .loaded playback) :
    workspace.stepForward none =
      .ok (.settled (.ok true, { workspace with session := .loaded playback.forward })) := by
  simp only [stepForward, move, compiled, loaded, Session.hasTrace, Session.stepForward, if_true]

theorem phase_view_of_loaded (loaded : workspace.session = .loaded playback) :
    workspace.view.phase = playback.phase := by
  rw [view, Session.phase_view, loaded]
  rfl

/-- The loop ends, and has shown what is left of the trace. -/
theorem showsSteps_viewsFrom (compiled : workspace.fault = none)
    (loaded : workspace.session = .loaded playback) (inRange : playback.InRange) :
    workspace.ShowsSteps (Session.viewsFrom playback) := by
  have phase := phase_view_of_loaded loaded
  induction playback, inRange using Playback.forward_induction generalizing workspace with
  | ended playback inRange ended =>
      rw [Session.viewsFrom_of_not_active inRange ended, ← loaded]
      exact .last (by rwa [phase])
  | active playback inRange active induction =>
      rw [Session.viewsFrom_of_active inRange active, ← loaded]
      apply ShowsSteps.next (phase.trans active) (stepForward_of_loaded compiled loaded)
      exact induction compiled rfl (phase_view_of_loaded rfl)

/-- The loop comes to one end. -/
theorem showsSteps_iff (compiled : workspace.fault = none)
    (loaded : workspace.session = .loaded playback) (inRange : playback.InRange)
    {views : List Session.View} :
    workspace.ShowsSteps views ↔ views = Session.viewsFrom playback := by
  have shows := showsSteps_viewsFrom compiled loaded inRange
  constructor
  · intro showsOthers
    exact showsOthers.unique shows
  · intro same
    rwa [same]

end Workspace

namespace DebuggerCommand

/-! ## What is seen of a position -/

/-- What is said of the place of a program counter: the word of the source that it
stands for with the line of that word, or that there is none. -/
inductive TellsPlace (source : String) (tokens : List Token) (counter : Nat) : String → Prop
  | word {index line : Int} {word : String} (stands : StandsFor tokens counter index)
      (isWord : (Text.splitWords source)[index.toNat]? = some word)
      (onLine : Text.StandsOn source index line) :
      TellsPlace source tokens counter s!"{word} (line {line})"
  | unmapped (nowhere : ∀ index, ¬StandsFor tokens counter index) :
      TellsPlace source tokens counter "(unmapped)"

def stackLine (step : TraceStep) : String := "  stack:    " ++ stackItems (stackText step.stack)

def altStackLine (step : TraceStep) : String :=
  "  altstack: " ++ stackItems (stackText step.altStack)

/-- Whether a console can show both stacks of a step. -/
def CanShowStacks (console : Console) (step : TraceStep) : Prop :=
  (console.output? (stackLine step)).isSome = true ∧
    (console.output? (altStackLine step)).isSome = true

variable {console : Console}

/-- The lines that are seen of a position of a trace. Stacks are seen as the console
shows them. -/
inductive SeesPosition (console : Console) (source : String) (tokens : List Token)
    (steps : List TraceStep) (position : Nat) : List String → Prop
  | step {step : TraceStep} {place stack altStack : String} (reached : 1 ≤ position)
      (found : steps[position - 1]? = some step)
      (tells : TellsPlace source tokens step.programCounter place)
      (showsStack : console.output? (stackLine step) = some stack)
      (showsAltStack : console.output? (altStackLine step) = some altStack) :
      SeesPosition console source tokens steps position
        [s!"step {position}: pc={step.programCounter} " ++ place, stack, altStack]

variable {source : String} {lines : List (List Token)} {playback : Playback} {step : TraceStep}

/-- The word comes from all words of the source, and its index from the tokens of the
lines; they count alike. -/
theorem tellsPlace_viewPlace
    (encodable : Token.encodableLines .standard Token.sourceName source = .ok lines)
    (recorded : playback.offsets = some (OffsetMap.ofLines lines))
    (counter : (Session.loaded playback).view.programCounter = some step.programCounter) :
    TellsPlace source lines.flatten step.programCounter
      (viewPlace (Text.splitWords source) (Session.loaded playback).view) := by
  have built : OffsetMap.ofSource Token.sourceName source = .ok (OffsetMap.ofLines lines) :=
    map_eq_ok_iff.mpr ⟨lines, encodable, rfl⟩
  have index := Session.tokenIndex_view recorded
  rw [counter, Option.bind_some] at index
  cases shown : (Session.loaded playback).view.tokenIndex with
  | none =>
      rw [viewPlace, shown, Option.bind_none]
      apply TellsPlace.unmapped
      intro token stands
      rw [← OffsetMap.tokenAt_ofLines_eq_some_iff, ← index, shown] at stands
      cases stands
  | some token =>
      rcases Session.tokenIndex_view_bounds recorded built shown with ⟨lower, upper⟩
      rcases OffsetMap.exists_standsOn built lower upper with ⟨line, onLine⟩
      have highlighted :=
        (Session.highlightLine_view_eq_some_iff recorded built).mpr ⟨token, shown, onLine⟩
      have inside : token.toNat < (Text.splitWords source).length := by omega
      have isWord := List.getElem?_eq_getElem inside
      rw [shown] at index
      rw [viewPlace, shown, Option.bind_some, isWord, highlighted]
      exact .word (OffsetMap.tokenAt_ofLines_eq_some_iff.mp index.symm) isWord onLine

theorem TellsPlace.isPlainAscii {tokens : List Token} {counter : Nat} {place : String}
    {bytes : Bytes} (tells : TellsPlace source tokens counter place)
    (assembled : assemble source = .ok bytes) : Text.IsPlainAscii place.toList := by
  cases tells with
  | unmapped nowhere => decide
  | @word index line word stands isWord onLine =>
      have plainWord := isPlainAscii_of_mem_splitWords assembled (List.mem_of_getElem? isWord)
      have plainLine := Text.isPlainAscii_toString line
      change Text.IsPlainAscii (word ++ " (line " ++ toString line ++ ")").toList
      simp only [String.toList_append, Text.isPlainAscii_append]
      exact ⟨⟨⟨plainWord, by decide⟩, plainLine⟩, by decide⟩

theorem isPlainAscii_positionLine (position counter : Nat) {place : String}
    (plain : Text.IsPlainAscii place.toList) :
    Text.IsPlainAscii (s!"step {position}: pc={counter} " ++ place).toList := by
  change Text.IsPlainAscii
    ("step " ++ position.repr ++ ": pc=" ++ counter.repr ++ " " ++ place).toList
  simp only [String.toList_append, Text.isPlainAscii_append]
  exact ⟨⟨⟨⟨⟨by decide, Text.isPlainAscii_repr position⟩, by decide⟩,
    Text.isPlainAscii_repr counter⟩, by decide⟩, plain⟩

/-- A position is seen if the console can show its stacks. -/
theorem exists_seesPosition (ascii : console.ShowsAscii)
    (encodable : Token.encodableLines .standard Token.sourceName source = .ok lines)
    (recorded : playback.offsets = some (OffsetMap.ofLines lines))
    (inRange : playback.InRange) (reached : 1 ≤ playback.position)
    (canShow : ∀ step, playback.response.trace[playback.position - 1]? = some step →
      CanShowStacks console step) :
    ∃ block,
      console.Shows (viewLines (Text.splitWords source) (Session.loaded playback).view) block ∧
      SeesPosition console source lines.flatten playback.response.trace playback.position
        block := by
  have assembled : assemble source = .ok _ :=
    assembleWith_eq_ok_iff_encodableLines.mpr ⟨lines, encodable, rfl⟩
  rcases Session.viewsPosition_of_inRange inRange with ⟨start, _⟩ | ⟨step, _, found, shows⟩
  · omega
  · have tells := tellsPlace_viewPlace encodable recorded shows.programCounter_eq
    have plain := isPlainAscii_positionLine playback.position step.programCounter
      (tells.isPlainAscii assembled)
    rcases canShow step found with ⟨canShowStack, canShowAltStack⟩
    rcases Option.isSome_iff_exists.mp canShowStack with ⟨stack, showsStack⟩
    rcases Option.isSome_iff_exists.mp canShowAltStack with ⟨altStack, showsAltStack⟩
    rw [viewLines, shows.programCounter_eq]
    simp only [shows.position_eq, shows.stackText_eq, shows.altStackText_eq]
    refine ⟨_, ?_, .step reached found tells showsStack showsAltStack⟩
    exact .cons (ascii _ plain) (.cons showsStack (.cons showsAltStack .nil))

/-! ## Reports on a loaded trace -/

def resultLine : RunOutcome → String
  | .success => "Result: success"
  | .failure detail => "Result: error: " ++ detail

def resultCode : RunOutcome → ExitCode
  | .success => .success
  | .failure _ => .scriptFailed

theorem value_resultCode (outcome : RunOutcome) :
    (resultCode outcome).value = if outcome.succeeded then 0 else 5 := by
  cases outcome <;> rfl

/-- The line that is seen of an outcome. The detail of a failure is seen as the console
shows it. -/
inductive SeesResult (console : Console) : RunOutcome → String → Prop
  | success : SeesResult console .success "Result: success"
  | failure {detail line : String}
      (shows : console.output? ("Result: error: " ++ detail) = some line) :
      SeesResult console (.failure detail) line

/-- The positions that are shown of a trace that is not empty. -/
def shownPositions (showsSteps : Bool) (length : Nat) : List Nat :=
  if showsSteps then List.range' 1 length else [length]

/-- The steps at the positions that are shown. -/
def shownSteps (showsSteps : Bool) (steps : List TraceStep) : List TraceStep :=
  if showsSteps then steps else steps.getLast?.toList

/-- Whether a console can show the texts of a response that are printed: the stacks of
each step that is shown, and the detail of a failure. -/
structure CanShow (console : Console) (showsSteps : Bool) (response : RunResponse) : Prop where
  ofSteps : ∀ step ∈ shownSteps showsSteps response.trace, CanShowStacks console step
  ofDetail : ∀ detail, response.outcome = .failure detail →
    (console.output? ("Result: error: " ++ detail)).isSome = true

/-- What is seen of a response: each position that is shown, once and in order, or that
there is none, and then the outcome. -/
structure SeesTrace (console : Console) (showsSteps : Bool) (source : String)
    (tokens : List Token) (response : RunResponse) (seen : List String) : Prop where
  noSteps : response.trace = [] →
    ∃ result, SeesResult console response.outcome result ∧ seen = ["(no steps)", result]
  positions : response.trace ≠ [] → ∃ blocks result,
    List.Forall₂ (SeesPosition console source tokens response.trace)
      (shownPositions showsSteps response.trace.length) blocks ∧
    SeesResult console response.outcome result ∧ seen = blocks.flatten ++ [result]

theorem exists_seesResult (ascii : console.ShowsAscii) {outcome : RunOutcome}
    (canShow : ∀ detail, outcome = .failure detail →
      (console.output? ("Result: error: " ++ detail)).isSome = true) :
    ∃ result, console.output? (resultLine outcome) = some result ∧
      SeesResult console outcome result := by
  cases outcome with
  | success => exact ⟨_, ascii _ (by decide), .success⟩
  | failure detail =>
      rcases Option.isSome_iff_exists.mp (canShow detail rfl) with ⟨result, shows⟩
      exact ⟨result, shows, .failure shows⟩

theorem mem_shownSteps {showsSteps : Bool} {steps : List TraceStep} {position : Nat}
    (member : position ∈ shownPositions showsSteps steps.length)
    (found : steps[position - 1]? = some step) : step ∈ shownSteps showsSteps steps := by
  cases showsSteps with
  | true => exact List.mem_of_getElem? found
  | false =>
      rw [List.mem_singleton.mp member, ← List.getLast?_eq_getElem?] at found
      exact Option.mem_toList.mpr found

theorem reached_getLastD_viewsFrom (inRange : playback.InRange) (other : Session.View) :
    ((Session.viewsFrom playback).getLastD other).reached = some playback.response.outcome := by
  induction playback, inRange using Playback.forward_induction generalizing other with
  | ended playback inRange ended =>
      rw [Session.viewsFrom_of_not_active inRange ended]
      change (Session.loaded playback).view.reached = _
      rcases Session.viewsPosition_of_inRange inRange with ⟨_, view⟩ | ⟨step, _, _, shows⟩
      · rw [view]
      · rw [shows.reached_eq, inRange.reachedOutcome_eq,
          if_pos (inRange.phase_ne_active_iff.mp ended)]
  | active playback inRange active induction =>
      rw [Session.viewsFrom_of_active inRange active, List.getLastD_cons]
      exact induction _

@[simp] theorem outputLines_log (context : Context) (records : List LogRecord) :
    (context.log records).filterMap Entry.outputLine? = [] := by
  rw [Context.log, List.filterMap_map]
  exact List.filterMap_eq_nil_iff.mpr fun line _ => rfl

theorem outputLines_map_output (texts : List String) :
    (texts.map Entry.output).filterMap Entry.outputLine? = texts := by
  rw [List.filterMap_map]
  exact List.filterMap_some

/-- The lines of the loop are those of the views, whatever is logged between them. -/
theorem outputLines_loopEntries (context : Context) (words : List String) (steps : Nat)
    (session : Session) :
    (loopEntries context words steps session).filterMap Entry.outputLine? =
      (session.viewsWithin steps).flatMap (viewLines words) := by
  induction steps generalizing session with
  | zero =>
      rw [loopEntries, outputLines_map_output, Session.viewsWithin, List.flatMap_singleton]
  | succ steps induction =>
      rw [loopEntries, Session.viewsWithin]
      cases session.phase with
      | active =>
          simp only [List.filterMap_append, outputLines_map_output, outputLines_log,
            List.append_nil, induction, List.flatMap_cons]
      | idle | terminal =>
          simp only [outputLines_map_output, List.flatMap_singleton]

theorem traceReport_loaded (context : Context) (inRange : playback.InRange) :
    (traceReport context (.loaded playback)).output =
        (Session.viewsFrom playback).flatMap (viewLines playback.words) ++
          [resultLine playback.response.outcome] ∧
      (traceReport context (.loaded playback)).exitCode =
        resultCode playback.response.outcome := by
  have shown : (loopEntries context playback.words playback.length (.loaded playback)).filterMap
      Entry.outputLine? = (Session.viewsFrom playback).flatMap (viewLines playback.words) := by
    rw [outputLines_loopEntries, Session.viewsWithin_loaded inRange (Nat.le_add_left ..)]
  have printed (result : String) :
      (loopEntries context playback.words playback.length (.loaded playback) ++
        [Entry.output result]).filterMap Entry.outputLine? =
          (Session.viewsFrom playback).flatMap (viewLines playback.words) ++ [result] := by
    rw [List.filterMap_append, shown]
    rfl
  rw [traceReport]
  simp only [Session.viewsToEnd_loaded inRange, reached_getLastD_viewsFrom inRange]
  cases playback.response.outcome with
  | success => exact ⟨printed _, rfl⟩
  | failure detail => exact ⟨printed _, rfl⟩

theorem viewLines_of_empty (inRange : playback.InRange) (empty : playback.length = 0)
    (words : List String) :
    (Session.viewsFrom playback).flatMap (viewLines words) = ["(no steps)"] := by
  have atStart : playback.position = 0 := by
    have last := inRange.le_length
    omega
  have ended : playback.phase ≠ .active :=
    inRange.phase_ne_active_iff.mpr (atStart.trans empty.symm)
  rw [Session.viewsFrom_of_not_active inRange ended, List.flatMap_singleton]
  rcases Session.viewsPosition_of_inRange inRange with ⟨_, view⟩ | ⟨step, later, _⟩
  · rw [view, viewLines]
  · omega

theorem exists_seesPositions (ascii : console.ShowsAscii)
    (encodable : Token.encodableLines .standard Token.sourceName source = .ok lines)
    (recorded : playback.offsets = some (OffsetMap.ofLines lines))
    (inRange : playback.InRange) (someSteps : playback.length ≠ 0) {positions : List Nat}
    (left : List.range' playback.position (playback.length - playback.position + 1) = positions)
    (canShow : ∀ position ∈ positions, ∀ step,
      playback.response.trace[position - 1]? = some step → CanShowStacks console step) :
    ∃ blocks,
      List.Forall₂ (SeesPosition console source lines.flatten playback.response.trace) positions
        blocks ∧
      console.Shows ((Session.viewsFrom playback).flatMap (viewLines (Text.splitWords source)))
        blocks.flatten := by
  have first : min 1 playback.length ≤ playback.position := inRange.first_le
  have last := inRange.le_length
  have each : ∀ position ∈ positions, ∃ block,
      console.Shows (viewLines (Text.splitWords source) (Session.viewAt playback position)) block ∧
      SeesPosition console source lines.flatten playback.response.trace position block := by
    intro position member
    have bounds := member
    rw [← left, List.mem_range'_1] at bounds
    have within : ({ playback with position } : Playback).InRange := by
      constructor
      · change min 1 playback.length ≤ position
        omega
      · change position ≤ playback.length
        omega
    refine exists_seesPosition ascii encodable ?_ within ?_ (canShow position member)
    · exact recorded
    · change 1 ≤ position
      omega
  rcases exists_forall₂_iff.mpr each with ⟨blocks, seen⟩
  refine ⟨blocks, seen.imp fun position block both => both.2, ?_⟩
  have shows : List.Forall₂ console.Shows
      (positions.map fun position =>
        viewLines (Text.splitWords source) (Session.viewAt playback position)) blocks :=
    List.forall₂_map_left_iff.mpr (seen.imp fun position block both => both.1)
  rw [List.flatMap_def, Session.viewsFrom, left, List.map_map]
  exact List.rel_flatten shows

/-- A response as it is loaded for the run of a source. -/
def freshTrace (showsSteps : Bool) (source : String) (map : OffsetMap) (response : RunResponse) :
    Playback where
  response
  position := if showsSteps then min 1 response.trace.length else response.trace.length
  words := Text.splitWords source
  offsets := some map

theorem load_eq_freshTrace (showsSteps : Bool) (source : String) (map : OffsetMap)
    (response : RunResponse) :
    Session.load response (Text.splitWords source) (some map) (!showsSteps) =
      .loaded (freshTrace showsSteps source map response) := by
  cases showsSteps <;> rfl

theorem inRange_freshTrace (showsSteps : Bool) (source : String) (map : OffsetMap)
    (response : RunResponse) : (freshTrace showsSteps source map response).InRange := by
  have inRange :=
    Session.inRange_load response (Text.splitWords source) (some map) (!showsSteps)
  rwa [load_eq_freshTrace] at inRange

theorem shownPositions_freshTrace (showsSteps : Bool) (source : String) (map : OffsetMap)
    {response : RunResponse} (someSteps : response.trace ≠ []) :
    let playback := freshTrace showsSteps source map response
    List.range' playback.position (playback.length - playback.position + 1) =
      shownPositions showsSteps response.trace.length := by
  have positive := List.length_pos_iff.mpr someSteps
  cases showsSteps with
  | false =>
      change List.range' response.trace.length
        (response.trace.length - response.trace.length + 1) = [response.trace.length]
      rw [Nat.sub_self]
      rfl
  | true =>
      change List.range' (min 1 response.trace.length)
        (response.trace.length - min 1 response.trace.length + 1) =
          List.range' 1 response.trace.length
      rw [Nat.min_eq_left positive, Nat.sub_add_cancel positive]

/-- A fresh trace is seen whole, or its last position alone. -/
theorem exists_seesTrace (ascii : console.ShowsAscii) {showsSteps : Bool} {response : RunResponse}
    (canShow : CanShow console showsSteps response)
    (encodable : Token.encodableLines .standard Token.sourceName source = .ok lines) :
    let playback := freshTrace showsSteps source (OffsetMap.ofLines lines) response
    ∃ seen, SeesTrace console showsSteps source lines.flatten response seen ∧
      console.Shows ((Session.viewsFrom playback).flatMap (viewLines (Text.splitWords source)) ++
        [resultLine response.outcome]) seen := by
  intro playback
  have inRange := inRange_freshTrace showsSteps source (OffsetMap.ofLines lines) response
  rcases exists_seesResult ascii canShow.ofDetail with ⟨result, showsResult, seesResult⟩
  have showsLast : console.Shows [resultLine response.outcome] [result] := .cons showsResult .nil
  by_cases empty : response.trace = []
  · refine ⟨["(no steps)", result], ⟨fun _ => ⟨result, seesResult, rfl⟩, fun someSteps =>
      absurd empty someSteps⟩, ?_⟩
    rw [viewLines_of_empty inRange (List.length_eq_zero_iff.mpr empty)]
    exact .cons (ascii _ (by decide)) showsLast
  · have length : playback.length ≠ 0 := fun zero => empty (List.length_eq_zero_iff.mp zero)
    have left := shownPositions_freshTrace showsSteps source (OffsetMap.ofLines lines) empty
    rcases exists_seesPositions ascii encodable rfl inRange length left
      fun position member step found => canShow.ofSteps step (mem_shownSteps member found)
      with ⟨blocks, seesPositions, showsPositions⟩
    refine ⟨blocks.flatten ++ [result], ⟨fun noSteps => absurd noSteps empty, fun _ =>
      ⟨blocks, result, seesPositions, seesResult, rfl⟩⟩, ?_⟩
    exact List.rel_append showsPositions showsLast

example :
    let report := traceReport { config := {}, verbose := false }
      (.loaded (freshTrace true "1\n<0011>\n"
        { tokenTable := [(0, 0), (1, 1), (4, 1)], tokenLines := [1, 2], totalLength := 4 }
        { outcome := .failure "stopped", trace := [{ programCounter := 2, stack := ["01"] },
          { programCounter := 4, stack := ["01", "0011"] }] }))
    report.exitCode = .scriptFailed ∧ report.output = [
        "step 1: pc=2 (unmapped)", "  stack:    [01]", "  altstack: []",
        "step 2: pc=4 <0011> (line 2)", "  stack:    [01, 0011]", "  altstack: []",
        "Result: error: stopped"] := by
  decide +kernel

/-! ## Reports on runs -/

/-- The workspace of a file with the breakpoints that are asked for. -/
def RunSettings.marked (settings : RunSettings) (source : String) : Workspace :=
  settings.breakLines.foldl (fun workspace line => (workspace.toggleBreakpoint line).2)
    (Workspace.create source "" .source)

/-- The workspace of a run that the engine has answered. -/
def RunSettings.answered (settings : RunSettings) (source : String) (response : RunResponse) :
    Workspace :=
  let begun := (settings.marked source).beginRun.2
  (begun.completeRun begun.lastTicket response !settings.showsSteps).2

/-- Toggling breakpoints changes nothing else. -/
theorem exists_toggled (breakLines : List Int) (workspace : Workspace) :
    ∃ breakpoints, breakLines.foldl (fun workspace line => (workspace.toggleBreakpoint line).2)
      workspace = { workspace with breakpoints } := by
  induction breakLines generalizing workspace with
  | nil => exact ⟨workspace.breakpoints, rfl⟩
  | cons line breakLines induction =>
      rw [List.foldl_cons, Workspace.toggleBreakpoint]
      split
      · exact induction _
      · exact induction _

section

variable {program : Program} (compiled : Program.ofSource source = .ok program)
  (context : Context) (settings : RunSettings) (response : RunResponse)

include compiled

theorem create_of_compiled :
    Workspace.create source "" .source = {
      source
      hex := program.hex
      exports := program.exports
      offsets := program.offsets
      info := Hex.byteCountNote program.hex
      activeEditor := .source } := by
  have sameSource := (Program.ofSource_eq_ok_iff.mp compiled).1
  rw [← sameSource] at compiled ⊢
  exact Workspace.refresh_of_ok compiled

/-- With its breakpoints a file is compiled once more, to the same program. -/
theorem refresh_marked :
    (settings.marked source).refresh.fault = none ∧
      (settings.marked source).refresh.source = source ∧
      (settings.marked source).refresh.offsets = program.offsets := by
  rcases exists_toggled settings.breakLines (Workspace.create source "" .source) with
    ⟨breakpoints, toggled⟩
  have program : (settings.marked source).program = .ok program := by
    rw [RunSettings.marked, toggled, create_of_compiled compiled]
    exact compiled
  rw [Workspace.refresh_of_ok program]
  exact ⟨rfl, (Program.ofSource_eq_ok_iff.mp compiled).1, rfl⟩

theorem answered_of_compiled :
    (settings.answered source response).fault = none ∧
      (settings.answered source response).session =
        .loaded (freshTrace settings.showsSteps source program.offsets response) := by
  rcases refresh_marked compiled settings with ⟨fault, sameSource, offsets⟩
  have answered : settings.answered source response =
      ((settings.marked source).refresh.awaiting.settleRun
        ((settings.marked source).refresh.lastTicket + 1) (!settings.showsSteps)
        (.response response)).2 := by
    rw [RunSettings.answered, Workspace.beginRun_of_compiled fault]
    rfl
  rw [answered, Workspace.settleRun_awaiting_response, sameSource, offsets]
  exact ⟨fault, load_eq_freshTrace ..⟩

/-- A file that compiles is posted once, and an accepted response is reported on with
the loaded trace. What comes before is logged. -/
theorem runSource_of_compiled :
    ∃ post resume, runSource context settings source = .posting post resume ∧
      ∀ outcome response, Engine.readOutcome context.config outcome = .response response →
        ∃ earlier, earlier.filterMap Entry.outputLine? = [] ∧ resume outcome =
          (traceReport context (settings.answered source response).session).after earlier := by
  have fault := (refresh_marked compiled settings).1
  have created : (Workspace.create source "" .source).fault = none := by
    rw [create_of_compiled compiled]
  have begun := Workspace.beginRun_of_compiled fault
  have request : (settings.marked source).refresh.awaiting.runRequest? = some _ :=
    Workspace.runRequest?_of_compiled fault
  have posts : ∃ earlier, earlier.filterMap Entry.outputLine? = [] ∧
      runSource context settings source =
        .posting
          (Engine.post context.config (settings.marked source).refresh.awaiting.compiledRequest)
          (settle context settings (settings.marked source).refresh.awaiting
            ((settings.marked source).refresh.lastTicket + 1) earlier) := by
    rw [RunSettings.marked] at begun request
    simp only [runSource, created, begun, request]
    refine ⟨_, ?_, rfl⟩
    simp only [List.filterMap_append, outputLines_log, List.append_nil]
  rcases posts with ⟨earlier, silent, posts⟩
  refine ⟨_, _, posts, fun outcome response accepted => ?_⟩
  simp only [settle, accepted, RunSettings.answered, begun]
  refine ⟨_, ?_, rfl⟩
  simp only [List.filterMap_append, outputLines_log, silent, List.append_nil]

end

/-- A run of a file that compiles is one request. What is seen of an accepted response
is the trace, from its first position to its last or the last alone, and the outcome,
which also gives the exit code. The loop that shows every position ends, in one way
only, and its lines are what is shown. The console has to be able to show the texts of
the engine that are printed. -/
theorem run_prints_trace_once {console : Console} (ascii : console.ShowsAscii)
    (invocation : Invocation) (context : Context) (settings : RunSettings) {source : String}
    {bytes : Bytes} {instructions : List Instruction}
    (readable : invocation.readText (some settings.path) = .ok source)
    (assembled : assemble source = .ok bytes)
    (disassembled : disassemble bytes = .ok instructions) :
    ∃ tokens post resume, Token.ofSource .standard Token.sourceName source = .ok tokens ∧
      runScript invocation context settings = .posting post resume ∧
      ∀ outcome response, Engine.readOutcome context.config outcome = .response response →
        CanShow console settings.showsSteps response →
        let seen := (resume outcome).seenOn console
        SeesTrace console settings.showsSteps source tokens response seen.output ∧
        seen.exitCode.value = (if response.outcome.succeeded then 0 else 5) ∧
        ∃ views,
          (∀ others, (settings.answered source response).ShowsSteps others ↔ others = views) ∧
          console.Shows (views.flatMap (viewLines (Text.splitWords source)) ++
            [resultLine response.outcome]) seen.output := by
  rcases Program.exists_ofSource assembled disassembled with ⟨program, compiled, _⟩
  rcases map_eq_ok_iff.mp (Program.ofSource_eq_ok_iff.mp compiled).2.2.2 with
    ⟨lines, encodable, offsets⟩
  have tokens := Token.ofSource_of_linesOfSource (Token.linesOfSource_of_encodableLines encodable)
  rcases runSource_of_compiled compiled context settings with ⟨post, resume, posts, resumes⟩
  refine ⟨lines.flatten, post, resume, tokens, ?_, fun outcome response accepted canShow => ?_⟩
  · rw [runScript, readable]
    exact posts
  · rcases resumes outcome response accepted with ⟨earlier, silent, reports⟩
    rcases answered_of_compiled compiled settings response with ⟨fault, session⟩
    rw [← offsets] at session
    have inRange :=
      inRange_freshTrace settings.showsSteps source (OffsetMap.ofLines lines) response
    rcases traceReport_loaded context inRange with ⟨output, exitCode⟩
    rcases exists_seesTrace ascii canShow encodable with ⟨seen, seesTrace, shows⟩
    have ends : (resume outcome).exitCode = resultCode response.outcome := by
      rw [reports, session]
      exact exitCode
    have showsPrinted : console.Shows (resume outcome).output seen := by
      rw [reports, session, Report.output_after silent, output]
      exact shows
    rcases Report.seenOn_of_shows showsPrinted with ⟨isSeen, sameCode⟩
    dsimp only
    rw [isSeen, sameCode, ends]
    exact ⟨seesTrace, value_resultCode response.outcome, _,
      fun others => Workspace.showsSteps_iff fault session inRange, shows⟩

/-- A run that fails behind its last instruction, after a step to a place inside of an
instruction, with a breakpoint that is toggled twice. It is reported to a file. -/
theorem run_prints_trace_once_of_failed_run :
    let source := "1\n<0011>\n"
    let invocation : Invocation := {
      arguments := []
      files := .ofFiles [("a.asm", [0x31, 0x0A, 0x3C, 0x30, 0x30, 0x31, 0x31, 0x3E, 0x0A])] }
    let context : Context := { config := {}, verbose := false }
    let settings : RunSettings := {
      path := ["a.asm"]
      breakLines := [2, 2]
      showsSteps := true }
    let response : RunResponse := {
      outcome := .failure "stopped"
      trace := [{ programCounter := 0 }, { programCounter := 2 }, { programCounter := 4 }] }
    let outcome : PostOutcome := .answered 200 true (.ok response.toJson)
    Console.redirected.ShowsAscii ∧
      invocation.readText (some settings.path) = .ok source ∧
      assemble source = .ok [0x51, 0x02, 0x00, 0x11] ∧
      (∃ instructions, disassemble [0x51, 0x02, 0x00, 0x11] = .ok instructions) ∧
      Engine.readOutcome context.config outcome = .response response ∧
      CanShow .redirected settings.showsSteps response ∧
      ∃ post resume, runScript invocation context settings = .posting post resume ∧
        ((resume outcome).seenOn .redirected).exitCode.value = 5 ∧
        ∃ (blocks : List (List String)) (result : String), blocks.length = 3 ∧
          SeesResult .redirected response.outcome result ∧
          ((resume outcome).seenOn .redirected).output = blocks.flatten ++ [result] := by
  intro source invocation context settings response outcome
  have ascii := Console.showsAscii_ofTerminals false false
  have readable : invocation.readText (some settings.path) = .ok source := by decide +kernel
  have assembled : assemble source = .ok [0x51, 0x02, 0x00, 0x11] := by decide +kernel
  have disassembles : ∃ instructions,
      disassemble [0x51, 0x02, 0x00, 0x11] = .ok instructions := ⟨_, rfl⟩
  have accepted : Engine.readOutcome context.config outcome = .response response := by rfl
  have canShow : CanShow .redirected settings.showsSteps response := by
    constructor
    · change ∀ step ∈ response.trace, CanShowStacks .redirected step
      unfold CanShowStacks
      decide +kernel
    · intro detail isDetail
      cases isDetail
      decide +kernel
  rcases disassembles with ⟨instructions, disassembled⟩
  rcases run_prints_trace_once ascii invocation context settings readable assembled
    disassembled with ⟨tokens, post, resume, _, posts, answers⟩
  rcases answers outcome response accepted canShow with ⟨sees, exitCode, _⟩
  rcases sees.positions (by decide) with ⟨blocks, result, positions, seesResult, output⟩
  exact ⟨ascii, readable, assembled, ⟨instructions, disassembled⟩, accepted, canShow, post,
    resume, posts, exitCode, blocks, result, positions.length_eq.symm, seesResult, output⟩

/-- A file gets a printed detail without its control sequences, and if the detail cannot
be encoded, not at all. -/
theorem run_shows_less_of_odd_details :
    let invocation : Invocation := { arguments := [], files := .ofFiles [("a.asm", [0x31])] }
    let context : Context := { config := {}, verbose := false }
    let settings : RunSettings := { path := ["a.asm"], breakLines := [], showsSteps := false }
    let coloured : RunResponse := { outcome := .failure "\x1B[31mbad", trace := [] }
    let half : RunResponse := {
      outcome := .failure (String.singleton (Text.characterOfUnit 0xD800))
      trace := [] }
    let outcomeOf (response : RunResponse) : PostOutcome := .answered 200 true (.ok response.toJson)
    let reportOf (response : RunResponse) : Report :=
      (runScript invocation context settings).run fun _ => outcomeOf response
    assemble "1" = .ok [0x51] ∧ (∃ instructions, disassemble [0x51] = .ok instructions) ∧
      Engine.readOutcome context.config (outcomeOf coloured) = .response coloured ∧
      (reportOf coloured).output = ["(no steps)", "Result: error: \x1B[31mbad"] ∧
      ((reportOf coloured).seenOn .redirected).output = ["(no steps)", "Result: error: bad"] ∧
      Engine.readOutcome context.config (outcomeOf half) = .response half ∧
      ((reportOf half).seenOn .redirected).output = ["(no steps)"] ∧
      ((reportOf half).seenOn .redirected).exitCode.value = 1 := by
  intro invocation context settings coloured half outcomeOf reportOf
  refine ⟨by decide +kernel, ⟨_, rfl⟩, rfl, ?_, ?_, rfl, ?_, ?_⟩
  · decide +kernel
  · decide +kernel
  · decide +kernel
  · decide +kernel

end DebuggerCommand

end ScriptWorkbench
