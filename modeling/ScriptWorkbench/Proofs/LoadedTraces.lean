import ScriptWorkbench.Proofs.LastRequest
import ScriptWorkbench.Proofs.WordTables

/-!
# Loaded traces

A loaded trace has the words of the source, and with them its tokens. The lines
that it highlights are those of the text that its run was begun with, which may
have been laid out anew since.
-/

namespace ScriptWorkbench

namespace Session

variable {playback : Playback} {offsets : OffsetMap} {filename source : String}

/-- The token of a view is the one that the program counter stands for. -/
theorem tokenIndex_view (recorded : playback.offsets = some offsets) :
    (loaded playback).view.tokenIndex =
      (loaded playback).view.programCounter.bind fun counter => offsets.tokenAt counter := by
  rw [view]
  cases playback.currentStep? with
  | none => rfl
  | some step => simp only [viewOfStep, recorded, Option.bind_some]

/-- The line of a view is the recorded line of its token. -/
theorem highlightLine_view (recorded : playback.offsets = some offsets) :
    (loaded playback).view.highlightLine =
      (loaded playback).view.tokenIndex.bind offsets.lineOfToken := by
  rw [view]
  cases playback.currentStep? with
  | none => rfl
  | some step => simp only [viewOfStep, recorded, Option.bind_some]

/-- A line is highlighted if the token of the view stands on it in the source
that the offset map was made from. -/
theorem highlightLine_view_eq_some_iff (recorded : playback.offsets = some offsets)
    (built : OffsetMap.ofSource filename source = .ok offsets) {line : Int} :
    (loaded playback).view.highlightLine = some line ↔
      ∃ index, (loaded playback).view.tokenIndex = some index ∧
        Text.StandsOn source index line := by
  rw [highlightLine_view recorded, Option.bind_eq_some_iff]
  simp only [OffsetMap.lineOfToken_eq_some_iff built]

/-- The token of a view is one of the source that the offset map was made
from. -/
theorem tokenIndex_view_bounds (recorded : playback.offsets = some offsets)
    (built : OffsetMap.ofSource filename source = .ok offsets) {index : Int}
    (shown : (loaded playback).view.tokenIndex = some index) :
    0 ≤ index ∧ index < ((Text.splitWords source).length : Int) := by
  rw [tokenIndex_view recorded] at shown
  rcases Option.bind_eq_some_iff.mp shown with ⟨counter, _, found⟩
  exact OffsetMap.tokenAt_bounds built found

end Session

namespace Workspace

variable {log : List RunEvent} {workspace : Workspace} {playback : Playback}

/-- A loaded trace is the response to a run of the log, whose source had the
words of the present one. -/
theorem Accounts.exists_beginning (accounts : Accounts log workspace)
    (fits : workspace.SessionFits) (loaded : workspace.session = .loaded playback) :
    ∃ beginning ∈ beginnings log, RunEvent.completed beginning.ticket playback.response ∈ log ∧
      Text.splitWords beginning.source = Text.splitWords workspace.source ∧
      playback.words = Text.splitWords workspace.source ∧
      playback.offsets = some beginning.offsets ∧
      OffsetMap.ofSource Token.sourceName beginning.source = .ok beginning.offsets := by
  rcases accounts.session playback loaded with ⟨beginning, member, completed, words, offsets⟩
  rw [SessionFits, loaded, Session.onSourceChanged_eq_self_iff] at fits
  exact ⟨beginning, member, completed, words.symm.trans fits.symm, fits.symm, offsets,
    accounts.compiled beginning member⟩

/-! ## The tokens of a trace -/

/-- The trace of a reachable workspace belongs to the source on screen: it has
the words of the source, which assembles, and its offset map has the tokens of
the source. So at every position the token that is shown is the one that the
source has at the program counter. -/
theorem loaded_trace_has_tokens_of_source (reachable : workspace.Reachable)
    (loaded : workspace.session = .loaded playback) :
    playback.words = Text.splitWords workspace.source ∧
    (∃ bytes, assemble workspace.source = .ok bytes) ∧
    ∃ recorded map, playback.offsets = some recorded ∧
      OffsetMap.ofSource Token.sourceName workspace.source = .ok map ∧
      recorded.AgreesOnTokens map ∧
      ∀ position,
        let view := (Session.loaded { playback with position }).view
        view.tokenIndex = (view.programCounter.bind fun counter => map.tokenAt counter) ∧
        ∀ index, view.tokenIndex = some index →
          0 ≤ index ∧ index < ((Text.splitWords workspace.source).length : Int) := by
  rcases reachable.exists_afterAll with ⟨source, hex, editor, operations, same⟩
  have accounts := accounts_runLog source hex editor operations
  rw [same] at accounts
  rcases accounts.exists_beginning reachable.sound.session loaded with
    ⟨beginning, _, _, sameWords, words, offsets, compiled⟩
  rcases OffsetMap.exists_agreesOnTokens compiled sameWords with ⟨map, built, agrees⟩
  rcases OffsetMap.exists_lineCodes_of_ofSource built with ⟨codes, coded, _⟩
  have assembled : assemble workspace.source = .ok codes.flatten := assemble_of_lineCodes coded
  refine ⟨words, ⟨_, assembled⟩, beginning.offsets, map, offsets, built, agrees,
    fun position => ?_⟩
  have recorded : ({ playback with position } : Playback).offsets = some beginning.offsets :=
    offsets
  constructor
  · rw [Session.tokenIndex_view recorded]
    simp only [OffsetMap.tokenAt, agrees.tokenTable]
  · intro index shown
    rw [← sameWords]
    exact Session.tokenIndex_view_bounds recorded compiled shown

/-- A trace whose source got another layout after it was loaded. -/
theorem loaded_trace_has_tokens_of_source_of_new_layout :
    let response : RunResponse := { outcome := .success, trace := [{ programCounter := 1 }] }
    let playback : Playback := {
      response
      position := 1
      words := ["OP_DUP", "<0011>"]
      offsets := some {
        lineTable := [0]
        tokenTable := [(0, 0), (1, 1), (4, 1)]
        tokenLines := [1, 1]
        totalLength := 4 } }
    let workspace := afterAll
      [.beginRun, .completeRun 1 response false, .editSource "OP_DUP\n<0011>"]
      (create "OP_DUP <0011>" "" .source)
    workspace.Reachable ∧ workspace.session = .loaded playback ∧
      ∃ map, OffsetMap.ofSource Token.sourceName "OP_DUP\n<0011>" = .ok map ∧
        map.tokenTable = [(0, 0), (1, 1), (4, 1)] ∧ map.tokenCount = 2 := by
  intro response playback workspace
  have loaded : workspace.session = .loaded playback := by decide +revert
  have source : workspace.source = "OP_DUP\n<0011>" := by decide +revert
  have reachable : workspace.Reachable := (Reachable.create "OP_DUP <0011>" "" .source).afterAll _
  rcases loaded_trace_has_tokens_of_source reachable loaded with
    ⟨_, _, recorded, map, offsets, built, agrees, _⟩
  cases offsets
  rw [source] at built
  exact ⟨reachable, loaded, map, built, agrees.tokenTable.symm, agrees.tokenCount.symm⟩

/-! ## The highlighted line -/

/-- Whether the line that is highlighted is the one of the source on which the
shown token stands. -/
def HighlightFits (workspace : Workspace) : Prop :=
  ∀ line, workspace.view.highlightLine = some line →
    ∃ index, workspace.view.tokenIndex = some index ∧
      Text.StandsOn workspace.source index line

/-- With the offset map of a source recorded, the highlight fits if the shown
token has not moved since from its line in that source. -/
theorem highlightFits_iff {offsets : OffsetMap} {filename source : String}
    (loaded : workspace.session = .loaded playback) (recorded : playback.offsets = some offsets)
    (built : OffsetMap.ofSource filename source = .ok offsets) :
    workspace.HighlightFits ↔ ∀ index, workspace.view.tokenIndex = some index →
      ∃ line, Text.StandsOn source index line ∧ Text.StandsOn workspace.source index line := by
  have viewed : workspace.view = (Session.loaded playback).view := congrArg Session.view loaded
  unfold HighlightFits
  rw [viewed]
  constructor
  · intro fits index shown
    rcases Session.tokenIndex_view_bounds recorded built shown with ⟨lower, upper⟩
    rcases OffsetMap.exists_standsOn built lower upper with ⟨line, stood⟩
    have highlighted := (Session.highlightLine_view_eq_some_iff recorded built).mpr
      ⟨index, shown, stood⟩
    rcases fits line highlighted with ⟨other, again, now⟩
    rw [shown] at again
    cases again
    exact ⟨line, stood, now⟩
  · intro notMoved line highlighted
    rcases (Session.highlightLine_view_eq_some_iff recorded built).mp highlighted with
      ⟨index, shown, stood⟩
    -- The line on which the token has stayed is the highlighted one, as a word has one line.
    rcases notMoved index shown with ⟨other, stoodOther, now⟩
    rw [OffsetMap.eq_of_standsOn built stood stoodOther]
    exact ⟨index, shown, now⟩

/-- The highlighted line is the one on which the shown token stood in the text
that the run was begun with. So it fits the source on screen exactly if the
token stands on the same line there, and always if the text is the same. -/
theorem highlight_fits_iff_word_not_moved (source hex : String) (editor : Editor)
    (operations : List Operation) {playback : Playback}
    (loaded : (afterAll operations (create source hex editor)).session = .loaded playback) :
    let workspace := afterAll operations (create source hex editor)
    let log := runLog operations (create source hex editor)
    ∃ beginning ∈ beginnings log, RunEvent.completed beginning.ticket playback.response ∈ log ∧
      Text.splitWords beginning.source = Text.splitWords workspace.source ∧
      (∀ line, workspace.view.highlightLine = some line ↔
        ∃ index, workspace.view.tokenIndex = some index ∧
          Text.StandsOn beginning.source index line) ∧
      (workspace.HighlightFits ↔ ∀ index, workspace.view.tokenIndex = some index →
        ∃ line, Text.StandsOn beginning.source index line ∧
          Text.StandsOn workspace.source index line) ∧
      (beginning.source = workspace.source → workspace.HighlightFits) := by
  intro workspace log
  have accounts : Accounts log workspace := accounts_runLog source hex editor operations
  have reachable : workspace.Reachable := (Reachable.create source hex editor).afterAll operations
  rcases accounts.exists_beginning reachable.sound.session loaded with
    ⟨beginning, member, completed, sameWords, _, offsets, compiled⟩
  have viewed : workspace.view = (Session.loaded playback).view := congrArg Session.view loaded
  refine ⟨beginning, member, completed, sameWords, fun line => ?_,
    highlightFits_iff loaded offsets compiled, fun sameSource line highlighted => ?_⟩
  · rw [viewed]
    exact Session.highlightLine_view_eq_some_iff offsets compiled
  · rw [viewed] at highlighted ⊢
    rw [← sameSource]
    exact (Session.highlightLine_view_eq_some_iff offsets compiled).mp highlighted

/-- A line feed that is put in front of the source after the response has come:
the token is on the second line now, and the first one stays highlighted. -/
theorem highlight_fits_iff_word_not_moved_of_line_feed :
    let response : RunResponse := { outcome := .success, trace := [{ programCounter := 0 }] }
    let operations : List Operation :=
      [.beginRun, .completeRun 1 response false, .editSource "\nOP_DUP"]
    let workspace := afterAll operations (create "OP_DUP" "" .source)
    (∃ playback, workspace.session = .loaded playback) ∧ workspace.errorText = "" ∧
      workspace.view.tokenIndex = some 0 ∧ workspace.view.highlightLine = some 1 ∧
      Text.StandsOn workspace.source 0 2 ∧ ¬workspace.HighlightFits := by
  intro response operations workspace
  have loaded : workspace.session = .loaded {
      response
      position := 1
      words := ["OP_DUP"]
      offsets := some {
        lineTable := [0]
        tokenTable := [(0, 0), (1, 0)]
        tokenLines := [1]
        totalLength := 1 } } := by decide +revert
  have shown : workspace.view.tokenIndex = some 0 := by decide +revert
  have highlighted : workspace.view.highlightLine = some 1 := by decide +revert
  have source : workspace.source = "\nOP_DUP" := by decide +revert
  have noError : workspace.errorText = "" := by decide +revert
  have built : OffsetMap.ofSource Token.sourceName "\nOP_DUP" = .ok {
      lineTable := [0, 0]
      tokenTable := [(0, 0), (1, 0)]
      tokenLines := [2]
      totalLength := 1 } := by rfl
  have second : Text.StandsOn workspace.source 0 2 := by
    rw [source]
    exact (OffsetMap.lineOfToken_eq_some_iff built).mp rfl
  refine ⟨⟨_, loaded⟩, noError, shown, highlighted, second, fun fits => ?_⟩
  rcases highlight_fits_iff_word_not_moved "OP_DUP" "" .source operations loaded with
    ⟨beginning, _, _, _, lines, fitsIff, _⟩
  rcases fitsIff.mp fits 0 shown with ⟨line, stood, now⟩
  have first : workspace.view.highlightLine = some line := (lines line).mpr ⟨0, shown, stood⟩
  rw [highlighted] at first
  cases first
  rw [source] at now second
  have same := OffsetMap.eq_of_standsOn built now second
  revert same
  decide

end Workspace

end ScriptWorkbench
