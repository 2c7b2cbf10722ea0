import ScriptWorkbench.Proofs.LoadedTraces
import ScriptWorkbench.Proofs.PlaybackSteps
import ScriptWorkbench.Proofs.TokenOffsets

/-!
# Highlighted tokens

A view that points at no token highlights neither a token nor a line. The number of
the highlighted token is 0 then, and while steps are left it is 0 only then. At the
end of a trace the tokens count from 0, so there the number 0 may also be that of
the first token, whose line is highlighted.
-/

namespace ScriptWorkbench

/-- The first token stands at the start of a program, and for its end too if there
is no other token. -/
theorem standsFor_zero_iff {tokens : List Token} {offset : Nat} :
    StandsFor tokens offset 0 ↔
      tokens ≠ [] ∧ (offset = 0 ∨ tokens.length = 1 ∧ offset = encodedSize tokens) := by
  have start : tokenStart tokens 0 = 0 := by
    rw [tokenStart, List.take_zero]
    rfl
  constructor
  · rintro (⟨place, inside, offsetEq, first⟩ | ⟨someTokens, offsetEq, last⟩)
    · have zero : place = 0 := by omega
      subst zero
      rw [start] at offsetEq
      exact ⟨List.length_pos_iff.mp inside, .inl (Int.ofNat_inj.mp offsetEq)⟩
    · rw [tokenStart_length] at offsetEq
      exact ⟨someTokens, .inr ⟨by omega, Int.ofNat_inj.mp offsetEq⟩⟩
  · rintro ⟨someTokens, rfl | ⟨single, rfl⟩⟩
    · refine .inl ⟨0, List.length_pos_iff.mpr someTokens, ?_, rfl⟩
      rw [start]
    · refine .inr ⟨someTokens, ?_, by omega⟩
      rw [tokenStart_length]

namespace Playback

/-- Whether the last step of a trace is shown and stopped at the first token of a
program. -/
def EndsAtFirstToken (playback : Playback) (tokens : List Token) : Prop :=
  playback.position = playback.length ∧
    ∃ step, playback.response.trace.getLast? = some step ∧ tokens ≠ [] ∧
      (step.programCounter = 0 ∨
        tokens.length = 1 ∧ step.programCounter = encodedSize tokens)

/-- At the end of a trace, its last step is shown. -/
theorem currentStep?_of_position_eq_length {playback : Playback}
    (atEnd : playback.position = playback.length) :
    playback.currentStep? = playback.response.trace.getLast? := by
  have size : playback.position = playback.response.trace.length := atEnd
  rw [List.getLast?_eq_getElem?, ← size, currentStep?]
  cases position : playback.position with
  | zero =>
      rw [position] at size
      rw [List.length_eq_zero_iff.mp size.symm]
      rfl
  | succ shown => rfl

end Playback

namespace Session

variable {playback : Playback} {offsets : OffsetMap} {filename source : String}

/-! ## Views with the offset map of a source -/

/-- The number of the token that is highlighted. -/
theorem highlightToken_view (playback : Playback) :
    (loaded playback).view.highlightToken =
      match (loaded playback).view.tokenIndex with
      | none => 0
      | some index => if playback.phase = .terminal then index else index + 1 := by
  rw [view]
  cases playback.currentStep? with
  | none => rfl
  | some step =>
      simp only [viewOfStep]
      cases playback.offsets.bind fun offsets => offsets.tokenAt step.programCounter with
      | none => rfl
      | some index => cases playback.phase <;> rfl

/-- A line is highlighted exactly if there is a token to highlight. -/
theorem highlightLine_view_eq_none_iff (recorded : playback.offsets = some offsets)
    (built : OffsetMap.ofSource filename source = .ok offsets) :
    (loaded playback).view.highlightLine = none ↔
      (loaded playback).view.tokenIndex = none := by
  rw [highlightLine_view recorded]
  cases shown : (loaded playback).view.tokenIndex with
  | none => simp
  | some index =>
      rcases tokenIndex_view_bounds recorded built shown with ⟨lower, upper⟩
      rcases OffsetMap.exists_standsOn built lower upper with ⟨line, stands⟩
      simp [(OffsetMap.lineOfToken_eq_some_iff built).mpr stands]

/-- The tokens of a source count from 0 on, so a number that counts from 1 is never
0. -/
theorem highlightToken_view_eq_zero_iff (recorded : playback.offsets = some offsets)
    (built : OffsetMap.ofSource filename source = .ok offsets) :
    (loaded playback).view.highlightToken = 0 ↔
      (loaded playback).view.tokenIndex = none ∨
        playback.phase = .terminal ∧ (loaded playback).view.tokenIndex = some 0 := by
  rw [highlightToken_view]
  cases shown : (loaded playback).view.tokenIndex with
  | none => simp
  | some index =>
      have lower := (tokenIndex_view_bounds recorded built shown).1
      by_cases atEnd : playback.phase = .terminal
      · simp [atEnd]
      · simp only [atEnd, if_false, false_and, or_false, reduceCtorEq, iff_false]
        omega

/-- The first token is shown at the end of a trace exactly if the run stopped
there. -/
theorem first_token_at_end_iff {lines : List (List Token)} (inRange : playback.InRange)
    (recorded : playback.offsets = some (OffsetMap.ofLines lines)) :
    playback.phase = .terminal ∧ (loaded playback).view.tokenIndex = some 0 ↔
      playback.EndsAtFirstToken lines.flatten := by
  have terminal : playback.phase = .terminal ↔ playback.position = playback.length := by
    rw [inRange.phase_eq]
    split <;> simp_all
  rw [terminal, Playback.EndsAtFirstToken]
  refine and_congr_right fun atEnd => ?_
  rw [← Playback.currentStep?_of_position_eq_length atEnd, view]
  cases playback.currentStep? with
  | none => simp
  | some step =>
      simp only [viewOfStep, recorded, Option.bind_some, OffsetMap.tokenAt_ofLines_eq_some_iff,
        standsFor_zero_iff, Option.some.injEq, exists_eq_left']

/-! ## Sessions whose traces come with a source -/

/-- Whether a trace, if one is loaded, is loaded with the offset map of a source. -/
def Transition.MapsSource : Transition → Prop
  | .load _ _ offsets _ => ∃ filename source map,
      offsets = some map ∧ OffsetMap.ofSource filename source = .ok map
  | .stepForward | .stepBackward | .sourceChanged _ => True

theorem exists_ofSource_of_afterTransitions {transitions : List Transition}
    (mapped : ∀ transition ∈ transitions, transition.MapsSource)
    (reached : afterTransitions transitions .idle = .loaded playback) :
    ∃ filename source map,
      playback.offsets = some map ∧ OffsetMap.ofSource filename source = .ok map := by
  rcases exists_load reached with ⟨earlier, jumpToEnd, later, rfl, _⟩
  exact mapped (.load playback.response playback.words playback.offsets jumpToEnd) (by simp)

/-- After any transitions that load traces with the offset map of a source, a line
is highlighted exactly if a token is shown. The number of the highlighted token is 0
if none is shown, and otherwise only at the end of a trace whose run stopped at the
first token. -/
theorem zero_highlights_nothing_or_first_token (transitions : List Transition)
    (mapped : ∀ transition ∈ transitions, transition.MapsSource) :
    let session := afterTransitions transitions .idle
    (session.view.highlightLine = none ↔ session.view.tokenIndex = none) ∧
    (session.view.highlightToken = 0 ↔ session.view.tokenIndex = none ∨
      session.phase = .terminal ∧ session.view.tokenIndex = some 0) ∧
    (session.phase ≠ .terminal →
      (session.view.highlightToken = 0 ↔ session.view.tokenIndex = none)) ∧
    ∀ playback, session = .loaded playback →
      ∃ filename source tokens map, playback.offsets = some map ∧
        OffsetMap.ofSource filename source = .ok map ∧
        Token.ofSource .standard filename source = .ok tokens ∧
        (session.phase = .terminal ∧ session.view.tokenIndex = some 0 ↔
          playback.EndsAtFirstToken tokens) := by
  intro session
  have inRange : session.InRange := inRange_afterTransitions transitions trivial
  cases reached : session with
  | idle => simp [view, phase]
  | loaded playback =>
      rw [reached] at inRange
      rcases exists_ofSource_of_afterTransitions mapped reached with
        ⟨filename, source, map, recorded, built⟩
      have zero := highlightToken_view_eq_zero_iff recorded built
      refine ⟨highlightLine_view_eq_none_iff recorded built, zero, fun stepsLeft => ?_, ?_⟩
      · rw [zero]
        exact or_iff_left fun ended => stepsLeft ended.1
      · intro other same
        cases same
        rcases map_eq_ok_iff.mp built with ⟨lines, encodable, rfl⟩
        have read := Token.linesOfSource_of_encodableLines encodable
        exact ⟨filename, source, lines.flatten, _, recorded, built,
          Token.ofSource_of_linesOfSource read, first_token_at_end_iff inRange recorded⟩

/-- A run that fails at its first instruction: no number of a token is highlighted,
but the line of the token is. -/
theorem zero_highlights_nothing_or_first_token_of_early_failure :
    let response : RunResponse := {
      outcome := .failure "OP_RETURN"
      trace := [{ programCounter := 0 }] }
    let map : OffsetMap := {
      lineTable := [0]
      tokenTable := [(0, 0), (1, 1), (2, 1)]
      tokenLines := [1, 1]
      totalLength := 2 }
    let session := afterTransitions
      [.load response ["OP_RETURN", "1"] (some map) false, .stepForward] .idle
    OffsetMap.ofSource "<asm>" "OP_RETURN 1" = .ok map ∧ session.phase = .terminal ∧
      session.view.highlightToken = 0 ∧ session.view.tokenIndex = some 0 ∧
      session.view.highlightLine ≠ none := by
  intro response map session
  have built : OffsetMap.ofSource "<asm>" "OP_RETURN 1" = .ok map := by rfl
  have ended : session.phase = .terminal := by rfl
  have first : session.view.tokenIndex = some 0 := by rfl
  have mapped : ∀ transition ∈
      [Transition.load response ["OP_RETURN", "1"] (some map) false, .stepForward],
      transition.MapsSource := by
    rw [List.forall_mem_cons, List.forall_mem_singleton]
    exact ⟨⟨"<asm>", "OP_RETURN 1", map, rfl, built⟩, trivial⟩
  rcases zero_highlights_nothing_or_first_token
      [.load response ["OP_RETURN", "1"] (some map) false, .stepForward] mapped with
    ⟨line, zero, _, _⟩
  refine ⟨built, ended, zero.mpr (.inr ⟨ended, first⟩), first, fun noLine => ?_⟩
  cases first.symm.trans (line.mp noLine)

end Session

end ScriptWorkbench
