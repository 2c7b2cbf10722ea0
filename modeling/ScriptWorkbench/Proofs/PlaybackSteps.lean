import Mathlib.Data.List.Induction
import Mathlib.Logic.Function.Iterate
import ScriptWorkbench.Debug.Session

/-!
# Playing back a trace

Whatever is done to a session, a loaded one stays between the first step of its
trace and the last one. So there is a step to show unless the trace is empty,
and the steps that are taken forward and backward add up until they reach an
end of the trace.
-/

namespace ScriptWorkbench

/-! ## Positions in a trace -/

namespace Playback

variable {playback : Playback}

/-- Whether the position is one that a trace is played back at. -/
structure InRange (playback : Playback) : Prop where
  first_le : playback.firstPosition ≤ playback.position
  le_length : playback.position ≤ playback.length

theorem firstPosition_le_length (playback : Playback) :
    playback.firstPosition ≤ playback.length := Nat.min_le_right _ _

theorem inRange_forward (inRange : playback.InRange) : playback.forward.InRange where
  first_le := by
    have first := inRange.first_le
    have bound := playback.firstPosition_le_length
    change playback.firstPosition ≤ min (playback.position + 1) playback.length
    omega
  le_length := Nat.min_le_right _ _

theorem inRange_backward (inRange : playback.InRange) : playback.backward.InRange where
  first_le := Nat.le_max_right _ _
  le_length := by
    have last := inRange.le_length
    have bound := playback.firstPosition_le_length
    change max (playback.position - 1) playback.firstPosition ≤ playback.length
    omega

/-- The end of a trace is shown only at its last position. -/
theorem InRange.phase_eq (inRange : playback.InRange) :
    playback.phase = if playback.position = playback.length then .terminal else .active := by
  have last := inRange.le_length
  rw [phase]
  by_cases atEnd : playback.position = playback.length
  · rw [if_pos atEnd, if_pos (Nat.le_of_eq atEnd.symm)]
  · rw [if_neg atEnd, if_neg (by omega)]

theorem InRange.phase_eq_active_iff (inRange : playback.InRange) :
    playback.phase = .active ↔ playback.position < playback.length := by
  have last := inRange.le_length
  rw [inRange.phase_eq]
  by_cases atEnd : playback.position = playback.length
  · rw [if_pos atEnd]
    exact ⟨SessionPhase.noConfusion, fun less => by omega⟩
  · rw [if_neg atEnd]
    exact ⟨fun _ => by omega, fun _ => rfl⟩

theorem InRange.phase_ne_active_iff (inRange : playback.InRange) :
    playback.phase ≠ .active ↔ playback.position = playback.length := by
  have last := inRange.le_length
  rw [Ne, inRange.phase_eq_active_iff]
  omega

theorem InRange.reachedOutcome_eq (inRange : playback.InRange) :
    playback.reachedOutcome =
      if playback.position = playback.length then some playback.response.outcome else none := by
  rw [reachedOutcome, inRange.phase_eq]
  by_cases atEnd : playback.position = playback.length
  · rw [if_pos atEnd, if_pos atEnd]
  · rw [if_neg atEnd, if_neg atEnd]

/-- Steps forward add up until the last step is shown. -/
theorem InRange.iterate_forward (inRange : playback.InRange) (steps : Nat) :
    forward^[steps] playback =
      { playback with position := min (playback.position + steps) playback.length } := by
  induction steps with
  | zero =>
      have stays : min (playback.position + 0) playback.length = playback.position :=
        Nat.min_eq_left inRange.le_length
      rw [stays]
      rfl
  | succ steps induction =>
      rw [Function.iterate_succ_apply', induction, forward]
      congr 1
      change min (min (playback.position + steps) playback.length + 1) playback.length = _
      omega

/-- Steps backward add up until the first step is shown. -/
theorem InRange.iterate_backward (inRange : playback.InRange) (steps : Nat) :
    backward^[steps] playback =
      { playback with position := max (playback.position - steps) playback.firstPosition } := by
  induction steps with
  | zero =>
      have stays : max (playback.position - 0) playback.firstPosition = playback.position :=
        Nat.max_eq_left inRange.first_le
      rw [stays]
      rfl
  | succ steps induction =>
      rw [Function.iterate_succ_apply', induction, backward]
      congr 1
      change max (max (playback.position - steps) playback.firstPosition - 1)
        playback.firstPosition = _
      omega

theorem InRange.backward_forward (inRange : playback.InRange)
    (active : playback.phase = .active) : playback.forward.backward = playback := by
  have before := inRange.phase_eq_active_iff.mp active
  have first := inRange.first_le
  rw [backward, forward]
  congr 1
  change max (min (playback.position + 1) playback.length - 1) playback.firstPosition = _
  omega

theorem InRange.forward_backward (inRange : playback.InRange)
    (later : 1 < playback.position) : playback.backward.forward = playback := by
  have last := inRange.le_length
  have first : playback.firstPosition ≤ 1 := Nat.min_le_left _ _
  rw [forward, backward]
  congr 1
  change min (max (playback.position - 1) playback.firstPosition + 1) playback.length = _
  omega

/-- There is nothing to show only if the trace is empty. -/
theorem InRange.currentStep_cases (inRange : playback.InRange) :
    (playback.position = 0 ∧ playback.length = 0 ∧ playback.currentStep? = none) ∨
      ∃ step, 0 < playback.position ∧
        playback.response.trace[playback.position - 1]? = some step ∧
        playback.currentStep? = some step := by
  have first : min 1 playback.length ≤ playback.position := inRange.first_le
  have last : playback.position ≤ playback.response.trace.length := inRange.le_length
  cases position : playback.position with
  | zero =>
      rw [position] at first
      exact .inl ⟨rfl, by omega, by rw [currentStep?, position]⟩
  | succ shown =>
      rw [position] at last
      have found := List.getElem?_eq_getElem (Nat.lt_of_succ_le last)
      exact .inr ⟨_, Nat.succ_pos shown, found, by rw [currentStep?, position]; exact found⟩

end Playback

namespace Session

/-! ## Transitions of a session -/

/-- What can be done to a session. -/
inductive Transition where
  | load (response : RunResponse) (words : List String) (offsets : Option OffsetMap)
    (jumpToEnd : Bool)
  | stepForward
  | stepBackward
  | sourceChanged (words : List String)

namespace Transition

def apply : Transition → Session → Session
  | .load response words offsets jumpToEnd, _ => Session.load response words offsets jumpToEnd
  | .stepForward, session => session.stepForward
  | .stepBackward, session => session.stepBackward
  | .sourceChanged words, session => session.onSourceChanged words

/-- Whether a transition goes on with the trace of a source that has the given
words. -/
def Continues (words : List String) : Transition → Prop
  | .load _ _ _ _ => False
  | .stepForward | .stepBackward => True
  | .sourceChanged others => others = words

end Transition

/-- The session after several transitions, the first one first. -/
def afterTransitions (transitions : List Transition) (session : Session) : Session :=
  transitions.foldl (fun current transition => transition.apply current) session

theorem afterTransitions_concat (transitions : List Transition) (transition : Transition)
    (session : Session) :
    afterTransitions (transitions ++ [transition]) session =
      transition.apply (afterTransitions transitions session) := by
  rw [afterTransitions, List.foldl_append]
  rfl

/-- Whether a trace, if one is loaded, is at a position that it is played back
at. -/
def InRange : Session → Prop
  | .idle => True
  | .loaded playback => playback.InRange

theorem inRange_load (response : RunResponse) (words : List String) (offsets : Option OffsetMap)
    (jumpToEnd : Bool) : (load response words offsets jumpToEnd).InRange := by
  cases jumpToEnd with
  | false => exact ⟨Nat.le_refl _, Nat.min_le_right _ _⟩
  | true => exact ⟨Nat.min_le_right _ _, Nat.le_refl _⟩

theorem Transition.inRange {session : Session} (transition : Transition)
    (inRange : session.InRange) : (transition.apply session).InRange := by
  cases transition with
  | load response words offsets jumpToEnd => exact inRange_load response words offsets jumpToEnd
  | stepForward =>
      cases session with
      | idle => trivial
      | loaded playback => exact playback.inRange_forward inRange
  | stepBackward =>
      cases session with
      | idle => trivial
      | loaded playback => exact playback.inRange_backward inRange
  | sourceChanged words =>
      cases session with
      | idle => trivial
      | loaded playback =>
          rw [apply, onSourceChanged]
          split
          · exact inRange
          · trivial

theorem inRange_afterTransitions {session : Session} (transitions : List Transition)
    (inRange : session.InRange) : (afterTransitions transitions session).InRange := by
  induction transitions generalizing session with
  | nil => exact inRange
  | cons transition transitions induction => exact induction (transition.inRange inRange)

/-- A transition leaves a trace only if it loads it or goes on with it. -/
theorem Transition.loaded_cases {transition : Transition} {session : Session}
    {playback : Playback} (loaded : transition.apply session = .loaded playback) :
    (∃ jumpToEnd, transition =
      .load playback.response playback.words playback.offsets jumpToEnd) ∨
    (transition.Continues playback.words ∧
      ∃ position, session = .loaded { playback with position }) := by
  cases transition with
  | load response words offsets jumpToEnd =>
      cases loaded
      exact .inl ⟨jumpToEnd, rfl⟩
  | stepForward =>
      cases session with
      | idle => cases loaded
      | loaded before =>
          cases loaded
          exact .inr ⟨trivial, before.position, rfl⟩
  | stepBackward =>
      cases session with
      | idle => cases loaded
      | loaded before =>
          cases loaded
          exact .inr ⟨trivial, before.position, rfl⟩
  | sourceChanged words =>
      cases session with
      | idle => cases loaded
      | loaded before =>
          rw [apply, onSourceChanged] at loaded
          split at loaded
          · next same =>
              cases loaded
              exact .inr ⟨same, playback.position, rfl⟩
          · cases loaded

/-- A loaded trace is the one that was loaded last, and the source has kept its
words since. -/
theorem exists_load {transitions : List Transition} {playback : Playback}
    (loaded : afterTransitions transitions .idle = .loaded playback) :
    ∃ earlier jumpToEnd later,
      transitions =
        earlier ++ .load playback.response playback.words playback.offsets jumpToEnd :: later ∧
      ∀ transition ∈ later, transition.Continues playback.words := by
  induction transitions using List.reverseRecOn generalizing playback with
  | nil => cases loaded
  | append_singleton transitions transition induction =>
      rw [afterTransitions_concat] at loaded
      rcases transition.loaded_cases loaded with ⟨jumpToEnd, rfl⟩ | ⟨continues, position, before⟩
      · exact ⟨transitions, jumpToEnd, [], rfl, by simp⟩
      · rcases induction before with ⟨earlier, jumpToEnd, later, rfl, kept⟩
        refine ⟨earlier, jumpToEnd, later ++ [transition], by simp, ?_⟩
        rw [List.forall_mem_append, List.forall_mem_singleton]
        exact ⟨kept, continues⟩

/-! ## What a session does and shows -/

theorem iterate_stepForward (playback : Playback) (steps : Nat) :
    stepForward^[steps] (.loaded playback) = .loaded (Playback.forward^[steps] playback) := by
  induction steps generalizing playback with
  | zero => rfl
  | succ steps induction => exact induction playback.forward

theorem iterate_stepBackward (playback : Playback) (steps : Nat) :
    stepBackward^[steps] (.loaded playback) = .loaded (Playback.backward^[steps] playback) := by
  induction steps generalizing playback with
  | zero => rfl
  | succ steps induction => exact induction playback.backward

theorem phase_view (session : Session) : session.view.phase = session.phase := by
  cases session with
  | idle => rfl
  | loaded playback =>
      rw [view]
      cases playback.currentStep? with
      | none => rfl
      | some step => rfl

/-- Whether a view shows a step at the position that a trace is at. -/
structure View.Shows (view : View) (playback : Playback) (step : TraceStep) : Prop where
  position_eq : view.position = playback.position
  phase_eq : view.phase = playback.phase
  reached_eq : view.reached = playback.reachedOutcome
  programCounter_eq : view.programCounter = some step.programCounter
  stackText_eq : view.stackText = ScriptWorkbench.stackText step.stack
  altStackText_eq : view.altStackText = ScriptWorkbench.stackText step.altStack

/-- Whether the view of a loaded trace is that of the last step reached. It may
be empty at position 0 alone, and then it tells the outcome. -/
def ViewsPosition (playback : Playback) : Prop :=
  (playback.position = 0 ∧ (loaded playback).view =
    { phase := .terminal, reached := some playback.response.outcome }) ∨
  ∃ step, 0 < playback.position ∧
    playback.response.trace[playback.position - 1]? = some step ∧
    (loaded playback).view.Shows playback step

theorem viewsPosition_of_inRange {playback : Playback} (inRange : playback.InRange) :
    ViewsPosition playback := by
  rcases inRange.currentStep_cases with ⟨start, empty, nothing⟩ | ⟨step, later, found, current⟩
  · refine .inl ⟨start, ?_⟩
    have atEnd : playback.position = playback.length := by rw [start, empty]
    rw [view, nothing]
    change ({ phase := playback.phase, reached := playback.reachedOutcome } : View) = _
    rw [inRange.phase_eq, inRange.reachedOutcome_eq, if_pos atEnd, if_pos atEnd]
  · refine .inr ⟨step, later, found, ?_⟩
    rw [view, current]
    exact ⟨rfl, rfl, rfl, rfl, rfl, rfl⟩

/-- What a loaded trace shows, and where steps lead from it. -/
structure PlaysBack (playback : Playback) : Prop where
  first_le : min 1 playback.length ≤ playback.position
  le_length : playback.position ≤ playback.length
  phase_eq : (loaded playback).phase =
    if playback.position = playback.length then .terminal else .active
  reachedOutcome_eq : (loaded playback).reachedOutcome =
    if playback.position = playback.length then some playback.response.outcome else none
  viewsPosition : ViewsPosition playback
  iterate_stepForward : ∀ steps, stepForward^[steps] (loaded playback) =
    .loaded { playback with position := min (playback.position + steps) playback.length }
  iterate_stepBackward : ∀ steps, stepBackward^[steps] (loaded playback) =
    .loaded
      { playback with position := max (playback.position - steps) (min 1 playback.length) }
  backward_forward : (loaded playback).phase = .active →
    (loaded playback).stepForward.stepBackward = .loaded playback
  forward_backward : 1 < playback.position →
    (loaded playback).stepBackward.stepForward = .loaded playback

theorem playsBack_of_inRange {playback : Playback} (inRange : playback.InRange) :
    PlaysBack playback where
  first_le := inRange.first_le
  le_length := inRange.le_length
  phase_eq := inRange.phase_eq
  reachedOutcome_eq := inRange.reachedOutcome_eq
  viewsPosition := viewsPosition_of_inRange inRange
  iterate_stepForward steps := by
    rw [Session.iterate_stepForward, inRange.iterate_forward]
  iterate_stepBackward steps := by
    rw [Session.iterate_stepBackward, inRange.iterate_backward]
    rfl
  backward_forward active := congrArg loaded (inRange.backward_forward active)
  forward_backward later := congrArg loaded (inRange.forward_backward later)

/-- After any transitions, a session is idle or plays back the trace that it
loaded last, inside the trace and for a source that has kept its words. -/
theorem plays_back_in_range (transitions : List Transition) :
    (afterTransitions transitions .idle = .idle ∧
      (afterTransitions transitions .idle).hasTrace = false) ∨
    ∃ playback, afterTransitions transitions .idle = .loaded playback ∧
      PlaysBack playback ∧
      ∃ earlier jumpToEnd later,
        transitions =
          earlier ++ .load playback.response playback.words playback.offsets jumpToEnd :: later ∧
        ∀ transition ∈ later, transition.Continues playback.words := by
  have inRange : (afterTransitions transitions .idle).InRange :=
    inRange_afterTransitions transitions trivial
  cases reached : afterTransitions transitions .idle with
  | idle => exact .inl ⟨rfl, rfl⟩
  | loaded playback =>
      rw [reached] at inRange
      exact .inr ⟨playback, rfl, playsBack_of_inRange inRange, exists_load reached⟩

/-- A failed run of two steps, from its end back past its first step. -/
theorem plays_back_in_range_of_two_steps :
    let response : RunResponse := {
      outcome := .failure "OP_RETURN"
      trace := [{ programCounter := 0 }, { programCounter := 1, stack := ["01"] }] }
    let words := ["1", "OP_RETURN"]
    let session := afterTransitions
      [.load response words none true, .stepBackward, .stepBackward, .sourceChanged words] .idle
    let first : Playback := { response, position := 1, words, offsets := none }
    let last : Playback := { response, position := 2, words, offsets := none }
    session = .loaded first ∧ session.view.programCounter = some 0 ∧
      stepForward^[7] session = .loaded last ∧ session.stepForward.stepBackward = session ∧
      (loaded last).view.stackText = "01" ∧ (loaded last).reachedOutcome = response.outcome := by
  intro response words session first last
  have reached : session = .loaded first := by rfl
  rcases plays_back_in_range
      [.load response words none true, .stepBackward, .stepBackward, .sourceChanged words] with
    ⟨idle, _⟩ | ⟨playback, again, plays, _⟩
  · cases reached.symm.trans idle
  · cases reached.symm.trans again
    refine ⟨reached, by rfl, ?_, ?_, by rfl, by rfl⟩
    · rw [reached, plays.iterate_stepForward]
      rfl
    · rw [reached, plays.backward_forward (by rfl)]

end Session

end ScriptWorkbench
