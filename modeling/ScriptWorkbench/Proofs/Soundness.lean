import ScriptWorkbench.Proofs.Operations
import ScriptWorkbench.Proofs.Refreshing

/-!
# Sound workspaces

What holds of every reachable workspace: without an error it shows a sound
program, a loaded trace has the words of the source, and the hex editor, while
it is active, has been compiled as it stands.
-/

namespace ScriptWorkbench

namespace Session

/-- A loaded session stays exactly when it has the words of the source. -/
theorem onSourceChanged_eq_self_iff {words : List String} {playback : Playback} :
    (loaded playback).onSourceChanged words = loaded playback ↔ words = playback.words := by
  rw [onSourceChanged]
  by_cases same : words = playback.words
  · rw [if_pos same]
    exact ⟨fun _ => same, fun _ => rfl⟩
  · rw [if_neg same]
    exact ⟨Session.noConfusion, fun equal => absurd equal same⟩

theorem onSourceChanged_stepForward {words : List String} {session : Session}
    (fits : session.onSourceChanged words = session) :
    session.stepForward.onSourceChanged words = session.stepForward := by
  cases session with
  | idle => rfl
  | loaded playback =>
      rw [onSourceChanged_eq_self_iff] at fits
      exact onSourceChanged_eq_self_iff.mpr fits

theorem onSourceChanged_stepBackward {words : List String} {session : Session}
    (fits : session.onSourceChanged words = session) :
    session.stepBackward.onSourceChanged words = session.stepBackward := by
  cases session with
  | idle => rfl
  | loaded playback =>
      rw [onSourceChanged_eq_self_iff] at fits
      exact onSourceChanged_eq_self_iff.mpr fits

end Session

namespace Workspace

structure Sound (workspace : Workspace) : Prop where
  program : workspace.fault = none → ∃ program : Program, program.IsSound ∧ workspace.Shows program
  session : workspace.SessionFits
  hexEditor : workspace.activeEditor = .hex → workspace.Holds workspace.program

theorem sound_refresh (workspace : Workspace) : workspace.refresh.Sound where
  program noFault := by
    cases compiled : workspace.program with
    | ok program =>
        rw [refresh_of_ok compiled]
        exact ⟨program, isSound_of_program compiled, ⟨rfl, rfl, rfl, rfl⟩⟩
    | error error =>
        rw [refresh_of_error compiled] at noFault
        cases noFault
  session := (coherent_iff.mp (coherent_refresh workspace)).2
  hexEditor _ := (coherent_iff.mp (coherent_refresh workspace)).1

theorem Change.sound {before after : Workspace} (change : Change before after)
    (sound : before.Sound) : after.Sound := by
  cases change with
  | recompile => exact sound_refresh _
  | mark | await | fail => exact ⟨sound.program, sound.session, sound.hexEditor⟩
  | complete =>
      refine ⟨sound.program, ?_, fun isHex => by cases isHex⟩
      rw [SessionFits, Session.onSourceChanged_onSourceChanged]
  | forward =>
      exact ⟨sound.program, Session.onSourceChanged_stepForward sound.session, sound.hexEditor⟩
  | backward =>
      exact ⟨sound.program, Session.onSourceChanged_stepBackward sound.session, sound.hexEditor⟩

theorem Reachable.sound {workspace : Workspace} (reachable : Reachable workspace) :
    workspace.Sound :=
  reachable.invariant (fun _ _ _ => sound_refresh _) Change.sound

end Workspace

end ScriptWorkbench
