import ScriptWorkbench.Proofs.Programs
import ScriptWorkbench.Workspace.Basic

/-!
# Refreshing a workspace

What compiling the active editor leaves behind. Compiling again changes
nothing, so a workspace is coherent with its active editor exactly when it
holds what the editor compiles to.
-/

namespace ScriptWorkbench

theorem CodecError.text_ne_empty (error : CodecError) : error.text ≠ "" := by
  have heading : ∃ first others, error.textLines = first :: others ∧ first.toList ≠ [] := by
    refine ⟨_, _, rfl, ?_⟩
    cases error.location <;> simp
  rcases heading with ⟨first, others, lines, notEmpty⟩
  intro empty
  have characters := congrArg String.toList empty
  rw [text, lines, String.toList_intercalate] at characters
  cases others with
  | nil => simp [List.intercalate] at characters notEmpty; exact notEmpty characters
  | cons second others => simp [List.intercalate] at characters

theorem Session.onSourceChanged_onSourceChanged (words : List String) (session : Session) :
    (session.onSourceChanged words).onSourceChanged words = session.onSourceChanged words := by
  cases session with
  | idle => rfl
  | loaded playback =>
      by_cases same : words = playback.words
      · simp only [onSourceChanged, if_pos same]
      · simp only [onSourceChanged, if_neg same]

namespace Workspace

variable {workspace : Workspace} {program : Program} {error : CodecError}

theorem errorText_eq_empty_iff : workspace.errorText = "" ↔ workspace.fault = none := by
  cases fault : workspace.fault with
  | none => simp [errorText, fault]
  | some error => simp [errorText, fault, error.text_ne_empty]

/-! ## What compiling leaves behind -/

/-- Whether the texts, the exports and the offset map are those of a program. -/
def Shows (workspace : Workspace) (program : Program) : Prop :=
  workspace.source = program.source ∧ workspace.hex = program.hex ∧
    workspace.exports = program.exports ∧ workspace.offsets = program.offsets

/-- Whether a loaded trace has the words of the source. -/
def SessionFits (workspace : Workspace) : Prop :=
  workspace.session.onSourceChanged (Text.splitWords workspace.source) = workspace.session

theorem refresh_of_ok (compiled : workspace.program = .ok program) :
    workspace.refresh =
      { workspace with
        source := program.source
        hex := program.hex
        exports := program.exports
        offsets := program.offsets
        fault := none
        info := Hex.byteCountNote program.hex
        session := workspace.session.onSourceChanged (Text.splitWords program.source) } := by
  simp only [refresh, compiled, adopt]

theorem refresh_of_error (failed : workspace.program = .error error) :
    workspace.refresh =
      { workspace with
        fault := some error
        info := ""
        session := workspace.session.onSourceChanged (Text.splitWords workspace.source) } := by
  simp only [refresh, failed, adopt]

theorem isSound_of_program (compiled : workspace.program = .ok program) : program.IsSound := by
  unfold Workspace.program at compiled
  split at compiled
  · exact Program.isSound_of_ofSource compiled
  · exact Program.isSound_of_ofHex compiled

/-- The active editor compiles to the same program when it shows that
program. -/
theorem program_of_shows (compiled : workspace.program = .ok program) {other : Workspace}
    (sameEditor : other.activeEditor = workspace.activeEditor) (shows : other.Shows program) :
    other.program = .ok program := by
  have sound := isSound_of_program compiled
  rcases shows with ⟨source, hex, _⟩
  unfold Workspace.program at compiled ⊢
  rw [sameEditor, source, hex]
  cases editor : workspace.activeEditor with
  | source =>
      rw [editor] at compiled
      rcases Program.ofSource_eq_ok_iff.mp compiled with ⟨ownSource, assembled, _⟩
      rw [← ownSource] at assembled
      exact sound.ofSource_self_iff.mpr assembled
  | hex => exact sound.ofHex_self

theorem program_refresh (workspace : Workspace) :
    workspace.refresh.program = workspace.program := by
  cases compiled : workspace.program with
  | ok program =>
      rw [refresh_of_ok compiled]
      exact program_of_shows compiled rfl ⟨rfl, rfl, rfl, rfl⟩
  | error error =>
      rw [refresh_of_error compiled]
      exact compiled

theorem refresh_refresh (workspace : Workspace) :
    workspace.refresh.refresh = workspace.refresh := by
  have again := program_refresh workspace
  cases compiled : workspace.program with
  | ok program =>
      rw [compiled] at again
      rw [refresh_of_ok again, refresh_of_ok compiled]
      simp only [Session.onSourceChanged_onSourceChanged]
  | error error =>
      rw [compiled] at again
      rw [refresh_of_error again, refresh_of_error compiled]
      simp only [Session.onSourceChanged_onSourceChanged]

/-! ## Coherence with the active editor -/

/-- Whether compiling the active editor would change at most the status line. -/
def Coherent (workspace : Workspace) : Prop :=
  { workspace.refresh with info := workspace.info, fault := workspace.fault } = workspace ∧
    workspace.refresh.errorText = workspace.errorText

/-- Whether a workspace holds an outcome of compiling. -/
def Holds (workspace : Workspace) : Except CodecError Program → Prop
  | .ok program => workspace.fault = none ∧ workspace.Shows program
  | .error error => workspace.errorText = error.text

theorem coherent_iff :
    workspace.Coherent ↔ workspace.Holds workspace.program ∧ workspace.SessionFits := by
  cases compiled : workspace.program with
  | ok program =>
      rw [Coherent, refresh_of_ok compiled]
      constructor
      · rintro ⟨same, sameError⟩
        have source : program.source = workspace.source := congrArg Workspace.source same
        have hex : program.hex = workspace.hex := congrArg Workspace.hex same
        have exports : program.exports = workspace.exports := congrArg Workspace.exports same
        have offsets : program.offsets = workspace.offsets := congrArg Workspace.offsets same
        have session := congrArg Workspace.session same
        refine ⟨⟨errorText_eq_empty_iff.mp sameError.symm,
          ⟨source.symm, hex.symm, exports.symm, offsets.symm⟩⟩, ?_⟩
        rw [SessionFits, ← source]
        exact session
      · rintro ⟨⟨noFault, source, hex, exports, offsets⟩, fits⟩
        rw [SessionFits] at fits
        refine ⟨?_, (errorText_eq_empty_iff.mpr noFault).symm⟩
        simp only [← source, ← hex, ← exports, ← offsets, fits]
  | error error =>
      rw [Coherent, refresh_of_error compiled]
      constructor
      · rintro ⟨same, sameError⟩
        exact ⟨sameError.symm, congrArg Workspace.session same⟩
      · rintro ⟨sameError, fits⟩
        rw [SessionFits] at fits
        refine ⟨?_, sameError.symm⟩
        simp only [fits]

theorem coherent_refresh (workspace : Workspace) : workspace.refresh.Coherent := by
  rw [Coherent, refresh_refresh]
  exact ⟨rfl, rfl⟩

end Workspace

end ScriptWorkbench
