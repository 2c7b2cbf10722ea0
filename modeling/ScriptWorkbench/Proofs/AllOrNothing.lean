import Mathlib.Logic.Function.Iterate
import ScriptWorkbench.Proofs.Refreshing

/-!
# All or nothing

A refresh fails exactly if the text of the active editor is bad: if it gives no
bytecode, or bytecode that does not disassemble. The other editor has no say,
since script text that is written anew always assembles. A refresh that fails
leaves the program that was shown before, and a refresh that is repeated changes
nothing.
-/

namespace ScriptWorkbench

/-! ## What follows from bytecode -/

theorem Exports.ofBytes_eq_error_iff {bytes : Bytes} {error : CodecError} :
    Exports.ofBytes bytes = .error error ↔ disassemble bytes = .error error := by
  rw [Exports.ofBytes, map_eq_error_iff, listExport, map_eq_error_iff, canonicalTokens,
    map_eq_error_iff]

theorem Exports.exists_ofBytes {bytes : Bytes} {instructions : List Instruction}
    (disassembled : disassemble bytes = .ok instructions) :
    ∃ exports, Exports.ofBytes bytes = .ok exports := by
  cases rendered : Exports.ofBytes bytes with
  | ok exports => exact ⟨exports, rfl⟩
  | error error =>
      rw [Exports.ofBytes_eq_error_iff, disassembled] at rendered
      cases rendered

namespace Program

variable {bytes : Bytes} {instructions : List Instruction} {error : CodecError}

/-- A text beside bytecode that disassembles can be mapped. -/
theorem Matches.exists_ofSource {source : String} (matching : Matches source bytes)
    (disassembled : disassemble bytes = .ok instructions) :
    ∃ offsets, OffsetMap.ofSource Token.sourceName source = .ok offsets := by
  cases matching with
  | inl assembled => exact OffsetMap.exists_ofSource_of_assembleWith assembled
  | inr canonical =>
      exact OffsetMap.exists_ofSource_of_assembleWith
        (assemble_of_canonicalSource canonical disassembled)

/-- The current text is kept, or the canonical one is written. -/
theorem sourceFor_cases (current : String) (bytes : Bytes) :
    sourceFor current bytes = .ok current ∨ sourceFor current bytes = canonicalSource bytes := by
  unfold sourceFor
  split
  · split
    · exact .inl rfl
    · exact .inr rfl
  · exact .inr rfl

/-- There is a text to show for bytecode that disassembles. -/
theorem exists_sourceFor (current : String)
    (disassembled : disassemble bytes = .ok instructions) :
    ∃ source, sourceFor current bytes = .ok source := by
  rcases sourceFor_cases current bytes with kept | canonical
  · exact ⟨current, kept⟩
  · exact ⟨_, canonical.trans (canonicalSource_eq_ok_iff.mpr ⟨instructions, disassembled, rfl⟩)⟩

theorem exists_ofSource {source : String} (assembled : assemble source = .ok bytes)
    (disassembled : disassemble bytes = .ok instructions) :
    ∃ program, ofSource source = .ok program ∧ program.bytes = bytes := by
  rcases Exports.exists_ofBytes disassembled with ⟨exports, rendered⟩
  rcases OffsetMap.exists_ofSource_of_assembleWith assembled with ⟨offsets, built⟩
  exact ⟨{ source, bytes, exports, offsets },
    ofSource_eq_ok_iff.mpr ⟨rfl, assembled, rendered, built⟩, rfl⟩

theorem exists_ofHex {text : String} (current : String) (parsed : Hex.parse text = .ok bytes)
    (disassembled : disassemble bytes = .ok instructions) :
    ∃ program, ofHex current text = .ok program ∧ program.bytes = bytes := by
  rcases exists_sourceFor current disassembled with ⟨source, shown⟩
  rcases Exports.exists_ofBytes disassembled with ⟨exports, rendered⟩
  rcases (matches_of_sourceFor shown).exists_ofSource disassembled with ⟨offsets, built⟩
  exact ⟨{ source, bytes, exports, offsets },
    ofHex_eq_ok_iff.mpr ⟨parsed, shown, rendered, built⟩, rfl⟩

theorem ofSource_of_disassemble_error {source : String} (assembled : assemble source = .ok bytes)
    (failed : disassemble bytes = .error error) : ofSource source = .error error := by
  rw [ofSource, bind_eq_error_iff]
  refine .inr ⟨bytes, assembled, ?_⟩
  rw [bind_eq_error_iff]
  exact .inl (Exports.ofBytes_eq_error_iff.mpr failed)

/-- Whether the current text is kept or would be written anew, the error is that
of the bytecode. -/
theorem ofHex_of_disassemble_error {text : String} (current : String)
    (parsed : Hex.parse text = .ok bytes) (failed : disassemble bytes = .error error) :
    ofHex current text = .error error := by
  rw [ofHex, bind_eq_error_iff]
  refine .inr ⟨bytes, parsed, ?_⟩
  rw [bind_eq_error_iff]
  rcases sourceFor_cases current bytes with kept | canonical
  · refine .inr ⟨current, kept, ?_⟩
    rw [bind_eq_error_iff]
    exact .inl (Exports.ofBytes_eq_error_iff.mpr failed)
  · exact .inl (canonical.trans (canonicalSource_eq_error_iff.mpr failed))

end Program

namespace Workspace

variable {workspace : Workspace} {bytes : Bytes} {error : CodecError}

/-! ## The text of the active editor -/

/-- The bytecode that the active editor's text stands for. -/
def activeBytes (workspace : Workspace) : Except CodecError Bytes :=
  match workspace.activeEditor with
  | .source => assemble workspace.source
  | .hex => Hex.parse workspace.hex

/-- Whether the active editor's text gives bytecode that disassembles. -/
def Compiles (workspace : Workspace) : Prop :=
  ∃ bytes instructions, workspace.activeBytes = .ok bytes ∧ disassemble bytes = .ok instructions

/-- Whether an error is the first one between the active editor's text and its
instructions. -/
def FailsWith (workspace : Workspace) (error : CodecError) : Prop :=
  workspace.activeBytes = .error error ∨
    ∃ bytes, workspace.activeBytes = .ok bytes ∧ disassemble bytes = .error error

theorem Compiles.exists_program (compiles : workspace.Compiles) :
    ∃ program, workspace.program = .ok program ∧ workspace.activeBytes = .ok program.bytes := by
  rcases compiles with ⟨bytes, instructions, given, disassembled⟩
  unfold activeBytes at given
  unfold Workspace.program activeBytes
  cases editor : workspace.activeEditor with
  | source =>
      rw [editor] at given
      rcases Program.exists_ofSource given disassembled with ⟨program, compiled, rfl⟩
      exact ⟨program, compiled, given⟩
  | hex =>
      rw [editor] at given
      rcases Program.exists_ofHex workspace.source given disassembled with
        ⟨program, compiled, rfl⟩
      exact ⟨program, compiled, given⟩

theorem FailsWith.program_eq (fails : workspace.FailsWith error) :
    workspace.program = .error error := by
  unfold FailsWith activeBytes at fails
  unfold Workspace.program
  cases editor : workspace.activeEditor with
  | source =>
      rw [editor] at fails
      rcases fails with noBytes | ⟨bytes, assembled, failed⟩
      · exact bind_eq_error_iff.mpr (.inl noBytes)
      · exact Program.ofSource_of_disassemble_error assembled failed
  | hex =>
      rw [editor] at fails
      rcases fails with noBytes | ⟨bytes, parsed, failed⟩
      · exact bind_eq_error_iff.mpr (.inl noBytes)
      · exact Program.ofHex_of_disassemble_error workspace.source parsed failed

theorem compiles_or_exists_failsWith (workspace : Workspace) :
    workspace.Compiles ∨ ∃ error, workspace.FailsWith error := by
  cases given : workspace.activeBytes with
  | error error => exact .inr ⟨error, .inl given⟩
  | ok bytes =>
      cases disassembled : disassemble bytes with
      | error error => exact .inr ⟨error, .inr ⟨bytes, given, disassembled⟩⟩
      | ok instructions => exact .inl ⟨bytes, instructions, given, disassembled⟩

theorem FailsWith.not_compiles (fails : workspace.FailsWith error) : ¬workspace.Compiles := by
  intro compiles
  rcases compiles.exists_program with ⟨program, compiled, _⟩
  rw [fails.program_eq] at compiled
  cases compiled

theorem Compiles.fault_refresh (compiles : workspace.Compiles) :
    workspace.refresh.fault = none := by
  rcases compiles.exists_program with ⟨program, compiled, _⟩
  rw [refresh_of_ok compiled]

theorem FailsWith.fault_refresh (fails : workspace.FailsWith error) :
    workspace.refresh.fault = some error := by
  rw [refresh_of_error fails.program_eq]

/-- What is left of the session when the source has other words than the loaded
trace, or the same. -/
theorem session_refresh_of_failsWith (fails : workspace.FailsWith error) :
    (workspace.session = .idle → workspace.refresh.session = .idle) ∧
      ∀ playback, workspace.session = .loaded playback → workspace.refresh.session =
        if playback.words = Text.splitWords workspace.source then .loaded playback else .idle := by
  rw [refresh_of_error fails.program_eq]
  constructor
  · intro idle
    simp only [idle, Session.onSourceChanged]
  · intro playback loaded
    simp only [loaded, Session.onSourceChanged, eq_comm]

/-- A refresh ends without an error exactly if the active editor's text
compiles, and then shows one program of its bytecode. Otherwise it shows the
first error of the text, and nothing else changes but the status line, which is
empty, and the session, which ends if the source has other words than its
trace. -/
theorem refresh_all_or_nothing (workspace : Workspace) :
    (workspace.refresh.errorText = "" ↔ workspace.Compiles) ∧
    (workspace.refresh.errorText = "" → ∃ program, workspace.program = .ok program ∧
      workspace.activeBytes = .ok program.bytes ∧ program.IsSound ∧
      workspace.refresh =
        { workspace with
          source := program.source
          hex := program.hex
          exports := program.exports
          offsets := program.offsets
          fault := none
          info := Hex.byteCountNote program.hex
          session := workspace.refresh.session }) ∧
    (workspace.refresh.errorText ≠ "" → ∃ error, workspace.FailsWith error ∧
      workspace.refresh.errorText = error.text ∧ error.text ≠ "" ∧
      workspace.refresh =
        { workspace with fault := some error, info := "", session := workspace.refresh.session } ∧
      (workspace.session = .idle → workspace.refresh.session = .idle) ∧
      ∀ playback, workspace.session = .loaded playback → workspace.refresh.session =
        if playback.words = Text.splitWords workspace.source then .loaded playback
        else .idle) := by
  rcases compiles_or_exists_failsWith workspace with compiles | ⟨error, fails⟩
  · rcases compiles.exists_program with ⟨program, compiled, given⟩
    have noError : workspace.refresh.errorText = "" :=
      errorText_eq_empty_iff.mpr compiles.fault_refresh
    refine ⟨⟨fun _ => compiles, fun _ => noError⟩, fun _ => ?_,
      fun failed => absurd noError failed⟩
    refine ⟨program, compiled, given, isSound_of_program compiled, ?_⟩
    rw [refresh_of_ok compiled]
  · have failed : workspace.refresh.errorText = error.text := by
      simp only [errorText, fails.fault_refresh]
    have notEmpty : workspace.refresh.errorText ≠ "" := by
      rw [failed]
      exact error.text_ne_empty
    refine ⟨⟨fun noError => absurd noError notEmpty,
        fun compiles => absurd compiles fails.not_compiles⟩,
      fun noError => absurd noError notEmpty, fun _ => ?_⟩
    refine ⟨error, fails, failed, error.text_ne_empty, ?_, session_refresh_of_failsWith fails⟩
    rw [refresh_of_error fails.program_eq]

/-- A push that is cut short, in the hex editor. What was shown before stays, and
so does a trace with the words of the source. -/
theorem refresh_all_or_nothing_of_truncated_push :
    let playback : Playback := {
      response := { outcome := .success, trace := [{ programCounter := 0 }] }
      position := 1
      words := ["OP_DUP"]
      offsets := none }
    let workspace : Workspace := {
      create "OP_DUP" "" .source with
      hex := "02ff"
      activeEditor := .hex
      session := .loaded playback }
    ¬workspace.Compiles ∧
    workspace.refresh.errorText =
      "<hex>:+0: error: PUSHDATA truncated: declares 2 bytes, 1 available" ∧
    workspace.refresh.source = "OP_DUP" ∧ workspace.refresh.hex = "02ff" ∧
    workspace.refresh.exports = { list := "[OP_DUP]", initializer := "\x7b0x76\x7d" } ∧
    workspace.refresh.session = .loaded playback := by
  intro playback workspace
  have message : workspace.refresh.errorText =
      "<hex>:+0: error: PUSHDATA truncated: declares 2 bytes, 1 available" := by
    decide +revert
  have exported : workspace.exports =
      { list := "[OP_DUP]", initializer := "\x7b0x76\x7d" } := by
    decide +revert
  have sameWords : playback.words = Text.splitWords workspace.source := by decide +revert
  have failed : workspace.refresh.errorText ≠ "" := by
    rw [message]
    decide
  rcases refresh_all_or_nothing workspace with ⟨compiles, _, fails⟩
  rcases fails failed with ⟨error, _, _, _, unchanged, _, kept⟩
  refine ⟨fun bad => failed (compiles.mpr bad), message, ?_, ?_, ?_, ?_⟩
  · rw [unchanged]
    rfl
  · rw [unchanged]
  · rw [unchanged]
    exact exported
  · rw [kept playback rfl, if_pos sameWords]

/-! ## Refreshing again -/

/-- Whether compiling the active editor meets a payload that no push holds. The
source is read for the hex editor too, once the hex text is. -/
def MeetsLongPayload (workspace : Workspace) : Prop :=
  (workspace.activeEditor = .hex → ∃ bytes, Hex.parse workspace.hex = .ok bytes) ∧
    ∃ error length, assemble workspace.source = .error error ∧ error.fault = .pushLength length

theorem not_meetsLongPayload_refresh (short : ¬workspace.MeetsLongPayload) :
    ¬workspace.refresh.MeetsLongPayload := by
  cases compiled : workspace.program with
  | ok program =>
      rcases (isSound_of_program compiled).exists_assemble with ⟨codes, _, assembled, _⟩
      rintro ⟨_, error, length, failed, _⟩
      rw [refresh_of_ok compiled] at failed
      rw [assembled] at failed
      cases failed
  | error error =>
      rw [refresh_of_error compiled]
      exact short

/-- A refresh leaves what any number of further refreshes leaves, whatever the
fields hold, and it brings in no payload that is too long for a push. -/
theorem refresh_again (workspace : Workspace) :
    (∀ times : Nat, refresh^[times + 1] workspace = workspace.refresh) ∧
      (¬workspace.MeetsLongPayload → ¬workspace.refresh.MeetsLongPayload) := by
  refine ⟨fun times => ?_, not_meetsLongPayload_refresh⟩
  induction times with
  | zero => rfl
  | succ times induction =>
      rw [Function.iterate_succ_apply', induction, refresh_refresh]

/-- The hex keeps a push that the regenerated source does not have, so the two
never match. -/
theorem refresh_again_of_wide_push :
    let workspace := { create "OP_DUP" "" .source with hex := "4C 01 07", activeEditor := .hex }
    workspace.refresh.source = "<07>" ∧ workspace.refresh.hex = "4c0107" ∧
      assemble "<07>" = .ok [0x01, 0x07] ∧ refresh^[3] workspace = workspace.refresh ∧
      ¬workspace.refresh.MeetsLongPayload := by
  intro workspace
  have source : workspace.refresh.source = "<07>" := by decide +revert
  have hex : workspace.refresh.hex = "4c0107" := by decide +revert
  have assembled : assemble workspace.source = .ok [0x76] := by decide +revert
  have short : ¬workspace.MeetsLongPayload := by
    rintro ⟨_, error, length, failed, _⟩
    rw [assembled] at failed
    cases failed
  rcases refresh_again workspace with ⟨repeated, keeps⟩
  exact ⟨source, hex, by rfl, repeated 2, keeps short⟩

end Workspace

end ScriptWorkbench
