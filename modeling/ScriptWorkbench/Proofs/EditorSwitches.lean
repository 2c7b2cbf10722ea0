import ScriptWorkbench.Proofs.AllOrNothing
import ScriptWorkbench.Proofs.OneProgram

/-!
# Switching editors

A workspace that has just been compiled keeps what it shows when the other
editor becomes active. The hex editor keeps the source, since it assembles to
the shown bytes or is their canonical text. The source editor writes the hex
anew with minimal pushes, and only the bytes can change by that, not the words.
-/

namespace ScriptWorkbench

/-! ## Programs of shown texts -/

namespace Program

variable {program : Program}

/-- The source of a sound program compiles to a program that differs at most in
the bytes and what is written out of them. -/
theorem IsSound.exists_ofSource_self (sound : program.IsSound) :
    ∃ compiled, ofSource program.source = .ok compiled ∧ compiled.source = program.source ∧
      compiled.exports.list = program.exports.list ∧ compiled.offsets = program.offsets ∧
      canonicalTokens compiled.bytes = canonicalTokens program.bytes := by
  rcases sound.exists_assemble with ⟨codes, _, assembled, _⟩
  have sameWords := sound.canonicalTokens_eq assembled
  rcases Exports.exists_disassemble sound.exports with ⟨instructions, disassembled⟩
  have readable : ∃ others, disassemble codes.flatten = .ok others := by
    have words : canonicalTokens codes.flatten = .ok (instructions.map Instruction.token) := by
      rw [sameWords, canonicalTokens, disassembled]
      rfl
    rcases map_eq_ok_iff.mp words with ⟨others, found, _⟩
    exact ⟨others, found⟩
  rcases readable with ⟨others, readable⟩
  rcases Program.exists_ofSource assembled readable with ⟨compiled, compiles, bytes⟩
  rcases ofSource_eq_ok_iff.mp compiles with ⟨source, _, rendered, built⟩
  refine ⟨compiled, compiles, source, ?_, ?_, by rw [bytes, sameWords]⟩
  · have listed := (Exports.ofBytes_eq_ok_iff.mp rendered).1
    rw [bytes, listExport, sameWords] at listed
    have own := (Exports.ofBytes_eq_ok_iff.mp sound.exports).1
    rw [listExport, listed, Except.ok.injEq] at own
    exact own
  · rw [sound.offsets, Except.ok.injEq] at built
    exact built.symm

end Program

namespace Workspace

variable {workspace : Workspace} {program : Program}

/-! ## Workspaces at rest -/

/-- Whether a workspace holds all that compiling a program leaves, and nothing
else. -/
structure RestsOn (workspace : Workspace) (program : Program) : Prop where
  sound : program.IsSound
  shows : workspace.Shows program
  noFault : workspace.fault = none
  info : workspace.info = Hex.byteCountNote program.hex
  session : workspace.SessionFits

theorem restsOn_refresh (compiled : workspace.program = .ok program) :
    workspace.refresh.RestsOn program where
  sound := isSound_of_program compiled
  shows := by
    rw [refresh_of_ok compiled]
    exact ⟨rfl, rfl, rfl, rfl⟩
  noFault := by rw [refresh_of_ok compiled]
  info := by rw [refresh_of_ok compiled]
  session := (coherent_iff.mp (coherent_refresh workspace)).2

theorem exists_restsOn_refresh (noError : workspace.refresh.errorText = "") :
    ∃ program, workspace.refresh.RestsOn program := by
  have noFault := errorText_eq_empty_iff.mp noError
  cases compiled : workspace.program with
  | ok program => exact ⟨program, restsOn_refresh compiled⟩
  | error error =>
      rw [refresh_of_error compiled] at noFault
      cases noFault

/-- Hex text that stands for the shown bytes leaves all that is shown. -/
theorem RestsOn.editHex (rests : workspace.RestsOn program) {text : String}
    (parsed : Hex.parse text = .ok program.bytes) :
    workspace.editHex text = { workspace with activeEditor := .hex } := by
  rcases rests.shows with ⟨source, hex, exports, offsets⟩
  have sound := rests.sound
  have info := rests.info
  have fits := rests.session
  rw [SessionFits] at fits
  rw [← hex] at info
  have compiled : Program.ofHex workspace.source text = .ok program := by
    rw [source]
    exact Program.ofHex_eq_ok_iff.mpr
      ⟨parsed, Program.sourceFor_of_matches sound.source, sound.exports, sound.offsets⟩
  have editor : { workspace with hex := text, activeEditor := .hex }.program = .ok program :=
    compiled
  rw [Workspace.editHex, refresh_of_ok editor]
  simp only [← source, ← hex, ← exports, ← offsets, ← info, ← rests.noFault, fits]

theorem RestsOn.switchEditor_hex (rests : workspace.RestsOn program) :
    workspace.switchEditor .hex = { workspace with activeEditor := .hex } := by
  have parsed : Hex.parse workspace.hex = .ok program.bytes := by
    rw [rests.shows.2.1]
    exact Hex.parse_encode program.bytes
  exact rests.editHex parsed

/-- The source editor keeps what the words decide, and writes anew what is written
out of the bytes. -/
theorem RestsOn.switchEditor_source (rests : workspace.RestsOn program) :
    ∃ compiled : Program,
      assemble workspace.source = .ok compiled.bytes ∧
      canonicalTokens compiled.bytes = canonicalTokens program.bytes ∧
      workspace.switchEditor .source =
        { workspace with
          hex := compiled.hex
          exports := {
            workspace.exports with initializer := initializerExport compiled.bytes }
          info := Hex.byteCountNote compiled.hex
          activeEditor := .source } ∧
      (workspace.switchEditor .source).RestsOn compiled := by
  rcases rests.shows with ⟨source, hex, exports, offsets⟩
  have fits := rests.session
  rw [SessionFits] at fits
  rcases rests.sound.exists_ofSource_self with
    ⟨compiled, compiles, sameSource, sameList, sameOffsets, sameWords⟩
  rw [← source] at compiles sameSource
  rw [← exports] at sameList
  rw [← offsets] at sameOffsets
  have editor : { workspace with activeEditor := .source }.program = .ok compiled := compiles
  rcases Program.ofSource_eq_ok_iff.mp compiles with ⟨_, assembled, rendered, _⟩
  have initializer := (Exports.ofBytes_eq_ok_iff.mp rendered).2
  refine ⟨compiled, assembled, sameWords, ?_, restsOn_refresh editor⟩
  have written : compiled.exports = { workspace.exports with
      initializer := initializerExport compiled.bytes } := by
    simp only [← sameList, ← initializer]
  rw [switchEditor, refresh_of_ok editor]
  simp only [sameSource, sameOffsets, written, ← rests.noFault, fits]

/-- Without an error, a compiled workspace loses nothing when the other editor
becomes active, whichever is active now. Only the active editor changes when it
becomes that of the hex text, also by an edit that spells the same hex in another
way. When it becomes that of the source, the hex text is written with minimal
pushes; the list notation and all else but the hex, the initializer notation and
the byte count stay. -/
theorem switching_editors_loses_nothing (workspace : Workspace)
    (noError : workspace.refresh.errorText = "") :
    let shown := workspace.refresh
    let switched := shown.switchEditor .source
    shown.switchEditor .hex = { shown with activeEditor := .hex } ∧
    (∀ text : String, Hex.Respells text.toList shown.hex.toList →
      shown.editHex text = { shown with activeEditor := .hex }) ∧
    ∃ bytes assembled,
      Hex.parse shown.hex = .ok bytes ∧ assemble shown.source = .ok assembled ∧
      switched =
        { shown with
          hex := Hex.encode assembled
          exports := { shown.exports with initializer := initializerExport assembled }
          info := Hex.byteCountNote (Hex.encode assembled)
          activeEditor := .source } ∧
      switched.errorText = "" ∧ assembleToHex shown.source = .ok switched.hex ∧
      canonicalTokens assembled = canonicalTokens bytes ∧
      switched.switchEditor .hex = { switched with activeEditor := .hex } := by
  intro shown switched
  rcases exists_restsOn_refresh noError with ⟨program, rests⟩
  have hex : shown.hex = Hex.encode program.bytes := rests.shows.2.1
  rcases rests.switchEditor_source with ⟨compiled, assembled, sameWords, result, restsNow⟩
  refine ⟨rests.switchEditor_hex, ?_, program.bytes, compiled.bytes, ?_, assembled, result,
    errorText_eq_empty_iff.mpr restsNow.noFault, ?_, sameWords, restsNow.switchEditor_hex⟩
  · intro text respells
    rw [hex] at respells
    exact rests.editHex (Hex.parse_of_respells respells)
  · rw [hex, Hex.parse_encode]
  · rw [assembleToHex, assembled, restsNow.shows.2.1]
    rfl

/-- A push with a length field that it does not need is shown from the hex editor,
and then spelled in another way. -/
theorem switching_editors_loses_nothing_of_wide_push :
    let workspace := { create "" "" .source with hex := "4C 01 0a", activeEditor := .hex }
    workspace.refresh.errorText = "" ∧ workspace.refresh.source = "<0a>" ∧
      workspace.refresh.hex = "4c010a" ∧
      workspace.refresh.editHex "4C01 0A" = { workspace.refresh with activeEditor := .hex } ∧
      (workspace.refresh.switchEditor .source).hex = "010a" ∧
      (workspace.refresh.switchEditor .source).source = "<0a>" ∧
      (workspace.refresh.switchEditor .source).exports.list = "[0x0a]" := by
  intro workspace
  have noError : workspace.refresh.errorText = "" := by decide +revert
  have source : workspace.refresh.source = "<0a>" := by decide +revert
  have hex : workspace.refresh.hex = "4c010a" := by decide +revert
  have list : workspace.refresh.exports.list = "[0x0a]" := by decide +revert
  have respells : Hex.Respells "4C01 0A".toList workspace.refresh.hex.toList := by
    rw [hex]
    exact .same '4' (.upper 'c' (.same '0' (.same '1' (.blank rfl (.same '0' (.upper 'a' .nil))))))
  rcases switching_editors_loses_nothing workspace noError with
    ⟨_, respelled, bytes, assembled, _, accepted, switched, _⟩
  have code : assemble workspace.refresh.source = .ok [0x01, 0x0A] := by
    rw [source]
    rfl
  rw [code, Except.ok.injEq] at accepted
  subst accepted
  refine ⟨noError, source, hex, respelled _ respells, ?_, ?_, ?_⟩
  · rw [switched]
    rfl
  · rw [switched, source]
  · rw [switched, list]

end Workspace

end ScriptWorkbench
