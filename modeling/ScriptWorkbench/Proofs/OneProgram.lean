import ScriptWorkbench.Proofs.Soundness

/-!
# One program in all views

Without an error, both editors, the exports and the offset map of a workspace
belong to one program. The two editors may differ in how pushes are written,
but not in their canonical words.
-/

namespace ScriptWorkbench

theorem Exports.ofBytes_eq_ok_iff {bytes : Bytes} {exports : Exports} :
    Exports.ofBytes bytes = .ok exports ↔
      listExport bytes = .ok exports.list ∧ exports.initializer = initializerExport bytes := by
  rw [Exports.ofBytes, map_eq_ok_iff]
  constructor
  · rintro ⟨list, listed, rfl⟩
    exact ⟨listed, rfl⟩
  · rintro ⟨listed, initializer⟩
    exact ⟨_, listed, by rw [← initializer]⟩

theorem Program.IsSound.canonicalTokens_eq {program : Program} (sound : program.IsSound)
    {assembled : Bytes} (accepted : assemble program.source = .ok assembled) :
    canonicalTokens assembled = canonicalTokens program.bytes := by
  cases sound.source with
  | inl same =>
      rw [accepted, Except.ok.injEq] at same
      rw [same]
  | inr canonical => exact canonicalTokens_of_canonicalSource canonical accepted

namespace Workspace

variable {workspace : Workspace}

/-- Without an error, the hex text of a reachable workspace is that of bytecode
that disassembles, and all else belongs to it: the source assembles to bytecode
with the same canonical words, the exports are those of the bytecode, and the
offset map is that of the source. -/
theorem shows_one_program (reachable : workspace.Reachable)
    (noError : workspace.errorText = "") :
    ∃ bytes instructions assembled,
      workspace.hex = Hex.encode bytes ∧ Hex.parse workspace.hex = .ok bytes ∧
      (∀ character ∈ workspace.hex.toList, character ∈ Hex.lowerDigits) ∧
      disassemble bytes = .ok instructions ∧
      assemble workspace.source = .ok assembled ∧
      canonicalTokens assembled = canonicalTokens bytes ∧
      listExport bytes = .ok workspace.exports.list ∧
      workspace.exports.initializer = initializerExport bytes ∧
      OffsetMap.ofSource Token.sourceName workspace.source = .ok workspace.offsets := by
  have noFault := errorText_eq_empty_iff.mp noError
  rcases reachable.sound.program noFault with ⟨program, sound, source, hex, exports, offsets⟩
  rcases Exports.exists_disassemble sound.exports with ⟨instructions, disassembled⟩
  rcases sound.exists_assemble with ⟨codes, _, assembled, _⟩
  rcases Exports.ofBytes_eq_ok_iff.mp sound.exports with ⟨listed, initializer⟩
  have encoded : workspace.hex = Hex.encode program.bytes := hex
  rw [source, exports, offsets]
  refine ⟨program.bytes, instructions, codes.flatten, encoded, ?_, ?_, disassembled, assembled,
    sound.canonicalTokens_eq assembled, listed, initializer, sound.offsets⟩
  · rw [encoded, Hex.parse_encode]
  · rw [encoded, Hex.toList_encode]
    exact fun character member => Hex.mem_lowerDigits_of_mem_encode member

/-- A push with a length field that it does not need, in the hex editor. -/
theorem shows_one_program_of_wide_push :
    let workspace := afterAll [.editHex "4C 01 07"] (create "" "" .source)
    workspace.Reachable ∧ workspace.errorText = "" ∧ workspace.hex = "4c0107" ∧
      assemble workspace.source = .ok [0x01, 0x07] ∧
      canonicalTokens [0x01, 0x07] = canonicalTokens [0x4C, 0x01, 0x07] ∧
      listExport [0x4C, 0x01, 0x07] = .ok workspace.exports.list := by
  intro workspace
  have source : workspace.source = "<07>" := by decide +revert
  have noError : workspace.errorText = "" := by rfl
  have hex : workspace.hex = "4c0107" := by rfl
  have reachable : workspace.Reachable := (Reachable.create "" "" .source).afterAll _
  rcases shows_one_program reachable noError with
    ⟨bytes, _, assembled, encoded, _, _, _, accepted, sameWords, listed, _⟩
  have ownBytes : Hex.encode [0x4C, 0x01, 0x07] = Hex.encode bytes := by
    rw [← encoded, hex]
    decide
  have ownCode : assemble workspace.source = .ok [0x01, 0x07] := by rw [source]; rfl
  cases Hex.encode_injective ownBytes
  rw [ownCode, Except.ok.injEq] at accepted
  subst accepted
  exact ⟨reachable, noError, hex, ownCode, sameWords, listed⟩

end Workspace

end ScriptWorkbench
