import ScriptWorkbench.Proofs.CanonicalForm
import ScriptWorkbench.Proofs.HexText
import ScriptWorkbench.Proofs.LineCodes
import ScriptWorkbench.Workspace.Program

/-!
# Sound programs

Both editors give programs of one kind: the exports are those of the bytes, the
offset map is that of the script text, and the text assembles to the bytes or
is their canonical text. A program of this kind compiles to itself.
-/

namespace ScriptWorkbench

theorem Exports.exists_disassemble {bytes : Bytes} {exports : Exports}
    (rendered : Exports.ofBytes bytes = .ok exports) :
    ∃ instructions, disassemble bytes = .ok instructions := by
  rcases map_eq_ok_iff.mp rendered with ⟨list, listed, _⟩
  rcases map_eq_ok_iff.mp listed with ⟨words, read, _⟩
  rcases map_eq_ok_iff.mp read with ⟨instructions, disassembled, _⟩
  exact ⟨instructions, disassembled⟩

namespace Program

/-- Whether a script text may stand beside bytecode. -/
def Matches (source : String) (bytes : Bytes) : Prop :=
  assemble source = .ok bytes ∨ canonicalSource bytes = .ok source

structure IsSound (program : Program) : Prop where
  source : Matches program.source program.bytes
  exports : Exports.ofBytes program.bytes = .ok program.exports
  offsets : OffsetMap.ofSource Token.sourceName program.source = .ok program.offsets

theorem ofSource_eq_ok_iff {source : String} {program : Program} :
    ofSource source = .ok program ↔
      program.source = source ∧ assemble source = .ok program.bytes ∧
        Exports.ofBytes program.bytes = .ok program.exports ∧
        OffsetMap.ofSource Token.sourceName source = .ok program.offsets := by
  simp only [ofSource, bind_eq_ok_iff, pure_eq_ok_iff]
  constructor
  · rintro ⟨bytes, assembled, exports, rendered, offsets, built, rfl⟩
    exact ⟨rfl, assembled, rendered, built⟩
  · rintro ⟨rfl, assembled, rendered, built⟩
    exact ⟨_, assembled, _, rendered, _, built, rfl⟩

theorem ofHex_eq_ok_iff {current text : String} {program : Program} :
    ofHex current text = .ok program ↔
      Hex.parse text = .ok program.bytes ∧
        sourceFor current program.bytes = .ok program.source ∧
        Exports.ofBytes program.bytes = .ok program.exports ∧
        OffsetMap.ofSource Token.sourceName program.source = .ok program.offsets := by
  simp only [ofHex, bind_eq_ok_iff, pure_eq_ok_iff]
  constructor
  · rintro ⟨bytes, parsed, source, shown, exports, rendered, offsets, built, rfl⟩
    exact ⟨parsed, shown, rendered, built⟩
  · rintro ⟨parsed, shown, rendered, built⟩
    exact ⟨_, parsed, _, shown, _, rendered, _, built, rfl⟩

theorem matches_of_sourceFor {current source : String} {bytes : Bytes}
    (shown : sourceFor current bytes = .ok source) : Matches source bytes := by
  unfold sourceFor at shown
  split at shown
  · next assembled accepted =>
      split at shown
      · next same =>
          cases shown
          subst same
          exact .inl accepted
      · exact .inr shown
  · exact .inr shown

/-- A text that may stand beside bytecode stays. -/
theorem sourceFor_of_matches {source : String} {bytes : Bytes}
    (matching : Matches source bytes) : sourceFor source bytes = .ok source := by
  cases matching with
  | inl accepted => simp only [sourceFor, accepted, if_true]
  | inr canonical =>
      unfold sourceFor
      split
      · split
        · rfl
        · exact canonical
      · exact canonical

theorem isSound_of_ofSource {source : String} {program : Program}
    (compiled : ofSource source = .ok program) : program.IsSound := by
  rcases ofSource_eq_ok_iff.mp compiled with ⟨rfl, assembled, rendered, built⟩
  exact ⟨.inl assembled, rendered, built⟩

theorem isSound_of_ofHex {current text : String} {program : Program}
    (compiled : ofHex current text = .ok program) : program.IsSound := by
  rcases ofHex_eq_ok_iff.mp compiled with ⟨_, shown, rendered, built⟩
  exact ⟨matches_of_sourceFor shown, rendered, built⟩

theorem IsSound.ofHex_self {program : Program} (sound : program.IsSound) :
    ofHex program.source program.hex = .ok program :=
  ofHex_eq_ok_iff.mpr
    ⟨Hex.parse_encode _, sourceFor_of_matches sound.source, sound.exports, sound.offsets⟩

/-- The script text of a sound program compiles to it exactly when it assembles
to its bytes. -/
theorem IsSound.ofSource_self_iff {program : Program} (sound : program.IsSound) :
    ofSource program.source = .ok program ↔ assemble program.source = .ok program.bytes := by
  rw [ofSource_eq_ok_iff]
  exact ⟨fun compiled => compiled.2.1,
    fun assembled => ⟨rfl, assembled, sound.exports, sound.offsets⟩⟩

/-- The script text of a sound program assembles, maybe to other bytes. -/
theorem IsSound.exists_assemble {program : Program} (sound : program.IsSound) :
    ∃ codes, lineCodes program.source = .ok codes ∧
      assemble program.source = .ok codes.flatten ∧
      program.offsets.lineTable = startsOfCodes codes ∧
      program.offsets.totalLength = (codes.flatten.length : Int) := by
  rcases OffsetMap.exists_lineCodes_of_ofSource sound.offsets with
    ⟨codes, coded, starts, total⟩
  exact ⟨codes, coded, assemble_of_lineCodes coded, starts, total⟩

end Program

end ScriptWorkbench
