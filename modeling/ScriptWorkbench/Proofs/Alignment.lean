import ScriptWorkbench.Proofs.Minimality
import ScriptWorkbench.Proofs.Soundness

/-!
# The program and its offsets

A request carries the bytes of the hex editor and offsets into the code of the
source. They belong together unless the source was made from the hex text and
some push of it is not minimal.
-/

namespace ScriptWorkbench.Workspace

variable {workspace : Workspace}

/-- Whether the request is for an input, with the breakpoints at the starts of
lines that have the given codes. -/
def Requests (workspace : Workspace) (input : String) (codes : List Bytes) : Prop :=
  ∃ offsets, workspace.runRequest? = some { input, breakpoints := some offsets } ∧
    List.Forall₂ (CodeStartsAt codes)
      (workspace.breakpoints.filter fun line => 1 ≤ line ∧ line ≤ (codes.length : Int)) offsets

/-- Whether the program that is sent and the offsets that go with it describe
the same bytes. -/
structure Aligned (workspace : Workspace) : Prop where
  hex : assembleToHex workspace.source = .ok workspace.hex
  totalLength : ∃ bytes, Hex.parse workspace.hex = .ok bytes ∧
    workspace.offsets.totalLength = (bytes.length : Int)
  breakpoints : ∃ codes, lineCodes workspace.source = .ok codes ∧
    workspace.Requests (Hex.encode codes.flatten) codes

/-- The breakpoints of a request are always those of the source. -/
theorem requests_lineCodes {program : Program} {codes : List Bytes}
    (noFault : workspace.fault = none) (shows : workspace.Shows program)
    (starts : program.offsets.lineTable = startsOfCodes codes) :
    workspace.Requests workspace.hex codes := by
  rcases shows with ⟨_, _, _, offsets⟩
  refine ⟨_, ?_, forall₂_codeStartsAt codes _⟩
  rw [runRequest?, noFault, breakpointOffsets, OffsetMap.breakpointOffsets, offsets, starts]

/-- A workspace that shows a program is aligned if the program's source
assembles to the program's bytes. -/
theorem aligned_iff_assemble {program : Program} (sound : program.IsSound)
    (noFault : workspace.fault = none) (shows : workspace.Shows program) :
    workspace.Aligned ↔ assemble program.source = .ok program.bytes := by
  rcases sound.exists_assemble with ⟨codes, coded, assembled, starts, total⟩
  have requests := requests_lineCodes noFault shows starts
  rcases shows with ⟨source, hex, _, offsets⟩
  constructor
  · intro aligned
    have sameHex := aligned.hex
    rw [assembleToHex, source, assembled, hex, Except.map, Program.hex, Except.ok.injEq] at sameHex
    rw [assembled, Hex.encode_injective sameHex]
  · intro same
    rw [same, Except.ok.injEq] at assembled
    refine ⟨?_, ⟨program.bytes, ?_, ?_⟩, ⟨codes, ?_, ?_⟩⟩
    · rw [assembleToHex, source, same, hex]
      rfl
    · rw [hex, Program.hex, Hex.parse_encode]
    · rw [offsets, total, assembled]
    · rw [source, coded]
    · rwa [hex, Program.hex, assembled] at requests

/-- Without an error, the breakpoints are the starts of lines in what the source
assembles to. The program that is sent is the same one unless the source is the
canonical text of bytecode with a push that is not minimal: then the offsets
are those of a shorter program. -/
theorem aligned_iff_minimal (reachable : workspace.Reachable)
    (noError : workspace.errorText = "") :
    ∃ bytes instructions codes,
      workspace.hex = Hex.encode bytes ∧ disassemble bytes = .ok instructions ∧
      lineCodes workspace.source = .ok codes ∧ workspace.Requests workspace.hex codes ∧
      workspace.offsets.totalLength = (codes.flatten.length : Int) ∧
      (workspace.Aligned ↔
        (canonicalSource bytes = .ok workspace.source →
          ∀ instruction ∈ instructions, instruction.IsMinimal)) ∧
      (¬workspace.Aligned → codes.flatten.length < bytes.length) := by
  have noFault := errorText_eq_empty_iff.mp noError
  rcases reachable.sound.program noFault with ⟨program, sound, shows⟩
  rcases sound.exists_assemble with ⟨codes, coded, assembled, starts, total⟩
  rcases Exports.exists_disassemble sound.exports with ⟨instructions, disassembled⟩
  have alignedIff := aligned_iff_assemble sound noFault shows
  have requests := requests_lineCodes noFault shows starts
  have scans := disassembleWith_eq_ok_iff.mp disassembled
  rcases shows with ⟨source, hex, _, offsets⟩
  refine ⟨program.bytes, instructions, codes, hex, disassembled, by rw [source, coded], requests,
    by rw [offsets, total], ?_, ?_⟩
  · rw [alignedIff, source]
    constructor
    · intro same canonical
      have reencoded := assemble_of_canonicalSource canonical disassembled
      rw [same, Except.ok.injEq] at reencoded
      exact scans.reencode_eq_iff.mp reencoded.symm
    · intro minimal
      cases sound.source with
      | inl same => exact same
      | inr canonical =>
          rw [assemble_of_canonicalSource canonical disassembled,
            scans.reencode_of_isMinimal (minimal canonical)]
  · intro notAligned
    rw [alignedIff] at notAligned
    cases sound.source with
    | inl same => exact absurd same notAligned
    | inr canonical =>
        have reencoded := assemble_of_canonicalSource canonical disassembled
        have differs : (Instruction.reencode instructions).length ≠ program.bytes.length := by
          intro sameLength
          have minimal := scans.length_reencode_eq_iff.mp sameLength
          rw [reencoded, scans.reencode_of_isMinimal minimal] at notAligned
          exact notAligned rfl
        rw [reencoded, Except.ok.injEq] at assembled
        rw [← assembled]
        exact Nat.lt_of_le_of_ne scans.length_reencode_le differs

/-- A push with a length field that it does not need, with a breakpoint behind
it: the offset points into the push. -/
theorem aligned_iff_minimal_of_wide_push :
    let workspace := Operation.apply (.toggleBreakpoint 2)
      (Operation.apply (.editHex "4c010176") (create "" "" .source))
    workspace.Reachable ∧ workspace.errorText = "" ∧
      workspace.runRequest? = some { input := "4c010176", breakpoints := some [2] } ∧
      assembleToHex workspace.source = .ok "010176" ∧ ¬workspace.Aligned := by
  intro workspace
  have reachable : workspace.Reachable := .operate (.operate (.create "" "" .source) _) _
  have noError : workspace.errorText = "" := by rfl
  have source : workspace.source = "<01>\nOP_DUP" := by rfl
  refine ⟨reachable, noError, by rfl, by rw [source]; rfl, ?_⟩
  rcases aligned_iff_minimal reachable noError with
    ⟨bytes, instructions, _, hex, disassembled, _, _, _, alignedIff, _⟩
  have shown : workspace.hex = Hex.encode [0x4C, 0x01, 0x01, 0x76] := by rfl
  rw [shown] at hex
  cases Hex.encode_injective hex
  have wide : Instruction.pushed .pushData1 0 0x4C [0x01] [0x01] ∈ instructions := by
    cases disassembled
    decide
  intro aligned
  have minimal := alignedIff.mp aligned (by rfl) _ wide
  revert minimal
  decide

end ScriptWorkbench.Workspace
