import Mathlib.Tactic.TFAE
import ScriptWorkbench.Proofs.CanonicalForm
import ScriptWorkbench.Proofs.PushSizes

/-!
# Reassembling bytecode as it was

The canonical words of bytecode assemble to the bytecode itself exactly when
all of its pushes are minimal. Otherwise what they assemble to is shorter.
-/

namespace ScriptWorkbench

namespace Instruction

variable {table : OpcodeTable}

namespace Readable

variable {offset : Nat} {instruction : Instruction}

theorem encode_meaning_plain (opcode : UInt8) (token : String) :
    (Instruction.plain offset opcode token).meaning.encode = [opcode] := by
  cases small : (SmallInteger.numeral? opcode).isSome <;>
    simp [Instruction.plain, meaning, small, Meaning.encode]

theorem encode_meaning_of_isMinimal (readable : Readable table offset instruction)
    (minimal : instruction.IsMinimal) : instruction.meaning.encode = instruction.bytes := by
  cases readable with
  | plain noPush word => exact encode_meaning_plain _ _
  | @pushed form opcode field payload announces =>
      have minimalForm := minimal _ rfl
      have header := announces.length_le_and_header_eq.2
      simp only [Instruction.pushed, meaning, if_neg minimalForm.1, Meaning.encode, encodePush,
        pushHeader, ← minimalForm.2, ← header, List.cons_append]

/-- The form of a push that is not minimal has a longer length field than the
payload needs. -/
theorem encodedLength_meaning_lt_size (readable : Readable table offset instruction)
    (notMinimal : ¬instruction.IsMinimal) :
    instruction.meaning.encodedLength < instruction.size := by
  cases readable with
  | plain noPush word =>
      refine absurd ?_ notMinimal
      intro push isPush
      cases isPush
  | @pushed form opcode field payload announces =>
      by_cases empty : payload = []
      · subst empty
        have fieldNeeded := announces.lengthSize_pos_of_empty
        simp only [Instruction.pushed, meaning, if_true, Meaning.encodedLength,
          PushForm.headerSize]
        omega
      · have otherForm : PushForm.minimal payload.length ≠ form := by
          rintro rfl
          refine notMinimal ?_
          intro push isPush
          cases isPush
          exact ⟨empty, rfl⟩
        have noLonger := PushForm.lengthSize_minimal_le announces.length_le_and_header_eq.1
        have differs : (PushForm.minimal payload.length).lengthSize ≠ form.lengthSize :=
          fun equal => otherForm (PushForm.lengthSize_injective equal)
        simp only [Instruction.pushed, meaning, if_neg empty, Meaning.encodedLength, pushSize,
          PushForm.headerSize]
        omega

theorem encodedLength_meaning_le_size (readable : Readable table offset instruction) :
    instruction.meaning.encodedLength ≤ instruction.size := by
  by_cases minimal : instruction.IsMinimal
  · have same : instruction.meaning.encodedLength = instruction.size := by
      rw [← Meaning.length_encode, readable.encode_meaning_of_isMinimal minimal,
        readable.length_bytes]
    exact Nat.le_of_eq same
  · exact Nat.le_of_lt (readable.encodedLength_meaning_lt_size minimal)

theorem isMinimal_iff (readable : Readable table offset instruction) :
    instruction.IsMinimal ↔ ∀ push, instruction.push = some push →
      push.payload ≠ [] ∧ PushForm.forLength push.payload.length = .ok push.form := by
  cases readable with
  | plain noPush word => simp [IsMinimal, Instruction.plain]
  | pushed announces =>
      simp only [IsMinimal, Instruction.pushed, Option.some.injEq, forall_eq',
        PushForm.forLength_eq_ok_iff, announces.length_le, true_and]
      exact and_congr_right fun _ => eq_comm

end Readable

/-! ## Whole programs -/

theorem reencode_cons (instruction : Instruction) (instructions : List Instruction) :
    reencode (instruction :: instructions) =
      instruction.meaning.encode ++ reencode instructions := by
  rw [reencode, List.map_cons, List.flatMap_cons, ← reencode]

theorem length_reencode_cons (instruction : Instruction) (instructions : List Instruction) :
    (reencode (instruction :: instructions)).length =
      instruction.meaning.encodedLength + (reencode instructions).length := by
  rw [reencode_cons, List.length_append, Meaning.length_encode]

namespace Scans

variable {offset : Nat} {bytes : Bytes} {instructions : List Instruction}

theorem reencode_of_isMinimal (scans : Scans table offset bytes instructions)
    (minimal : ∀ instruction ∈ instructions, instruction.IsMinimal) :
    reencode instructions = bytes := by
  induction scans with
  | nil => rfl
  | cons readable _ induction =>
      rw [List.forall_mem_cons] at minimal
      rw [reencode_cons, readable.encode_meaning_of_isMinimal minimal.1, induction minimal.2]

theorem length_reencode_le (scans : Scans table offset bytes instructions) :
    (reencode instructions).length ≤ bytes.length := by
  induction scans with
  | nil => exact Nat.le_refl _
  | cons readable _ induction =>
      rw [length_reencode_cons, readable.length_bytes_append]
      exact Nat.add_le_add readable.encodedLength_meaning_le_size induction

/-- Every push that is not minimal makes the reassembled program shorter. -/
theorem length_reencode_eq_iff (scans : Scans table offset bytes instructions) :
    (reencode instructions).length = bytes.length ↔
      ∀ instruction ∈ instructions, instruction.IsMinimal := by
  constructor
  · intro sameLength
    induction scans with
    | nil => simp
    | @cons offset rest instruction following readable scans induction =>
        have first := readable.encodedLength_meaning_le_size
        have others := scans.length_reencode_le
        rw [length_reencode_cons, readable.length_bytes_append] at sameLength
        rw [List.forall_mem_cons]
        refine ⟨?_, induction (by omega)⟩
        by_contra notMinimal
        have shorter := readable.encodedLength_meaning_lt_size notMinimal
        omega
  · intro minimal
    rw [scans.reencode_of_isMinimal minimal]

theorem reencode_eq_iff (scans : Scans table offset bytes instructions) :
    reencode instructions = bytes ↔ ∀ instruction ∈ instructions, instruction.IsMinimal := by
  refine ⟨?_, scans.reencode_of_isMinimal⟩
  intro same
  rw [← scans.length_reencode_eq_iff, same]

end Scans

end Instruction

/-- Bytecode that disassembles has a canonical text, and what the text assembles
to is no longer. It is as long only if it is the same bytecode, and that is so
exactly if every push has a payload and the form that its length asks for. -/
theorem reassembles_no_longer {bytes : Bytes} {instructions : List Instruction}
    (disassembled : disassemble bytes = .ok instructions) :
    ∃ source assembled, canonicalSource bytes = .ok source ∧ assemble source = .ok assembled ∧
      assembled.length ≤ bytes.length ∧
      [assembled.length = bytes.length, assembled = bytes,
        ∀ instruction ∈ instructions, ∀ push, instruction.push = some push →
          push.payload ≠ [] ∧ PushForm.forLength push.payload.length = .ok push.form].TFAE := by
  have scans := disassembleWith_eq_ok_iff.mp disassembled
  have canonical : canonicalSource bytes = .ok (Instruction.sourceOf instructions) :=
    canonicalSource_eq_ok_iff.mpr ⟨instructions, disassembled, rfl⟩
  have allMinimal : (∀ instruction ∈ instructions, instruction.IsMinimal) ↔
      ∀ instruction ∈ instructions, ∀ push, instruction.push = some push →
        push.payload ≠ [] ∧ PushForm.forLength push.payload.length = .ok push.form := by
    apply forall₂_congr
    intro instruction member
    rcases scans.forall_readable instruction member with ⟨start, readable⟩
    exact readable.isMinimal_iff
  refine ⟨_, _, canonical, assemble_of_canonicalSource canonical disassembled,
    scans.length_reencode_le, ?_⟩
  rw [← allMinimal]
  tfae_have 1 ↔ 3 := scans.length_reencode_eq_iff
  tfae_have 2 ↔ 3 := scans.reencode_eq_iff
  tfae_finish

/-- An empty push and one with a length field that it does not need, in front
of an opcode. -/
theorem reassembles_no_longer_of_wide_pushes :
    let instructions : List Instruction :=
      [.pushed .pushData2 0 0x4D [0x00, 0x00] [], .pushed .pushData1 3 0x4C [0x01] [0x07],
        .plain 6 0x76 "OP_DUP"]
    disassemble [0x4D, 0x00, 0x00, 0x4C, 0x01, 0x07, 0x76] = .ok instructions ∧
      assemble "0\n<07>\nOP_DUP" = .ok [0x00, 0x01, 0x07, 0x76] ∧
      ¬∀ instruction ∈ instructions, ∀ push, instruction.push = some push →
        push.payload ≠ [] ∧ PushForm.forLength push.payload.length = .ok push.form := by
  intro instructions
  have disassembled :
      disassemble [0x4D, 0x00, 0x00, 0x4C, 0x01, 0x07, 0x76] = .ok instructions := by rfl
  have text : canonicalSource [0x4D, 0x00, 0x00, 0x4C, 0x01, 0x07, 0x76] =
      .ok "0\n<07>\nOP_DUP" := by rfl
  have code : assemble "0\n<07>\nOP_DUP" = .ok [0x00, 0x01, 0x07, 0x76] := by rfl
  rcases reassembles_no_longer disassembled with
    ⟨source, assembled, canonical, accepted, _, equivalents⟩
  cases canonical.symm.trans text
  cases accepted.symm.trans code
  refine ⟨disassembled, code, ?_⟩
  intro minimal
  have sameLength := (equivalents.out 0 2).mpr minimal
  cases sameLength

end ScriptWorkbench
