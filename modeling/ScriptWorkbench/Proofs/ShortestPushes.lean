import ScriptWorkbench.Proofs.Minimality
import ScriptWorkbench.Proofs.Tiling

/-!
# The shortest push

A payload behind its minimal header is read back as it was, with any bytes
before and behind it. Whatever other push of the payload is read anywhere takes
more bytes.
-/

namespace ScriptWorkbench

namespace Instruction.Readable

variable {table : OpcodeTable} {offset : Nat} {instruction : Instruction} {push : Push}

/-- An empty push has the meaning of zero, which takes as many bytes as the
smallest push form. -/
theorem encodedLength_meaning_of_push (readable : Readable table offset instruction)
    (isPush : instruction.push = some push) :
    instruction.meaning.encodedLength = pushSize push.payload.length := by
  cases readable with
  | plain => cases isPush
  | @pushed form opcode field payload announces =>
      cases isPush
      by_cases empty : payload = []
      · subst empty
        rfl
      · simp only [Instruction.pushed, meaning, if_neg empty, Meaning.encodedLength]

theorem pushSize_le_size (readable : Readable table offset instruction)
    (isPush : instruction.push = some push) :
    pushSize push.payload.length ≤ instruction.size := by
  rw [← readable.encodedLength_meaning_of_push isPush]
  exact readable.encodedLength_meaning_le_size

/-- No other push of a payload is as short as the minimal one. -/
theorem bytes_eq_of_size_eq (readable : Readable table offset instruction)
    (isPush : instruction.push = some push)
    (shortest : instruction.size = pushSize push.payload.length) :
    instruction.bytes = encodePush push.payload := by
  have minimal : instruction.IsMinimal := by
    by_contra notMinimal
    have longer := readable.encodedLength_meaning_lt_size notMinimal
    rw [readable.encodedLength_meaning_of_push isPush] at longer
    omega
  have written := readable.encode_meaning_of_isMinimal minimal
  cases readable with
  | plain => cases isPush
  | @pushed form opcode field payload announces =>
      cases isPush
      have nonempty := (minimal _ rfl).1
      rw [← written]
      simp only [Instruction.pushed, meaning, if_neg nonempty, Meaning.encode]

theorem exists_forLength_eq_ok (readable : Readable table offset instruction)
    (isPush : instruction.push = some push) :
    ∃ form, PushForm.forLength push.payload.length = .ok form := by
  cases readable with
  | plain => cases isPush
  | pushed announces =>
      cases isPush
      exact ⟨_, PushForm.forLength_eq_ok_iff.mpr ⟨announces.length_le, rfl⟩⟩

end Instruction.Readable

/-- Behind any bytes and in front of any, the minimal push of a payload reads
as the payload, in the form that its length asks for. Its header takes what the
size of the push leaves. -/
theorem exists_pushed_of_pushHeader (table : OpcodeTable) (filename : String)
    {payload : Bytes} (nonempty : 1 ≤ payload.length)
    (fits : payload.length ≤ PushForm.greatestLength) (before after : Bytes) :
    ∃ instruction, disassembleAt table filename
        (before ++ (encodePush payload ++ after)) before.length = .ok instruction ∧
      instruction.push = some { form := .minimal payload.length, payload } ∧
      instruction.size = pushSize payload.length := by
  rcases exists_announces_pushHeader nonempty fits with ⟨opcode, field, header, announces⟩
  have readable : Instruction.Readable table before.length (.pushed _ _ opcode field payload) :=
    .pushed announces
  have written : encodePush payload = opcode :: (field ++ payload) := by
    rw [encodePush, header, List.cons_append]
  rw [written]
  exact ⟨_, readable.disassembleAt_eq after, rfl, rfl⟩

/-- The minimal header of a payload leads to the payload, whatever stands around
the push. Every push that is read has a payload for which there is a minimal
header, and it is as short as the push with that header only if it is that push. -/
theorem minimal_push_reads_back_and_is_shortest (table : OpcodeTable) (filename : String) :
    (∀ payload : Bytes, 1 ≤ payload.length → payload.length ≤ PushForm.greatestLength →
      ∀ before after : Bytes, ∃ form instruction,
        PushForm.forLength payload.length = .ok form ∧
        disassembleAt table filename
          (before ++ (pushHeader payload.length ++ payload ++ after)) before.length =
            .ok instruction ∧
        instruction.push = some { form, payload } ∧
        instruction.size = pushSize payload.length ∧
        (pushHeader payload.length).length = pushSize payload.length - payload.length ∧
        (pushHeader payload.length).length = form.headerSize) ∧
    ∀ (bytes : Bytes) (offset : Int) (instruction : Instruction) (push : Push),
      disassembleAt table filename bytes offset = .ok instruction →
      instruction.push = some push →
      (∃ form, PushForm.forLength push.payload.length = .ok form) ∧
      pushSize push.payload.length ≤ instruction.size ∧
      (instruction.size = pushSize push.payload.length →
        instruction.bytes = pushHeader push.payload.length ++ push.payload) := by
  constructor
  · intro payload nonempty fits before after
    rcases exists_pushed_of_pushHeader table filename nonempty fits before after with
      ⟨instruction, read, isPush, size⟩
    have headerSize : (pushHeader payload.length).length =
        (PushForm.minimal payload.length).headerSize := PushForm.length_header _ _
    refine ⟨.minimal payload.length, instruction,
      PushForm.forLength_eq_ok_iff.mpr ⟨fits, rfl⟩, read, isPush, size, ?_, headerSize⟩
    rw [headerSize, pushSize, Nat.add_sub_cancel]
  · intro bytes offset instruction push read isPush
    rcases Instruction.exists_readable_of_disassembleAt read with
      ⟨before, after, _, _, readable⟩
    exact ⟨readable.exists_forLength_eq_ok isPush, readable.pushSize_le_size isPush,
      readable.bytes_eq_of_size_eq isPush⟩

/-- The shortest payload that needs a length field, between other bytes, and a
push with a length field that it does not need. -/
theorem minimal_push_reads_back_and_is_shortest_of_length_fields :
    let payload : Bytes := List.replicate 76 0xAB
    let wide : Instruction :=
      { offset := 1, opcode := 0x4D, token := "<07>", size := 4, bytes := [0x4D, 0x01, 0x00, 0x07],
        push := some { form := .pushData2, payload := [0x07] } }
    (1 ≤ payload.length ∧ payload.length ≤ PushForm.greatestLength ∧
      ∃ form instruction, PushForm.forLength payload.length = .ok form ∧
        disassembleAt .standard "<hex>" ([0x76] ++ (pushHeader payload.length ++ payload ++ [0x51]))
          1 = .ok instruction ∧
        instruction.push = some { form, payload } ∧
        (pushHeader payload.length).length = form.headerSize) ∧
      disassembleAt .standard "<hex>" [0x76, 0x4D, 0x01, 0x00, 0x07] 1 = .ok wide ∧
      wide.push = some { form := .pushData2, payload := [0x07] } ∧
      pushSize 1 ≤ wide.size ∧
      (wide.size = pushSize 1 → wide.bytes = pushHeader 1 ++ [0x07]) := by
  intro payload wide
  have laws := minimal_push_reads_back_and_is_shortest .standard "<hex>"
  have nonempty : 1 ≤ payload.length := by decide +revert
  have fits : payload.length ≤ PushForm.greatestLength := by decide +revert
  have read : disassembleAt .standard "<hex>" [0x76, 0x4D, 0x01, 0x00, 0x07] 1 = .ok wide := by
    rfl
  rcases laws.1 payload nonempty fits [0x76] [0x51] with
    ⟨form, instruction, minimal, readBack, isPush, _, _, headerSize⟩
  rcases laws.2 _ 1 wide _ read rfl with ⟨_, noShorter, same⟩
  exact ⟨⟨nonempty, fits, form, instruction, minimal, readBack, isPush, headerSize⟩,
    read, rfl, noShorter, same⟩

end ScriptWorkbench
