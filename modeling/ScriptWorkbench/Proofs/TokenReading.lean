import ScriptWorkbench.Proofs.Encodings
import ScriptWorkbench.Proofs.Sources
import ScriptWorkbench.Proofs.WordGrammar

/-!
# Disassembling what was assembled

The bytecode of a source disassembles to one instruction for each token, in
order and without a shift. Only the mnemonics of push opcodes are excepted:
their byte alone swallows what follows it.
-/

namespace ScriptWorkbench

namespace Meaning

/-- A mnemonic for the opcode of a push. -/
def IntroducesPush : Meaning → Prop
  | .opcode byte => 0x01 ≤ byte.toNat ∧ byte.toNat ≤ 0x4E
  | .data _ | .smallInteger _ | .bareHex _ => False

variable {table : OpcodeTable}

theorem isSome_opcodeToken?_of_byteOf? {name : String} {byte : UInt8}
    (declared : table.byteOf? name = some byte) :
    (opcodeToken? table byte).isSome = true := by
  unfold opcodeToken?
  split
  · rfl
  · exact OpcodeTable.isSome_nameOf?_of_byteOf? declared

theorem readsBack_of_means {word : List Char} {meaning : Meaning}
    (means : Means table word meaning) (fits : meaning.Fits) (nonempty : word ≠ [])
    (noPush : ¬meaning.IntroducesPush) : meaning.ReadsBack table := by
  cases means with
  | data read payloadNonempty => exact ⟨payloadNonempty, fits _ rfl⟩
  | smallInteger numeral =>
      have forms := SmallInteger.forms_of_numerals _
        (SmallInteger.mem_numerals_of_opcode? numeral)
      refine ⟨forms.2.2.1, ?_⟩
      rw [opcodeToken?, SmallInteger.numeral?_eq_some_iff.mpr numeral]
      rfl
  | opcode mnemonic declared =>
      exact ⟨(PushForm.ofOpcode?_eq_none_iff _).mpr noPush,
        isSome_opcodeToken?_of_byteOf? declared⟩
  | bareHex noNumeral digits read =>
      refine ⟨?_, fits _ rfl⟩
      rintro rfl
      match word, read with
      | [], _ => exact nonempty rfl
      | [_], read => cases read
      | high :: low :: rest, read =>
          unfold Hex.decode? at read
          split at read
          · rcases Option.map_eq_some_iff.mp read with ⟨_, _, impossible⟩
            cases impossible
          · cases read

end Meaning

namespace Token

/-- Whether an instruction at an offset shows just what a token says. -/
structure ReadsAs (token : Token) (offset : Nat) (instruction : Instruction) : Prop where
  bytes : instruction.bytes = token.encode
  offset : instruction.offset = offset
  size : instruction.size = token.encodedLength
  push : ∀ payload, token.meaning.payload? = some payload →
    ∃ form, PushForm.forLength payload.length = .ok form ∧
      instruction.push = some { form, payload }
  opcode : ∀ byte, token.meaning.opcode? = some byte →
    instruction.push = none ∧ instruction.opcode = byte

theorem readsAs_instruction {table : OpcodeTable} {token : Token}
    (readsBack : token.meaning.ReadsBack table) (offset : Nat) :
    token.ReadsAs offset (token.meaning.instruction table offset) where
  bytes := rfl
  offset := rfl
  size := rfl
  push payload isPush := by
    have fits := readsBack.fits payload isPush
    refine ⟨_, PushForm.forLength_eq_ok_iff.mpr ⟨fits, rfl⟩, ?_⟩
    rw [Meaning.instruction, Meaning.push?, isPush]
    rfl
  opcode byte isOpcode := by
    generalize token.meaning = meaning at isOpcode ⊢
    cases meaning <;> cases isOpcode <;> exact ⟨rfl, rfl⟩

end Token

/-! ## The push opcodes of the standard table -/

/-- The mnemonics of push opcodes that are declared. -/
def pushMnemonics : List String := ["OP_PUSHDATA1", "OP_PUSHDATA2", "OP_PUSHDATA4"]

theorem standard_push_declarations : ∀ declaration ∈ OpcodeTable.standard.declarations,
    (0x01 ≤ declaration.2.toNat ∧ declaration.2.toNat ≤ 0x4E) ↔
      declaration.1 ∈ pushMnemonics := by
  decide +kernel

theorem classify_pushMnemonics : ∀ name ∈ pushMnemonics, ∃ byte : UInt8,
    classify .standard name.toList = .ok (.opcode byte) ∧
      0x01 ≤ byte.toNat ∧ byte.toNat ≤ 0x4E := by
  simp only [pushMnemonics, List.forall_mem_cons, List.not_mem_nil, false_implies,
    implies_true, and_true]
  exact ⟨⟨0x4C, rfl, by decide⟩, ⟨0x4D, rfl, by decide⟩, ⟨0x4E, rfl, by decide⟩⟩

theorem introducesPush_iff_of_classify {word : List Char} {meaning : Meaning}
    (classified : classify .standard word = .ok meaning) :
    meaning.IntroducesPush ↔ String.ofList word ∈ pushMnemonics := by
  constructor
  · intro introduces
    cases means_of_classify classified with
    | opcode mnemonic declared =>
        exact (standard_push_declarations _
          (OpcodeTable.byteOf?_eq_some_iff.mp declared)).mp introduces
    | data | smallInteger | bareHex => cases introduces
  · intro member
    rcases classify_pushMnemonics _ member with ⟨byte, asOpcode, bounds⟩
    rw [String.toList_ofList, classified] at asOpcode
    cases asOpcode
    exact bounds

theorem Mean.forall_not_introducesPush_iff {words : List (List Char)} {meanings : List Meaning}
    (mean : Mean .standard words meanings) :
    (∀ meaning ∈ meanings, ¬meaning.IntroducesPush) ↔
      ∀ word ∈ words, String.ofList word ∉ pushMnemonics := by
  induction mean with
  | nil => simp
  | cons classified _ induction =>
      rw [List.forall_mem_cons, List.forall_mem_cons, induction,
        introducesPush_iff_of_classify classified]

/-! ## Token by token -/

theorem Mean.readsBack {table : OpcodeTable} {words : List (List Char)}
    {meanings : List Meaning} (mean : Mean table words meanings)
    (fits : ∀ meaning ∈ meanings, meaning.Fits) (nonempty : ∀ word ∈ words, word ≠ [])
    (noPush : ∀ meaning ∈ meanings, ¬meaning.IntroducesPush) :
    ∀ meaning ∈ meanings, meaning.ReadsBack table := by
  induction mean with
  | nil => simp
  | cons classified _ induction =>
      rw [List.forall_mem_cons] at fits nonempty noPush ⊢
      have means := means_of_classify classified
      exact ⟨Meaning.readsBack_of_means means fits.1 nonempty.1 noPush.1,
        induction fits.2 nonempty.2 noPush.2⟩

/-- A source that assembles has tokens, and unless one of them is the mnemonic
of a push opcode, the bytecode reads as one instruction for each token. -/
theorem disassembles_token_by_token {table : OpcodeTable} {filename source : String}
    {bytes : Bytes} (accepted : assembleWith table filename source = .ok bytes)
    (bytecodeName : String) :
    ∃ tokens, Token.ofSource table filename source = .ok tokens ∧
      ((∀ token ∈ tokens, ¬token.meaning.IntroducesPush) →
        ∃ instructions, disassembleWith table bytecodeName bytes = .ok instructions ∧
          instructions.length = tokens.length ∧
          ∀ (index : Nat) (token : Token), tokens[index]? = some token →
            ∃ instruction, instructions[index]? = some instruction ∧
              token.ReadsAs ((tokens.take index).map Token.encodedLength).sum instruction) ∧
      (table = .standard →
        ((∀ token ∈ tokens, ¬token.meaning.IntroducesPush) ↔
          ∀ word ∈ Text.splitWords source, word ∉ pushMnemonics)) := by
  rcases map_eq_ok_iff.mp accepted with ⟨tokens, encodable, rfl⟩
  rcases Token.encodableOfSource_eq_ok_iff.mp encodable with ⟨read, fits⟩
  have mean := mean_of_ofSource read
  refine ⟨tokens, read, ?_, ?_⟩
  · intro noPush
    have readBack : ∀ meaning ∈ tokens.map Token.meaning, meaning.ReadsBack table :=
      mean.readsBack (List.forall_mem_map.mpr fits) (fun _ => Text.ne_nil_of_mem_words)
        (List.forall_mem_map.mpr noPush)
    have scans := Meaning.scans_encodings readBack 0
    rw [← flatMap_encode] at scans
    refine ⟨_, disassembleWith_eq_ok_iff.mpr scans, by simp, ?_⟩
    intro index token found
    have own : token.meaning.ReadsBack table :=
      readBack _ (List.mem_map_of_mem (List.mem_of_getElem? found))
    refine ⟨_, ?_, Token.readsAs_instruction own _⟩
    rw [Meaning.getElem?_instructionsFrom, List.getElem?_map, found, Nat.zero_add,
      ← List.map_take, List.map_map]
    rfl
  · rintro rfl
    rw [Text.splitWords, List.forall_mem_map, ← mean.forall_not_introducesPush_iff,
      List.forall_mem_map]

/-- All kinds of tokens on two lines. -/
theorem disassembles_token_by_token_of_all_kinds :
    assembleWith .standard "<asm>" "OP_DUP <0011>\n16 ff" =
      .ok [0x76, 0x02, 0x00, 0x11, 0x60, 0x01, 0xFF] ∧
    ∃ tokens instructions,
      Token.ofSource .standard "<asm>" "OP_DUP <0011>\n16 ff" = .ok tokens ∧
      disassembleWith .standard "<hex>" [0x76, 0x02, 0x00, 0x11, 0x60, 0x01, 0xFF] =
        .ok instructions ∧
      instructions.length = tokens.length := by
  have accepted : assembleWith .standard "<asm>" "OP_DUP <0011>\n16 ff" =
      .ok [0x76, 0x02, 0x00, 0x11, 0x60, 0x01, 0xFF] := by rfl
  rcases disassembles_token_by_token accepted "<hex>" with ⟨tokens, read, shown, noPush⟩
  rcases shown ((noPush rfl).mpr (by decide)) with ⟨instructions, disassembled, sameLength, _⟩
  exact ⟨accepted, tokens, instructions, read, disassembled, sameLength⟩

end ScriptWorkbench
