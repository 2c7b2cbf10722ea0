import ScriptWorkbench.Proofs.Encodings
import ScriptWorkbench.Proofs.Sources

/-!
# The canonical form

Bytecode that is disassembled and assembled again has canonical words and
minimal pushes. It is a form that further passes leave alone.
-/

namespace ScriptWorkbench

/-! ## Canonical words are words -/

theorem toNat_of_isMnemonicCharacter {character : Char}
    (mnemonic : isMnemonicCharacter character = true) :
    0x30 ≤ character.toNat ∧ character.toNat ≤ 0x5F := by
  rw [isMnemonicCharacter, Bool.or_eq_true, Bool.or_eq_true, beq_iff_eq] at mnemonic
  rcases mnemonic with (isUpper | isDigit) | rfl
  · have bounds : 'A'.val ≤ character.val ∧ character.val ≤ 'Z'.val := of_decide_eq_true isUpper
    have lower := UInt32.le_iff_toNat_le.mp bounds.1
    have upper := UInt32.le_iff_toNat_le.mp bounds.2
    exact ⟨Nat.le_trans (by decide) lower, Nat.le_trans upper (by decide)⟩
  · simp only [Char.isDigit, Bool.and_eq_true, decide_eq_true_eq] at isDigit
    have lower := UInt32.le_iff_toNat_le.mp isDigit.1
    have upper := UInt32.le_iff_toNat_le.mp isDigit.2
    exact ⟨Nat.le_trans (by decide) lower, Nat.le_trans upper (by decide)⟩
  · decide

/-- Whether a text is a word of ASCII characters, all of them to be seen. -/
def IsVisible (text : List Char) : Prop :=
  text ≠ [] ∧ ∀ character ∈ text, 0x20 < character.toNat ∧ character.toNat < 0x7F

instance (text : List Char) : Decidable (IsVisible text) :=
  decidable_of_iff (text ≠ [] ∧ text.all (fun character =>
    decide (0x20 < character.toNat ∧ character.toNat < 0x7F)) = true) <| by
    simp [IsVisible]

theorem IsVisible.isWord {text : List Char} (visible : IsVisible text) : Text.IsWord text := by
  refine ⟨visible.1, fun character member => ?_⟩
  have codes := visible.2 character member
  simp only [Text.isBlank, Bool.or_eq_false_iff, Bool.and_eq_false_iff, decide_eq_false_iff_not,
    List.contains_eq_mem, List.mem_cons, List.not_mem_nil, or_false]
  omega

theorem isVisible_of_isMnemonic {word : List Char} (mnemonic : isMnemonic word = true) :
    IsVisible word := by
  rcases isMnemonic_eq_true_iff.mp mnemonic with ⟨rest, rfl, _, characters⟩
  refine ⟨List.cons_ne_nil _ _, ?_⟩
  simp only [List.forall_mem_cons]
  refine ⟨by decide, by decide, by decide, fun character member => ?_⟩
  have codes := toNat_of_isMnemonicCharacter (characters character member)
  omega

theorem isVisible_lowerDigits : IsVisible Hex.lowerDigits := by decide

theorem isVisible_payloadToken (payload : Bytes) : IsVisible (payloadToken payload).toList := by
  by_cases empty : payload = []
  · subst empty
    decide
  · have spelled : (payloadToken payload).toList =
        '<' :: (payload.flatMap Hex.encodeByte ++ ['>']) := by
      simp [payloadToken, empty]
    rw [spelled]
    refine ⟨List.cons_ne_nil _ _, ?_⟩
    rw [List.forall_mem_cons, List.forall_mem_append, List.forall_mem_singleton]
    exact ⟨by decide, fun character member =>
      isVisible_lowerDigits.2 character (Hex.mem_lowerDigits_of_mem_encode member), by decide⟩

theorem SmallInteger.isVisible_of_numerals : ∀ entry ∈ numerals, IsVisible entry.1.toList :=
  List.forall_iff_forall_mem.mp (by decide)

namespace Instruction

variable {table : OpcodeTable}

/-- A canonical word is one for a payload, a numeral, or spelled like a mnemonic. -/
theorem Readable.token_cases {offset : Nat} {instruction : Instruction}
    (spelled : table.IsSpelled) (readable : Readable table offset instruction) :
    (∃ payload, instruction.token = payloadToken payload) ∨
      (∃ entry ∈ SmallInteger.numerals, instruction.token = entry.1) ∨
      isMnemonic instruction.token.toList = true := by
  cases readable with
  | pushed announces => exact .inl ⟨_, rfl⟩
  | @plain opcode token noPush word =>
      unfold opcodeToken? at word
      split at word
      · next numeral found =>
          cases word
          have member :=
            SmallInteger.mem_numerals_of_opcode? (SmallInteger.numeral?_eq_some_iff.mp found)
          exact .inr (.inl ⟨_, member, rfl⟩)
      · exact .inr (.inr (spelled token (OpcodeTable.mem_names_of_nameOf? word)))

theorem Readable.isVisible_token {offset : Nat} {instruction : Instruction}
    (spelled : table.IsSpelled) (readable : Readable table offset instruction) :
    IsVisible instruction.token.toList := by
  rcases readable.token_cases spelled with ⟨payload, written⟩ | ⟨entry, member, written⟩ | mnemonic
  · rw [written]
    exact isVisible_payloadToken payload
  · rw [written]
    exact SmallInteger.isVisible_of_numerals entry member
  · exact isVisible_of_isMnemonic mnemonic

theorem Readable.isWord_token {offset : Nat} {instruction : Instruction}
    (spelled : table.IsSpelled) (readable : Readable table offset instruction) :
    Text.IsWord instruction.token.toList :=
  (readable.isVisible_token spelled).isWord

/-! ## Reassembling -/

theorem Readable.assembleWith_token {offset : Nat} {instruction : Instruction}
    (spelled : table.IsSpelled) (readable : Readable table offset instruction)
    (filename : String) :
    assembleWith table filename instruction.token = .ok instruction.meaning.encode := by
  apply assembleWith_eq_ok_iff.mpr
  rw [Text.words_of_isWord (readable.isWord_token spelled)]
  exact ⟨[instruction.meaning], .cons (readable.classify_token spelled) .nil,
    List.forall_mem_singleton.mpr readable.fits_meaning, List.flatMap_singleton ..⟩

/-- The script text of instructions, a word on each line. -/
def sourceOf (instructions : List Instruction) : String :=
  "\n".intercalate (instructions.map token)

theorem Scans.forall_readable {offset : Nat} {bytes : Bytes}
    {instructions : List Instruction} (scans : Scans table offset bytes instructions) :
    ∀ instruction ∈ instructions, ∃ start, Readable table start instruction := by
  induction scans with
  | nil => simp
  | cons readable _ induction =>
      rw [List.forall_mem_cons]
      exact ⟨⟨_, readable⟩, induction⟩

theorem words_sourceOf {instructions : List Instruction}
    (isWord : ∀ instruction ∈ instructions, Text.IsWord instruction.token.toList) :
    Text.words (sourceOf instructions).toList =
      instructions.map fun instruction => instruction.token.toList := by
  have texts : (sourceOf instructions).toList =
      ['\n'].intercalate (instructions.map fun instruction => instruction.token.toList) := by
    rw [sourceOf, String.toList_intercalate, List.map_map]
    rfl
  rw [texts, Text.words_intercalate_of_isWord]
  simpa using isWord

/-- Canonical words have the meanings of their instructions. -/
theorem mean_sourceOf {instructions : List Instruction} (spelled : table.IsSpelled)
    (readable : ∀ instruction ∈ instructions, ∃ start, Readable table start instruction) :
    Mean table (Text.words (sourceOf instructions).toList) (instructions.map meaning) := by
  have isWord : ∀ instruction ∈ instructions, Text.IsWord instruction.token.toList := by
    intro instruction member
    rcases readable instruction member with ⟨start, own⟩
    exact own.isWord_token spelled
  rw [words_sourceOf isWord, Mean, List.forall₂_map_left_iff, List.forall₂_map_right_iff,
    List.forall₂_same]
  intro instruction member
  rcases readable instruction member with ⟨start, own⟩
  exact own.classify_token spelled

theorem forall_fits_meaning {instructions : List Instruction}
    (readable : ∀ instruction ∈ instructions, ∃ start, Readable table start instruction) :
    ∀ meant ∈ instructions.map meaning, meant.Fits := by
  rw [List.forall_mem_map]
  intro instruction member
  rcases readable instruction member with ⟨start, own⟩
  exact own.fits_meaning

/-- The bytecode that instructions assemble to. -/
def reencode (instructions : List Instruction) : Bytes :=
  (instructions.map meaning).flatMap Meaning.encode

theorem assembleWith_sourceOf {instructions : List Instruction} (spelled : table.IsSpelled)
    (readable : ∀ instruction ∈ instructions, ∃ start, Readable table start instruction)
    (filename : String) :
    assembleWith table filename (sourceOf instructions) = .ok (reencode instructions) :=
  assembleWith_eq_ok_iff.mpr
    ⟨_, mean_sourceOf spelled readable, forall_fits_meaning readable, rfl⟩

theorem disassembleWith_reencode {instructions : List Instruction}
    (readable : ∀ instruction ∈ instructions, ∃ start, Readable table start instruction)
    (filename : String) :
    ∃ again, disassembleWith table filename (reencode instructions) = .ok again ∧
      again.map token = instructions.map token := by
  have readBack : ∀ meant ∈ instructions.map meaning, meant.ReadsBack table := by
    rw [List.forall_mem_map]
    intro instruction member
    rcases readable instruction member with ⟨start, own⟩
    exact own.readsBack_meaning.1
  refine ⟨_, disassembleWith_eq_ok_iff.mpr (Meaning.scans_encodings readBack 0), ?_⟩
  rw [Meaning.map_token_instructionsFrom, List.map_map]
  refine List.map_congr_left fun instruction member => ?_
  rcases readable instruction member with ⟨start, own⟩
  exact own.readsBack_meaning.2

end Instruction

theorem canonicalSource_eq_ok_iff {bytes : Bytes} {source : String} :
    canonicalSource bytes = .ok source ↔
      ∃ instructions, disassemble bytes = .ok instructions ∧
        Instruction.sourceOf instructions = source := by
  rw [canonicalSource, canonicalTokens, map_eq_ok_iff]
  constructor
  · rintro ⟨words, read, rfl⟩
    rcases map_eq_ok_iff.mp read with ⟨instructions, disassembled, rfl⟩
    exact ⟨instructions, disassembled, rfl⟩
  · rintro ⟨instructions, disassembled, rfl⟩
    exact ⟨_, map_eq_ok_iff.mpr ⟨instructions, disassembled, rfl⟩, rfl⟩

theorem canonicalSource_eq_error_iff {bytes : Bytes} {error : CodecError} :
    canonicalSource bytes = .error error ↔ disassemble bytes = .error error := by
  rw [canonicalSource, map_eq_error_iff, canonicalTokens, map_eq_error_iff]

/-- The canonical text of bytecode assembles to the bytecode's minimal form. -/
theorem assemble_of_canonicalSource {bytes : Bytes} {source : String}
    {instructions : List Instruction} (canonical : canonicalSource bytes = .ok source)
    (disassembled : disassemble bytes = .ok instructions) :
    assemble source = .ok (Instruction.reencode instructions) := by
  rcases canonicalSource_eq_ok_iff.mp canonical with ⟨others, read, rfl⟩
  rw [disassembled] at read
  cases read
  exact Instruction.assembleWith_sourceOf OpcodeTable.standard_isSpelled
    (disassembleWith_eq_ok_iff.mp disassembled).forall_readable Token.sourceName

/-- The bytecode that canonical words assemble to has the same canonical
words. -/
theorem canonicalTokens_of_canonicalSource {bytes assembled : Bytes} {source : String}
    (canonical : canonicalSource bytes = .ok source) (accepted : assemble source = .ok assembled) :
    canonicalTokens assembled = canonicalTokens bytes := by
  rcases canonicalSource_eq_ok_iff.mp canonical with ⟨instructions, disassembled, _⟩
  have reencoded := assemble_of_canonicalSource canonical disassembled
  rw [accepted, Except.ok.injEq] at reencoded
  have readable := (disassembleWith_eq_ok_iff.mp disassembled).forall_readable
  rcases Instruction.disassembleWith_reencode readable Instruction.bytecodeName with
    ⟨again, disassembledAgain, sameWords⟩
  rw [canonicalTokens, canonicalTokens, disassembled, disassemble, reencoded, disassembledAgain]
  exact congrArg Except.ok sameWords

/-- The canonical words of bytecode assemble, each by itself and all together,
and what they assemble to has the same canonical words. So one pass through
both codecs reaches a form that the next pass gives back. -/
theorem canonical_source_fixed {table : OpcodeTable} (spelled : table.IsSpelled)
    (sourceName bytecodeName : String) {bytes : Bytes} {instructions : List Instruction}
    (accepted : disassembleWith table bytecodeName bytes = .ok instructions) :
    (∀ instruction ∈ instructions,
      ∃ code, assembleWith table sourceName instruction.token = .ok code) ∧
    ∃ assembled again,
      assembleWith table sourceName (Instruction.sourceOf instructions) = .ok assembled ∧
      disassembleWith table bytecodeName assembled = .ok again ∧
      again.map Instruction.token = instructions.map Instruction.token ∧
      assembleWith table sourceName (Instruction.sourceOf again) = .ok assembled := by
  have readable := (disassembleWith_eq_ok_iff.mp accepted).forall_readable
  constructor
  · intro instruction member
    rcases readable instruction member with ⟨start, own⟩
    exact ⟨_, own.assembleWith_token spelled sourceName⟩
  · have assembled := Instruction.assembleWith_sourceOf spelled readable sourceName
    rcases Instruction.disassembleWith_reencode readable bytecodeName with
      ⟨again, disassembled, sameWords⟩
    have sameSource : Instruction.sourceOf again = Instruction.sourceOf instructions := by
      rw [Instruction.sourceOf, sameWords, ← Instruction.sourceOf]
    exact ⟨_, again, assembled, disassembled, sameWords, by rw [sameSource, assembled]⟩

/-- A push with a length field that it does not need, and an empty one. -/
theorem canonical_source_fixed_of_wide_pushes :
    let wide : List Instruction :=
      [{ offset := 0, opcode := 0x4C, token := "<07>", size := 3, bytes := [0x4C, 0x01, 0x07],
         push := some { form := .pushData1, payload := [0x07] } },
       { offset := 3, opcode := 0x4D, token := "0", size := 3, bytes := [0x4D, 0x00, 0x00],
         push := some { form := .pushData2, payload := [] } },
       { offset := 6, opcode := 0x51, token := "1", size := 1, bytes := [0x51], push := none }]
    OpcodeTable.standard.IsSpelled ∧
    disassembleWith .standard "<hex>" [0x4C, 0x01, 0x07, 0x4D, 0x00, 0x00, 0x51] = .ok wide ∧
    ∃ assembled again,
      assembleWith .standard "<asm>" (Instruction.sourceOf wide) = .ok assembled ∧
      disassembleWith .standard "<hex>" assembled = .ok again ∧
      again.map Instruction.token = ["<07>", "0", "1"] := by
  intro wide
  have accepted :
      disassembleWith .standard "<hex>" [0x4C, 0x01, 0x07, 0x4D, 0x00, 0x00, 0x51] = .ok wide := by
    rfl
  rcases canonical_source_fixed OpcodeTable.standard_isSpelled "<asm>" "<hex>" accepted with
    ⟨_, assembled, again, assembles, disassembles, sameWords, _⟩
  exact ⟨OpcodeTable.standard_isSpelled, accepted, assembled, again, assembles, disassembles,
    sameWords⟩

end ScriptWorkbench
