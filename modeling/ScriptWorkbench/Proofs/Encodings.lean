import Mathlib.Algebra.GroupWithZero.Nat
import ScriptWorkbench.Proofs.CanonicalWords
import ScriptWorkbench.Proofs.EncodableTokens

/-!
# Encodings read back

A meaning that reads back encodes to one instruction, so the encodings of a
list of meanings scan as one instruction for each. Conversely every
instruction that is read has a meaning, namely that of its canonical word.
-/

namespace ScriptWorkbench

namespace Meaning

/-- Whether the encoding of a meaning reads as one instruction that shows it. -/
def ReadsBack (table : OpcodeTable) : Meaning → Prop
  | .data payload | .bareHex payload =>
    payload ≠ [] ∧ payload.length ≤ PushForm.greatestLength
  | .smallInteger byte | .opcode byte =>
    PushForm.ofOpcode? byte = none ∧ (opcodeToken? table byte).isSome = true

/-- The word that the encoding reads as. -/
def canonicalWord (table : OpcodeTable) : Meaning → String
  | .data payload | .bareHex payload => payloadToken payload
  | .smallInteger byte | .opcode byte => (opcodeToken? table byte).getD ""

/-- The push that the encoding is. -/
def push? (meaning : Meaning) : Option Push :=
  meaning.payload?.map fun payload =>
    { form := PushForm.minimal payload.length, payload }

/-- The instruction that the encoding reads as. -/
def instruction (table : OpcodeTable) (offset : Nat) (meaning : Meaning) : Instruction where
  offset
  opcode := meaning.encode.headD 0
  token := meaning.canonicalWord table
  size := meaning.encodedLength
  bytes := meaning.encode
  push := meaning.push?

variable {table : OpcodeTable}

theorem ReadsBack.fits {meaning : Meaning} (readsBack : meaning.ReadsBack table) :
    meaning.Fits := by
  intro payload isPush
  cases meaning <;> cases isPush <;> exact readsBack.2

theorem instruction_of_payload? {meaning : Meaning} {payload field : Bytes} {opcode : UInt8}
    (isPush : meaning.payload? = some payload)
    (header : pushHeader payload.length = opcode :: field) (offset : Nat) :
    meaning.instruction table offset =
      .pushed (PushForm.minimal payload.length) offset opcode field payload := by
  have encoded : encodePush payload = opcode :: (field ++ payload) := by
    rw [encodePush, header, List.cons_append]
  cases meaning <;> cases isPush <;> rw [instruction, encode, encoded] <;> rfl

theorem instruction_of_opcode? {meaning : Meaning} {byte : UInt8} {token : String}
    (isOpcode : meaning.opcode? = some byte) (word : opcodeToken? table byte = some token)
    (offset : Nat) : meaning.instruction table offset = .plain offset byte token := by
  cases meaning <;> cases isOpcode <;> rw [instruction, canonicalWord, word] <;> rfl

theorem readable_instruction {meaning : Meaning} (readsBack : meaning.ReadsBack table)
    (offset : Nat) : Instruction.Readable table offset (meaning.instruction table offset) := by
  cases meaning with
  | data payload | bareHex payload =>
      rcases exists_announces_pushHeader (List.length_pos_iff.mpr readsBack.1) readsBack.2 with
        ⟨opcode, field, header, announces⟩
      rw [instruction_of_payload? rfl header]
      exact .pushed announces
  | smallInteger byte | opcode byte =>
      rcases readsBack with ⟨noPush, hasWord⟩
      rcases Option.isSome_iff_exists.mp hasWord with ⟨token, word⟩
      rw [instruction_of_opcode? rfl word]
      exact .plain noPush word

/-- The instructions that a list of encodings reads as. -/
def instructionsFrom (table : OpcodeTable) (offset : Nat) : List Meaning → List Instruction
  | [] => []
  | meaning :: meanings =>
    meaning.instruction table offset ::
      instructionsFrom table (offset + meaning.encodedLength) meanings

theorem scans_encodings {meanings : List Meaning}
    (readBack : ∀ meaning ∈ meanings, meaning.ReadsBack table) (offset : Nat) :
    Instruction.Scans table offset (meanings.flatMap encode)
      (instructionsFrom table offset meanings) := by
  induction meanings generalizing offset with
  | nil => exact .nil offset
  | cons meaning meanings induction =>
      have first := readable_instruction (readBack meaning (by simp)) offset
      have others := induction (fun other member =>
        readBack other (List.mem_cons_of_mem _ member)) (offset + meaning.encodedLength)
      change Instruction.Scans table offset
        ((meaning.instruction table offset).bytes ++ meanings.flatMap encode) _
      exact .cons first others

theorem map_token_instructionsFrom (offset : Nat) (meanings : List Meaning) :
    (instructionsFrom table offset meanings).map Instruction.token =
      meanings.map (canonicalWord table) := by
  induction meanings generalizing offset with
  | nil => rfl
  | cons meaning meanings induction =>
      rw [instructionsFrom, List.map_cons, List.map_cons, induction]
      rfl

@[simp] theorem length_instructionsFrom (offset : Nat) (meanings : List Meaning) :
    (instructionsFrom table offset meanings).length = meanings.length := by
  induction meanings generalizing offset with
  | nil => rfl
  | cons meaning meanings induction => simp [instructionsFrom, induction]

/-- Each instruction starts behind the encodings of the earlier meanings. -/
theorem getElem?_instructionsFrom (offset : Nat) (meanings : List Meaning) (index : Nat) :
    (instructionsFrom table offset meanings)[index]? =
      meanings[index]?.map fun meaning =>
        meaning.instruction table
          (offset + ((meanings.take index).map encodedLength).sum) := by
  induction meanings generalizing offset index with
  | nil => rfl
  | cons meaning meanings induction =>
      cases index with
      | zero => rfl
      | succ index =>
          simpa [instructionsFrom, Nat.add_assoc] using
            induction (offset + meaning.encodedLength) index

end Meaning

/-! ## The meanings of instructions -/

namespace Instruction

/-- The meaning of an instruction's canonical word. An empty push has that of
zero. -/
def meaning (instruction : Instruction) : Meaning :=
  match instruction.push with
  | some push =>
    if push.payload = [] then .smallInteger SmallInteger.zeroOpcode else .data push.payload
  | none =>
    if (SmallInteger.numeral? instruction.opcode).isSome then .smallInteger instruction.opcode
    else .opcode instruction.opcode

namespace Readable

variable {table : OpcodeTable} {offset : Nat} {instruction : Instruction}

/-- The canonical word of an instruction has the instruction's meaning. -/
theorem classify_token (spelled : table.IsSpelled) (readable : Readable table offset instruction) :
    classify table instruction.token.toList = .ok instruction.meaning := by
  cases readable with
  | @pushed form opcode field payload announces =>
      by_cases empty : payload = []
      · subst empty
        exact classify_numeral table rfl
      · simp only [Instruction.pushed, meaning, if_neg empty]
        exact classify_payloadToken table empty
  | @plain opcode token noPush word =>
      unfold opcodeToken? at word
      split at word
      · next numeral found =>
          cases word
          simp only [Instruction.plain, meaning, found, Option.isSome_some, if_true]
          exact classify_numeral table (SmallInteger.numeral?_eq_some_iff.mp found)
      · next notSmall =>
          simp only [Instruction.plain, meaning, notSmall, Option.isSome_none,
            Bool.false_eq_true, if_false]
          exact classify_mnemonic (spelled token (OpcodeTable.mem_names_of_nameOf? word))
            (OpcodeTable.byteOf?_of_nameOf? word)

/-- Encoding the meaning of an instruction gives something that reads back as
the same word. -/
theorem readsBack_meaning (readable : Readable table offset instruction) :
    instruction.meaning.ReadsBack table ∧
      instruction.meaning.canonicalWord table = instruction.token := by
  cases readable with
  | @pushed form opcode field payload announces =>
      by_cases empty : payload = []
      · subst empty
        exact ⟨⟨rfl, rfl⟩, rfl⟩
      · simp only [Instruction.pushed, meaning, if_neg empty]
        exact ⟨⟨empty, announces.length_le⟩, rfl⟩
  | @plain opcode token noPush word =>
      have same : (Instruction.plain offset opcode token).meaning.opcode? = some opcode := by
        cases small : (SmallInteger.numeral? opcode).isSome <;>
          simp [Instruction.plain, meaning, small, Meaning.opcode?]
      generalize (Instruction.plain offset opcode token).meaning = meaning at same
      cases meaning <;> cases same
      all_goals exact ⟨⟨noPush, by rw [word]; rfl⟩, by rw [Meaning.canonicalWord, word]; rfl⟩

/-- The bytes that an instruction pushes fit a push. -/
theorem fits_meaning (readable : Readable table offset instruction) : instruction.meaning.Fits :=
  readable.readsBack_meaning.1.fits

end Readable

end Instruction

end ScriptWorkbench
