import ScriptWorkbench.Proofs.PushSizes
import ScriptWorkbench.Proofs.Scanning

/-!
# Where reading stops

Bytecode is refused at the first place where no instruction can be read: at a
byte without an opcode, or at a push of which some bytes are missing. Only the
second can be mended by more bytes.
-/

namespace ScriptWorkbench

namespace Instruction

variable {table : OpcodeTable} {filename : String} {offset : Nat} {opcode : UInt8}

/-! ## One instruction -/

/-- Why no instruction can be read from an opcode and the bytes behind it. -/
inductive Unreadable (table : OpcodeTable) (offset : Nat) (opcode : UInt8) :
    Bytes → CodecFault → Prop
  | unknownByte {rest : Bytes} (noPush : PushForm.ofOpcode? opcode = none)
      (noWord : opcodeToken? table opcode = none) :
      Unreadable table offset opcode rest (.unknownByte opcode.toNat offset)
  | cutField {form : PushForm} {rest : Bytes}
      (introduces : PushForm.ofOpcode? opcode = some form)
      (cut : rest.length < form.lengthSize) :
      Unreadable table offset opcode rest
        (.truncatedPush form offset form.lengthSize rest.length)
  | cutPayload {form : PushForm} {declared : Nat} {field payload : Bytes}
      (announces : form.Announces declared opcode field) (cut : payload.length < declared) :
      Unreadable table offset opcode (field ++ payload)
        (.truncatedPush form offset declared payload.length)

/-- A push is refused because its field or its payload is cut short. -/
theorem exists_unreadable_of_ofPush {form : PushForm} {rest : Bytes} {error : CodecError}
    (introduces : PushForm.ofOpcode? opcode = some form)
    (refused : ofPush filename offset form opcode rest = .error error) :
    ∃ fault, Unreadable table offset opcode rest fault ∧
      error = .atOffset fault filename offset := by
  unfold ofPush at refused
  by_cases fieldCut : rest.length < form.lengthSize
  · rw [if_pos fieldCut, Except.error.injEq] at refused
    exact ⟨_, .cutField introduces fieldCut, refused.symm⟩
  · simp only [if_neg fieldCut] at refused
    by_cases payloadCut :
        (rest.drop form.lengthSize).length < form.declaredLength opcode rest
    · rw [if_pos payloadCut, Except.error.injEq] at refused
      have announces := PushForm.announces_take introduces (Nat.not_lt.mp fieldCut)
      have unreadable : Unreadable table offset opcode
          (rest.take form.lengthSize ++ rest.drop form.lengthSize) _ :=
        .cutPayload announces payloadCut
      rw [List.take_append_drop] at unreadable
      exact ⟨_, unreadable, refused.symm⟩
    · simp only [if_neg payloadCut, reduceCtorEq] at refused

theorem exists_unreadable_of_ofBytes {rest : Bytes} {error : CodecError}
    (refused : ofBytes table filename offset opcode rest = .error error) :
    ∃ fault, Unreadable table offset opcode rest fault ∧
      error = .atOffset fault filename offset := by
  unfold ofBytes at refused
  cases introduces : PushForm.ofOpcode? opcode with
  | some form =>
      rw [introduces] at refused
      exact exists_unreadable_of_ofPush introduces refused
  | none =>
      rw [introduces] at refused
      cases word : opcodeToken? table opcode with
      | some token => simp only [word, reduceCtorEq] at refused
      | none =>
          simp only [word, Except.error.injEq] at refused
          exact ⟨_, .unknownByte introduces word, refused.symm⟩

namespace Unreadable

variable {rest : Bytes} {fault : CodecFault}

theorem ofBytes_eq (unreadable : Unreadable table offset opcode rest fault) :
    ofBytes table filename offset opcode rest = .error (.atOffset fault filename offset) := by
  cases unreadable with
  | unknownByte noPush noWord => simp only [ofBytes, noPush, noWord]
  | cutField introduces cut => simp only [ofBytes, introduces, ofPush, if_pos cut]
  | @cutPayload form declared field payload announces cut =>
      have fieldWhole : ¬(field ++ payload).length < form.lengthSize := by
        simp [announces.fieldSize]
      have behind : (field ++ payload).drop form.lengthSize = payload :=
        List.drop_left' announces.fieldSize
      simp only [ofBytes, announces.introduces, ofPush, if_neg fieldWhole, announces.declares,
        behind, if_pos cut]

theorem fault_cases (unreadable : Unreadable table offset opcode rest fault) :
    fault = .unknownByte opcode.toNat offset ∨
      ∃ form declared available, fault = .truncatedPush form offset declared available := by
  cases unreadable with
  | unknownByte => exact .inl rfl
  | cutField | cutPayload => exact .inr ⟨_, _, _, rfl⟩

/-- What a push that is cut short declares, and what is left of it. -/
theorem truncated_cases {form : PushForm} {place declared available : Nat}
    (unreadable : Unreadable table offset opcode rest
      (.truncatedPush form place declared available)) :
    PushForm.ofOpcode? opcode = some form ∧ available < declared ∧
      if rest.length < form.lengthSize then
        declared = form.lengthSize ∧ available = rest.length
      else
        declared = form.declaredLength opcode rest ∧
          available = (rest.drop form.lengthSize).length := by
  cases unreadable with
  | cutField introduces cut => simp [introduces, cut]
  | @cutPayload form declared field payload announces cut =>
      have fieldWhole : ¬(field ++ payload).length < form.lengthSize := by
        simp [announces.fieldSize]
      refine ⟨announces.introduces, cut, ?_⟩
      rw [if_neg fieldWhole, announces.declares, List.drop_left' announces.fieldSize]
      exact ⟨rfl, rfl⟩

/-- An unknown byte stays unknown, whatever follows it. -/
theorem append_of_unknownByte {byte place : Nat}
    (unreadable : Unreadable table offset opcode rest (.unknownByte byte place)) (after : Bytes) :
    Unreadable table offset opcode (rest ++ after) (.unknownByte byte place) := by
  cases unreadable with
  | unknownByte noPush noWord => exact .unknownByte noPush noWord

end Unreadable

/-- A payload that is cut short can be filled up. -/
theorem exists_readable_of_announces {form : PushForm} {declared : Nat} {field payload : Bytes}
    (announces : form.Announces declared opcode field) (short : payload.length ≤ declared) :
    ∃ after instruction, Readable table offset instruction ∧
      instruction.bytes = opcode :: (field ++ payload ++ after) := by
  let filling : Bytes := List.replicate (declared - payload.length) 0
  have whole : (payload ++ filling).length = declared := by
    simp [filling]
    omega
  rw [← whole] at announces
  refine ⟨filling, _, .pushed announces, ?_⟩
  rw [pushed, List.append_assoc]

/-- A field that is cut short can be filled up too, and then declares some
payload that is still missing. -/
theorem Unreadable.exists_readable_of_truncatedPush {rest : Bytes} {form : PushForm}
    {place declared available : Nat}
    (unreadable : Unreadable table offset opcode rest
      (.truncatedPush form place declared available)) :
    ∃ after instruction, Readable table offset instruction ∧
      instruction.bytes = opcode :: (rest ++ after) := by
  cases unreadable with
  | cutPayload announces cut =>
      exact exists_readable_of_announces announces (Nat.le_of_lt cut)
  | cutField introduces cut =>
      let filling : Bytes := List.replicate (form.lengthSize - rest.length) 0
      have whole : (rest ++ filling).length = form.lengthSize := by
        simp [filling]
        omega
      have announces := PushForm.announces_take introduces (Nat.le_of_eq whole.symm)
      rw [← whole, List.take_length] at announces
      have noPayload : ([] : Bytes).length ≤ form.declaredLength opcode (rest ++ filling) :=
        Nat.zero_le _
      rcases exists_readable_of_announces announces noPayload with
        ⟨after, instruction, readable, bytes⟩
      refine ⟨filling ++ after, instruction, readable, ?_⟩
      rw [bytes, List.append_nil, List.append_assoc]

/-! ## Whole bytecode -/

/-- A scan is refused exactly if it gets to an opcode that is unreadable with
the bytes behind it. -/
theorem scan_eq_error_iff {bytes : Bytes} {error : CodecError} :
    scan table filename offset 0 bytes = .error error ↔
      ∃ before opcode rest instructions fault, bytes = before ++ opcode :: rest ∧
        Scans table offset before instructions ∧
        Unreadable table (offset + before.length) opcode rest fault ∧
        error = .atOffset fault filename (offset + before.length) := by
  constructor
  · intro refused
    induction offset, bytes using scan_induction table filename with
    | nil offset => cases refused
    | refused offset opcode rest stopped unread =>
        rw [scan_cons_of_error unread, Except.error.injEq] at refused
        rcases exists_unreadable_of_ofBytes unread with ⟨fault, unreadable, same⟩
        exact ⟨[], opcode, rest, [], fault, rfl, .nil offset, unreadable,
          refused.symm.trans same⟩
    | read offset instruction rest readable induction =>
        rw [scan_append readable, map_eq_error_iff] at refused
        rcases induction refused with
          ⟨before, opcode, behind, instructions, fault, rfl, scans, unreadable, same⟩
        rw [Nat.add_assoc, ← readable.length_bytes_append] at unreadable same
        exact ⟨instruction.bytes ++ before, opcode, behind, instruction :: instructions, fault,
          (List.append_assoc _ _ _).symm, .cons readable scans, unreadable, same⟩
  · intro stops
    rcases stops with ⟨before, stop, rest, instructions, fault, rfl, scans, unreadable, rfl⟩
    rw [scan_append_of_scans scans, scan_cons_of_error unreadable.ofBytes_eq]
    rfl

end Instruction

/-- Whether bytecode can be continued to some that disassembles. -/
def BeginsProgram (table : OpcodeTable) (filename : String) (bytes : Bytes) : Prop :=
  ∃ after instructions, disassembleWith table filename (bytes ++ after) = .ok instructions

variable {table : OpcodeTable} {filename : String}

theorem disassembleWith_eq_error_iff {bytes : Bytes} {error : CodecError} :
    disassembleWith table filename bytes = .error error ↔
      ∃ before opcode rest instructions fault, bytes = before ++ opcode :: rest ∧
        disassembleWith table filename before = .ok instructions ∧
        Instruction.Unreadable table before.length opcode rest fault ∧
        error = .atOffset fault filename before.length := by
  rw [disassembleWith, Instruction.scan_eq_error_iff]
  simp only [disassembleWith_eq_ok_iff, Nat.zero_add]

/-- The instruction that is unreadable is so by itself. -/
theorem disassembleAt_of_unreadable {before rest : Bytes} {opcode : UInt8} {fault : CodecFault}
    (unreadable : Instruction.Unreadable table before.length opcode rest fault) :
    disassembleAt table filename (before ++ opcode :: rest) before.length =
      .error (.codec (.atOffset fault filename before.length)) := by
  have notNegative : ¬(before.length : Int) < 0 := by omega
  simp only [disassembleAt, if_neg notNegative, Int.toNat_natCast, List.drop_left,
    unreadable.ofBytes_eq]

theorem not_beginsProgram_of_unknownByte {before rest : Bytes} {opcode : UInt8}
    {instructions : List Instruction} {byte place : Nat}
    (accepted : disassembleWith table filename before = .ok instructions)
    (unreadable : Instruction.Unreadable table before.length opcode rest
      (.unknownByte byte place)) :
    ¬BeginsProgram table filename (before ++ opcode :: rest) := by
  intro begins
  rcases begins with ⟨after, continued, disassembled⟩
  have refused := disassembleWith_eq_error_iff.mpr ⟨before, opcode, rest ++ after, instructions,
    _, rfl, accepted, unreadable.append_of_unknownByte after, rfl⟩
  rw [List.append_assoc, List.cons_append, refused] at disassembled
  cases disassembled

theorem beginsProgram_of_truncatedPush {before rest : Bytes} {opcode : UInt8}
    {instructions : List Instruction} {form : PushForm} {place declared available : Nat}
    (accepted : disassembleWith table filename before = .ok instructions)
    (unreadable : Instruction.Unreadable table before.length opcode rest
      (.truncatedPush form place declared available)) :
    BeginsProgram table filename (before ++ opcode :: rest) := by
  rcases unreadable.exists_readable_of_truncatedPush with ⟨after, instruction, readable, bytes⟩
  have scans := disassembleWith_eq_ok_iff.mp accepted
  refine ⟨after, instructions ++ [instruction], ?_⟩
  rw [List.append_assoc, List.cons_append, ← bytes, ← List.append_nil instruction.bytes,
    disassembleWith, Instruction.scan_append_of_scans scans, Nat.zero_add,
    Instruction.scan_append readable]
  rfl

theorem fault_eq_of_disassembleWith {bytes : Bytes} {error : CodecError}
    (refused : disassembleWith table filename bytes = .error error) :
    (∃ byte offset, error.fault = .unknownByte byte offset) ∨
      ∃ form offset declared available,
        error.fault = .truncatedPush form offset declared available := by
  rcases disassembleWith_eq_error_iff.mp refused with
    ⟨before, opcode, rest, instructions, fault, _, _, unreadable, rfl⟩
  rcases unreadable.fault_cases with unknown | ⟨form, declared, available, truncated⟩
  · exact .inl ⟨_, _, unknown⟩
  · exact .inr ⟨_, _, _, _, truncated⟩

theorem fault_ne_pushLength_of_disassembleWith {bytes : Bytes} {error : CodecError}
    (refused : disassembleWith table filename bytes = .error error) (length : PushLengthError) :
    error.fault ≠ .pushLength length := by
  rcases fault_eq_of_disassembleWith refused with
    ⟨byte, offset, unknown⟩ | ⟨form, offset, declared, available, truncated⟩
  · rw [unknown]
    exact CodecFault.noConfusion
  · rw [truncated]
    exact CodecFault.noConfusion

theorem beginsProgram_iff (table : OpcodeTable) (filename : String) (bytes : Bytes) :
    BeginsProgram table filename bytes ↔
      ∀ error byte offset, disassembleWith table filename bytes = .error error →
        error.fault ≠ .unknownByte byte offset := by
  constructor
  · intro begins error byte offset refused isUnknown
    rcases disassembleWith_eq_error_iff.mp refused with
      ⟨before, opcode, rest, instructions, fault, rfl, accepted, unreadable, rfl⟩
    cases isUnknown
    exact not_beginsProgram_of_unknownByte accepted unreadable begins
  · intro notUnknown
    cases outcome : disassembleWith table filename bytes with
    | ok instructions => exact ⟨[], instructions, by rw [List.append_nil, outcome]⟩
    | error error =>
        rcases disassembleWith_eq_error_iff.mp outcome with
          ⟨before, opcode, rest, instructions, fault, rfl, accepted, unreadable, rfl⟩
        rcases unreadable.fault_cases with rfl | ⟨form, declared, available, rfl⟩
        · exact absurd rfl (notUnknown _ _ _ outcome)
        · exact beginsProgram_of_truncatedPush accepted unreadable

/-- Bytecode is refused behind a front that disassembles, for what is wrong with
the instruction there: its byte has no opcode, and then no bytes mend the
bytecode, or its length field or its payload is cut short, and then some bytes
do. So bytecode begins a program unless it is refused for an unknown byte. -/
theorem refused_at_unreadable_instruction (table : OpcodeTable) (filename : String)
    (bytes : Bytes) :
    (∀ error, disassembleWith table filename bytes = .error error →
      ∃ before opcode rest instructions, bytes = before ++ opcode :: rest ∧
        disassembleWith table filename before = .ok instructions ∧
        disassembleAt table filename bytes before.length = .error (.codec error) ∧
        ((error = .atOffset (.unknownByte opcode.toNat before.length) filename before.length ∧
            ¬BeginsProgram table filename bytes) ∨
          ∃ form declared available,
            error = .atOffset (.truncatedPush form before.length declared available) filename
              before.length ∧
            PushForm.ofOpcode? opcode = some form ∧ available < declared ∧
            (if rest.length < form.lengthSize then
              declared = form.lengthSize ∧ available = rest.length
            else
              declared = form.declaredLength opcode rest ∧
                available = (rest.drop form.lengthSize).length) ∧
            BeginsProgram table filename bytes)) ∧
    (BeginsProgram table filename bytes ↔
      ∀ error byte offset, disassembleWith table filename bytes = .error error →
        error.fault ≠ .unknownByte byte offset) := by
  refine ⟨?_, beginsProgram_iff table filename bytes⟩
  intro error refused
  rcases disassembleWith_eq_error_iff.mp refused with
    ⟨before, opcode, rest, instructions, fault, rfl, accepted, unreadable, rfl⟩
  refine ⟨before, opcode, rest, instructions, rfl, accepted,
    disassembleAt_of_unreadable unreadable, ?_⟩
  rcases unreadable.fault_cases with rfl | ⟨form, declared, available, rfl⟩
  · exact .inl ⟨rfl, not_beginsProgram_of_unknownByte accepted unreadable⟩
  · rcases unreadable.truncated_cases with ⟨introduces, less, parts⟩
    exact .inr ⟨form, declared, available, rfl, introduces, less, parts,
      beginsProgram_of_truncatedPush accepted unreadable⟩

/-- An opcode, and a push whose length field has one of its two bytes. -/
theorem refused_at_unreadable_instruction_of_cut_field :
    let error : CodecError :=
      { fault := .truncatedPush .pushData2 1 2 1
        location := some { filename := "<hex>", offset := some 1 } }
    disassembleWith .standard "<hex>" [0x76, 0x4D, 0x01] = .error error ∧
      disassembleAt .standard "<hex>" [0x76, 0x4D, 0x01] 1 = .error (.codec error) ∧
      BeginsProgram .standard "<hex>" [0x76, 0x4D, 0x01] := by
  intro error
  have refused : disassembleWith .standard "<hex>" [0x76, 0x4D, 0x01] = .error error := by rfl
  rcases refused_at_unreadable_instruction .standard "<hex>" [0x76, 0x4D, 0x01] with
    ⟨stops, _⟩
  rcases stops error refused with ⟨before, opcode, rest, _, _, _, alone, unknown | truncated⟩
  · have otherFault := congrArg CodecError.fault unknown.1
    cases otherFault
  · rcases truncated with ⟨form, declared, available, same, _, _, _, begins⟩
    have fault := congrArg CodecError.fault same
    simp only [error, CodecError.atOffset, CodecFault.truncatedPush.injEq] at fault
    rw [← fault.2.1] at alone
    exact ⟨refused, alone, begins⟩

end ScriptWorkbench
