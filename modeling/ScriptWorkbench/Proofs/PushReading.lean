import ScriptWorkbench.Instruction.Decoder

/-!
# Pushes read back

A minimal header tells its form and its length, whatever follows it. So a push
that is written reads back as one push of the same payload.
-/

namespace ScriptWorkbench

namespace PushForm

/-- Only the opcodes from 0x01 to 0x4E introduce a push. -/
theorem ofOpcode?_eq_none_iff (opcode : UInt8) :
    ofOpcode? opcode = none ↔ ¬(0x01 ≤ opcode.toNat ∧ opcode.toNat ≤ 0x4E) := by
  unfold ofOpcode?
  split
  · next inlined =>
      rw [Bool.and_eq_true, decide_eq_true_eq, decide_eq_true_eq, inlineLimit] at inlined
      simp only [reduceCtorEq, false_iff]
      omega
  · next notInlined =>
      rw [Bool.and_eq_true, decide_eq_true_eq, decide_eq_true_eq, inlineLimit] at notInlined
      simp only [List.find?_eq_none, List.mem_cons, List.not_mem_nil, or_false, opcode?,
        decide_eq_true_eq, forall_eq_or_imp, forall_eq, Option.some.injEq,
        ← UInt8.toNat_inj]
      change (¬0x4C = opcode.toNat ∧ ¬0x4D = opcode.toNat ∧ ¬0x4E = opcode.toNat) ↔ _
      omega

/-- An opcode up to 75 is the header of an inline push. -/
theorem ofOpcode?_inline {length : Nat} (positive : 0 < length)
    (small : length ≤ inlineLimit) : ofOpcode? (UInt8.ofNat length) = some .inline := by
  have all : ∀ value ∈ List.range' 1 75, ofOpcode? (UInt8.ofNat value) = some .inline := by
    decide
  exact all length (List.mem_range'_1.mpr ⟨positive, Nat.lt_succ_of_le small⟩)

/-- A length field gives the length back if it is wide enough. -/
theorem declaredLength_littleEndian {form : PushForm} {length : Nat} (opcode : UInt8)
    (rest : Bytes) (notInline : form ≠ .inline)
    (fits : length < Nat.pow 0x100 form.lengthSize) :
    form.declaredLength opcode (Bytes.littleEndian form.lengthSize length ++ rest) = length := by
  have taken : (Bytes.littleEndian form.lengthSize length ++ rest).take form.lengthSize =
      Bytes.littleEndian form.lengthSize length :=
    List.take_left' (Bytes.length_littleEndian _ _)
  cases form with
  | inline => exact absurd rfl notInline
  | pushData1 | pushData2 | pushData4 =>
      rw [declaredLength, taken, Bytes.ofLittleEndian_littleEndian fits]
      exact PushForm.noConfusion

/-- What a header says: the form that its opcode introduces and the length
that it declares in front of any bytes. -/
structure Announces (form : PushForm) (length : Nat) (opcode : UInt8) (field : Bytes) :
    Prop where
  introduces : ofOpcode? opcode = some form
  fieldSize : field.length = form.lengthSize
  declares : ∀ rest, form.declaredLength opcode (field ++ rest) = length

theorem announces_of_opcode? {form : PushForm} {length : Nat} {opcode : UInt8}
    (own : form.opcode? = some opcode) (fits : length < Nat.pow 0x100 form.lengthSize) :
    form.Announces length opcode (Bytes.littleEndian form.lengthSize length) where
  introduces := by
    cases form <;> cases own <;> rfl
  fieldSize := Bytes.length_littleEndian _ _
  declares rest := by
    refine declaredLength_littleEndian opcode rest ?_ fits
    rintro rfl
    cases own

/-- A field that is cut off the bytes behind an opcode announces the length
that the opcode and the bytes declare. -/
theorem announces_take {form : PushForm} {opcode : UInt8} {rest : Bytes}
    (introduces : ofOpcode? opcode = some form) (enough : form.lengthSize ≤ rest.length) :
    form.Announces (form.declaredLength opcode rest) opcode (rest.take form.lengthSize) where
  introduces
  fieldSize := List.length_take_of_le enough
  declares after := by
    cases form with
    | inline => rfl
    | pushData1 | pushData2 | pushData4 =>
        simp only [declaredLength]
        rw [List.take_left' (List.length_take_of_le enough)]

end PushForm

/-- The minimal header of a payload announces it. -/
theorem exists_announces_pushHeader {length : Nat} (positive : 0 < length)
    (fits : length ≤ PushForm.greatestLength) :
    ∃ opcode field, pushHeader length = opcode :: field ∧
      (PushForm.minimal length).Announces length opcode field := by
  simp only [PushForm.greatestLength] at fits
  unfold pushHeader PushForm.minimal
  split
  · next small =>
      refine ⟨UInt8.ofNat length, [], rfl, PushForm.ofOpcode?_inline positive small, rfl, ?_⟩
      intro rest
      simp only [PushForm.inlineLimit] at small
      simp only [PushForm.declaredLength, UInt8.toNat_ofNat']
      omega
  split
  · next small =>
      exact ⟨_, _, rfl, PushForm.announces_of_opcode? rfl (by simp [PushForm.lengthSize]; omega)⟩
  split
  · next small =>
      exact ⟨_, _, rfl, PushForm.announces_of_opcode? rfl (by simp [PushForm.lengthSize]; omega)⟩
  · exact ⟨_, _, rfl, PushForm.announces_of_opcode? rfl (by simp [PushForm.lengthSize]; omega)⟩

namespace Instruction

/-- The push that a header and a payload make up. -/
def pushed (form : PushForm) (offset : Nat) (opcode : UInt8) (field payload : Bytes) :
    Instruction where
  offset
  opcode
  token := payloadToken payload
  size := form.headerSize + payload.length
  bytes := opcode :: (field ++ payload)
  push := some { form, payload }

/-- The size of a push is the number of its bytes when its header announces its
payload. -/
theorem length_bytes_pushed {form : PushForm} {opcode : UInt8} {field payload : Bytes}
    (announces : form.Announces payload.length opcode field) (offset : Nat) :
    (pushed form offset opcode field payload).bytes.length =
      (pushed form offset opcode field payload).size := by
  simp only [pushed, List.length_cons, List.length_append, announces.fieldSize,
    PushForm.headerSize]
  omega

/-- A push reads as its payload when its header announces it. -/
theorem ofPush_append {form : PushForm} {opcode : UInt8} {field payload : Bytes}
    (announces : form.Announces payload.length opcode field) (filename : String)
    (offset : Nat) (rest : Bytes) :
    ofPush filename offset form opcode (field ++ payload ++ rest) =
      .ok (pushed form offset opcode field payload) := by
  have longEnough : ¬(field ++ payload ++ rest).length < form.lengthSize := by
    simp only [List.length_append, announces.fieldSize]
    omega
  have declared : form.declaredLength opcode (field ++ payload ++ rest) = payload.length := by
    rw [List.append_assoc, announces.declares]
  have afterHeader : (field ++ payload ++ rest).drop form.lengthSize = payload ++ rest := by
    rw [List.append_assoc, List.drop_left' announces.fieldSize]
  have whole : (field ++ payload ++ rest).take (form.lengthSize + payload.length) =
      field ++ payload := by
    rw [List.take_left']
    rw [List.length_append, announces.fieldSize]
  have payloadLeft : ¬(payload ++ rest).length < payload.length := by
    simp only [List.length_append]
    omega
  simp only [ofPush, if_neg longEnough, declared, afterHeader, if_neg payloadLeft, whole,
    List.take_left, pushed]

/-- A push that is read has a header that announces its payload. -/
theorem exists_pushed_of_ofPush {filename : String} {offset : Nat} {form : PushForm}
    {opcode : UInt8} {rest : Bytes} {instruction : Instruction}
    (introduces : PushForm.ofOpcode? opcode = some form)
    (read : ofPush filename offset form opcode rest = .ok instruction) :
    ∃ field payload after, rest = field ++ payload ++ after ∧
      form.Announces payload.length opcode field ∧
      instruction = pushed form offset opcode field payload := by
  by_cases fieldCut : rest.length < form.lengthSize
  · simp only [ofPush, if_pos fieldCut, reduceCtorEq] at read
  by_cases payloadCut :
      (rest.drop form.lengthSize).length < form.declaredLength opcode rest
  · simp only [ofPush, if_neg fieldCut, if_pos payloadCut, reduceCtorEq] at read
  simp only [ofPush, if_neg fieldCut, if_neg payloadCut, Except.ok.injEq] at read
  subst read
  have payloadSize : ((rest.drop form.lengthSize).take
      (form.declaredLength opcode rest)).length = form.declaredLength opcode rest :=
    List.length_take_of_le (Nat.not_lt.mp payloadCut)
  refine ⟨rest.take form.lengthSize,
    (rest.drop form.lengthSize).take (form.declaredLength opcode rest),
    (rest.drop form.lengthSize).drop (form.declaredLength opcode rest), ?_, ?_, ?_⟩
  · rw [List.append_assoc, List.take_append_drop, List.take_append_drop]
  · rw [payloadSize]
    exact PushForm.announces_take introduces (Nat.not_lt.mp fieldCut)
  · rw [pushed, List.take_add, payloadSize]

end Instruction

end ScriptWorkbench
