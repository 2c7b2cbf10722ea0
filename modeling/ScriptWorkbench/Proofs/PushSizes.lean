import ScriptWorkbench.Proofs.Outcomes
import ScriptWorkbench.Proofs.PushReading

/-!
# Sizes of pushes

A header determines its form and the length it declares, and the length
determines the header. So every push of a payload is at least as long as the
minimal one, and no other push of the payload is as short.
-/

namespace ScriptWorkbench

namespace Bytes

theorem ofLittleEndian_lt (bytes : Bytes) :
    ofLittleEndian bytes < Nat.pow 0x100 bytes.length := by
  induction bytes with
  | nil => decide
  | cons byte bytes induction =>
      have split : Nat.pow 0x100 (bytes.length + 1) = Nat.pow 0x100 bytes.length * 0x100 := rfl
      have bound : byte.toNat < 256 := byte.toNat_lt
      simp only [ofLittleEndian, List.length_cons, split]
      omega

theorem littleEndian_ofLittleEndian (bytes : Bytes) :
    littleEndian bytes.length (ofLittleEndian bytes) = bytes := by
  induction bytes with
  | nil => rfl
  | cons byte bytes induction =>
      have bound : byte.toNat < 256 := byte.toNat_lt
      have first : UInt8.ofNat (byte.toNat + 0x100 * ofLittleEndian bytes) = byte := by
        apply UInt8.toNat_inj.mp
        rw [UInt8.toNat_ofNat']
        omega
      have others : (byte.toNat + 0x100 * ofLittleEndian bytes) / 0x100 =
          ofLittleEndian bytes := by omega
      simp only [List.length_cons, ofLittleEndian, littleEndian, first, others, induction]

end Bytes

namespace PushForm

/-- The longest payload that a form holds. -/
def capacity : PushForm → Nat
  | .inline => inlineLimit
  | .pushData1 => 0xFF
  | .pushData2 => 0xFFFF
  | .pushData4 => greatestLength

theorem capacity_le (form : PushForm) : form.capacity ≤ greatestLength := by
  cases form <;> decide

/-- No form with a shorter header holds a payload than its minimal one. -/
theorem lengthSize_minimal_le {form : PushForm} {length : Nat}
    (holds : length ≤ form.capacity) : (minimal length).lengthSize ≤ form.lengthSize := by
  unfold minimal
  split
  · exact Nat.zero_le _
  split
  · cases form with
    | inline => contradiction
    | pushData1 | pushData2 | pushData4 => decide
  split
  · cases form with
    | inline | pushData1 => contradiction
    | pushData2 | pushData4 => decide
  · cases form with
    | inline | pushData1 | pushData2 => contradiction
    | pushData4 => decide

theorem lengthSize_injective : Function.Injective lengthSize := by
  intro left right equal
  cases left <;> cases right <;> first | rfl | cases equal

namespace Announces

variable {form : PushForm} {length : Nat} {opcode : UInt8} {field : Bytes}

/-- The length that a header declares, found without anything behind it. -/
theorem declaredLength_field (announces : form.Announces length opcode field) :
    form.declaredLength opcode field = length := by
  simpa using announces.declares []

/-- An announced payload is within the capacity of its form, and the header is
the one that is written for it. -/
theorem length_le_and_header_eq (announces : form.Announces length opcode field) :
    length ≤ form.capacity ∧ opcode :: field = form.header length := by
  have introduces := announces.introduces
  have fieldSize := announces.fieldSize
  have declared := announces.declaredLength_field
  have fieldBound := Bytes.ofLittleEndian_lt field
  have written := Bytes.littleEndian_ofLittleEndian field
  unfold ofOpcode? at introduces
  split at introduces
  · next inlined =>
      cases introduces
      rw [Bool.and_eq_true, decide_eq_true_eq, decide_eq_true_eq] at inlined
      subst declared
      refine ⟨inlined.2, ?_⟩
      simp only [header, opcode?, declaredLength, UInt8.ofNat_toNat,
        List.length_eq_zero_iff.mp fieldSize]
  · have own : form.opcode? = some opcode := by
      simpa using List.find?_some introduces
    have wide : form.declaredLength opcode field = Bytes.ofLittleEndian field := by
      cases form with
      | inline => cases own
      | pushData1 | pushData2 | pushData4 =>
          simp only [declaredLength, ← fieldSize, List.take_length]
    rw [wide] at declared
    rw [declared, fieldSize] at fieldBound
    rw [declared, fieldSize] at written
    refine ⟨?_, ?_⟩
    · cases form with
      | inline => cases own
      | pushData1 | pushData2 | pushData4 => exact Nat.le_of_lt_succ fieldBound
    · rw [header, own, written]

/-- An inline push has a payload, so an empty payload comes with a length
field. -/
theorem lengthSize_pos_of_empty (announces : form.Announces 0 opcode field) :
    0 < form.lengthSize := by
  cases form with
  | inline =>
      have isPush := announces.introduces
      have empty : opcode.toNat = 0 := announces.declaredLength_field
      have noForm : ofOpcode? opcode = none := by
        rw [ofOpcode?_eq_none_iff]
        omega
      rw [noForm] at isPush
      cases isPush
  | pushData1 | pushData2 | pushData4 => decide

theorem length_le (announces : form.Announces length opcode field) :
    length ≤ greatestLength :=
  Nat.le_trans announces.length_le_and_header_eq.1 form.capacity_le

end Announces

theorem forLength_eq_ok_iff {form : PushForm} {length : Nat} :
    forLength length = .ok form ↔ length ≤ greatestLength ∧ minimal length = form := by
  have notNegative : ¬(length : Int) < 0 := by omega
  by_cases fits : length ≤ greatestLength
  · have notTooLong : ¬(greatestLength : Int) < length := by omega
    simp [forLength, notNegative, notTooLong, fits]
  · have tooLong : (greatestLength : Int) < length := by omega
    simp [forLength, notNegative, tooLong, fits]

theorem forLength_of_tooLong {length : Nat} (tooLong : greatestLength < length) :
    forLength length = .error (.tooLong length) := by
  have notNegative : ¬(length : Int) < 0 := by omega
  have exceeds : (greatestLength : Int) < length := by omega
  rw [forLength, if_neg notNegative, if_pos exceeds]

end PushForm

namespace Instruction

/-- Whether an instruction is no push, or the minimal push of a payload that is
not empty. -/
def IsMinimal (instruction : Instruction) : Prop :=
  ∀ push, instruction.push = some push →
    push.payload ≠ [] ∧ push.form = PushForm.minimal push.payload.length

instance (instruction : Instruction) : Decidable instruction.IsMinimal :=
  match equal : instruction.push with
  | none => isTrue fun push isPush => by rw [equal] at isPush; cases isPush
  | some push =>
    decidable_of_iff (push.payload ≠ [] ∧ push.form = PushForm.minimal push.payload.length) <| by
      simp [IsMinimal, equal]

end Instruction

end ScriptWorkbench
