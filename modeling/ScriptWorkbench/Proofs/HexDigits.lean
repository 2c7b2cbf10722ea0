import ScriptWorkbench.Hex

/-!
# Digits of bytes

Every byte is written with two digits in lower case, and the strict reader of digit
pairs reads it back. It reads digits in either letter case, two for each byte, and
nothing else.
-/

namespace ScriptWorkbench.Hex

/-- The digits of written hex. -/
def lowerDigits : List Char := "0123456789abcdef".toList

private theorem digitChar_reads : ∀ value ∈ List.range 16,
    Nat.digitChar value ∈ lowerDigits ∧ isDigit (Nat.digitChar value) = true ∧
      digitValue (Nat.digitChar value) = value := by
  decide

private theorem digitChar_of_lt {value : Nat} (small : value < 16) :
    Nat.digitChar value ∈ lowerDigits ∧ isDigit (Nat.digitChar value) = true ∧
      digitValue (Nat.digitChar value) = value :=
  digitChar_reads value (List.mem_range.mpr small)

/-- The two digits of a byte. -/
theorem div_lt_and_mod_lt (byte : UInt8) : byte.toNat / 16 < 16 ∧ byte.toNat % 16 < 16 := by
  have bound : byte.toNat < 256 := byte.toNat_lt
  omega

/-- The strict reader takes a written byte off the front. -/
theorem decode?_encodeByte_append (byte : UInt8) (rest : List Char) :
    decode? (encodeByte byte ++ rest) = (decode? rest).map (byte :: ·) := by
  rcases div_lt_and_mod_lt byte with ⟨highSmall, lowSmall⟩
  rcases digitChar_of_lt highSmall with ⟨_, highDigit, highValue⟩
  rcases digitChar_of_lt lowSmall with ⟨_, lowDigit, lowValue⟩
  have whole : UInt8.ofNat (16 * (byte.toNat / 16) + byte.toNat % 16) = byte := by
    rw [Nat.div_add_mod, UInt8.ofNat_toNat]
  simp only [encodeByte, List.cons_append, List.nil_append, decode?, highDigit, lowDigit,
    highValue, lowValue, whole, Bool.and_self, if_true]

theorem decode?_flatMap_encodeByte (bytes : Bytes) :
    decode? (bytes.flatMap encodeByte) = some bytes := by
  induction bytes with
  | nil => rfl
  | cons byte bytes induction =>
      rw [List.flatMap_cons, decode?_encodeByte_append, induction]
      rfl

@[simp] theorem toList_encode (bytes : Bytes) :
    (encode bytes).toList = bytes.flatMap encodeByte := by
  rw [encode, String.toList_ofList]

theorem encode_injective : Function.Injective encode := by
  intro left right equal
  have digits := congrArg String.toList equal
  rw [toList_encode, toList_encode] at digits
  have reads := congrArg decode? digits
  rw [decode?_flatMap_encodeByte, decode?_flatMap_encodeByte] at reads
  exact Option.some.inj reads

/-! ## Digits and bytes -/

/-- Whether digits write bytes, two for each byte, the one of the higher half
first. -/
inductive Spells : List Char → Bytes → Prop
  | nil : Spells [] []
  | cons {high low : Char} {byte : UInt8} {digits : List Char} {bytes : Bytes}
      (highDigit : isDigit high = true) (lowDigit : isDigit low = true)
      (value : byte.toNat = 16 * digitValue high + digitValue low)
      (rest : Spells digits bytes) : Spells (high :: low :: digits) (byte :: bytes)

theorem codes_of_isDigit {character : Char} (digit : isDigit character = true) :
    0x30 ≤ character.toNat ∧ character.toNat ≤ 0x39 ∨
      0x61 ≤ character.toNat ∧ character.toNat ≤ 0x66 ∨
      0x41 ≤ character.toNat ∧ character.toNat ≤ 0x46 := by
  simpa [isDigit, Char.le_def, UInt32.le_iff_toNat_le, or_assoc] using digit

theorem digitValue_lt {character : Char} (digit : isDigit character = true) :
    digitValue character < 16 := by
  have codes := codes_of_isDigit digit
  have decimal : character ≤ '9' ↔ character.toNat ≤ 0x39 := Iff.rfl
  have capital : character ≤ 'F' ↔ character.toNat ≤ 0x46 := Iff.rfl
  simp only [digitValue, decimal, capital]
  split
  · omega
  · split <;> omega

/-- The strict reader reads the bytes that digits write, and nothing else. -/
theorem decode?_eq_some_iff {digits : List Char} {bytes : Bytes} :
    decode? digits = some bytes ↔ Spells digits bytes := by
  constructor
  · intro read
    induction digits using decode?.induct generalizing bytes with
    | case1 =>
        cases read
        exact .nil
    | case2 => cases read
    | case3 high low rest isHex induction =>
        rcases Bool.and_eq_true_iff.mp isHex with ⟨highDigit, lowDigit⟩
        rw [decode?, if_pos isHex] at read
        rcases Option.map_eq_some_iff.mp read with ⟨others, readRest, rfl⟩
        apply Spells.cons highDigit lowDigit _ (induction readRest)
        have highSmall := digitValue_lt highDigit
        have lowSmall := digitValue_lt lowDigit
        rw [UInt8.toNat_ofNat']
        omega
    | case4 high low rest noHex =>
        rw [decode?, if_neg noHex] at read
        cases read
  · intro spelled
    induction spelled with
    | nil => rfl
    | cons highDigit lowDigit value rest induction =>
        rw [decode?, highDigit, lowDigit, Bool.and_self, if_pos rfl, induction, ← value,
          UInt8.ofNat_toNat]
        rfl

theorem Spells.length_eq {digits : List Char} {bytes : Bytes} (spelled : Spells digits bytes) :
    digits.length = 2 * bytes.length := by
  induction spelled with
  | nil => rfl
  | cons _ _ _ _ induction =>
      rw [List.length_cons, List.length_cons, List.length_cons, induction]
      omega

theorem Spells.eq_nil_iff {digits : List Char} {bytes : Bytes} (spelled : Spells digits bytes) :
    digits = [] ↔ bytes = [] := by
  cases spelled with
  | nil => simp
  | cons => simp

/-- An even number of digits writes bytes, and nothing else does. -/
theorem exists_spells_iff {digits : List Char} :
    (∃ bytes, Spells digits bytes) ↔
      digits.length % 2 = 0 ∧ ∀ character ∈ digits, isDigit character = true := by
  constructor
  · intro spells
    rcases spells with ⟨bytes, spelled⟩
    refine ⟨by rw [spelled.length_eq]; omega, ?_⟩
    induction spelled with
    | nil => simp
    | cons highDigit lowDigit _ _ induction =>
        exact List.forall_mem_cons.mpr ⟨highDigit, List.forall_mem_cons.mpr ⟨lowDigit, induction⟩⟩
  · intro shape
    induction digits using decode?.induct with
    | case1 => exact ⟨[], .nil⟩
    | case2 => simp at shape
    | case3 high low rest isHex induction =>
        rcases shape with ⟨even, isDigit⟩
        simp only [List.length_cons] at even
        rcases induction ⟨by omega, fun character member =>
          isDigit character (by simp [member])⟩ with ⟨bytes, spelled⟩
        rcases Bool.and_eq_true_iff.mp isHex with ⟨highDigit, lowDigit⟩
        have read := decode?_eq_some_iff.mpr spelled
        exact ⟨_, decode?_eq_some_iff.mp (by rw [decode?, if_pos isHex, read]; rfl)⟩
    | case4 high low rest noHex =>
        have highDigit := shape.2 high (by simp)
        have lowDigit := shape.2 low (by simp)
        simp [highDigit, lowDigit] at noHex

theorem mem_lowerDigits_of_mem_encode {bytes : Bytes} {character : Char}
    (member : character ∈ bytes.flatMap encodeByte) : character ∈ lowerDigits := by
  rcases List.mem_flatMap.mp member with ⟨byte, _, digit⟩
  rcases div_lt_and_mod_lt byte with ⟨highSmall, lowSmall⟩
  simp only [encodeByte, List.mem_cons, List.not_mem_nil, or_false] at digit
  rcases digit with rfl | rfl
  · exact (digitChar_of_lt highSmall).1
  · exact (digitChar_of_lt lowSmall).1

end ScriptWorkbench.Hex
