/-!
# Bytes

Bytecode is a list of bytes. Length fields are numbers in little-endian order.
-/

namespace ScriptWorkbench

abbrev Bytes := List UInt8

namespace Bytes

def ofInt? (value : Int) : Option UInt8 :=
  if 0 ≤ value ∧ value ≤ 0xFF then some (UInt8.ofNat value.toNat) else none

/-- A number in `size` bytes, least significant first. -/
def littleEndian : (size value : Nat) → Bytes
  | 0, _ => []
  | size + 1, value => UInt8.ofNat value :: littleEndian size (value / 0x100)

def ofLittleEndian : Bytes → Nat
  | [] => 0
  | byte :: rest => byte.toNat + 0x100 * ofLittleEndian rest

example : littleEndian 2 0x0102 = [2, 1] := rfl

@[simp] theorem length_littleEndian (size value : Nat) :
    (littleEndian size value).length = size := by
  induction size generalizing value with
  | zero => rfl
  | succ size induction => simp [littleEndian, induction]

/-- A number is read back from its bytes when it fits into them. -/
theorem ofLittleEndian_littleEndian {size value : Nat} (fits : value < Nat.pow 0x100 size) :
    ofLittleEndian (littleEndian size value) = value := by
  induction size generalizing value with
  | zero => simp at fits; simp [littleEndian, ofLittleEndian, fits]
  | succ size induction =>
    have smaller : value / 0x100 < Nat.pow 0x100 size := by
      have split : Nat.pow 0x100 (size + 1) = Nat.pow 0x100 size * 0x100 := rfl
      omega
    simp only [littleEndian, ofLittleEndian, induction smaller, UInt8.toNat_ofNat']
    omega

end Bytes

end ScriptWorkbench
