import ScriptWorkbench.Bytes

/-!
# Small integers

The integers from -1 to 16 have opcodes that push them. Script text writes
them as plain numerals.
-/

namespace ScriptWorkbench

namespace SmallInteger

/-- The opcode of the empty value, which stands for zero. -/
def zeroOpcode : UInt8 := 0x00

def minusOneOpcode : UInt8 := 0x4F

/-- The opcode of one. Those up to sixteen follow it. -/
def oneOpcode : UInt8 := 0x51

def numerals : List (String × UInt8) :=
  [("-1", minusOneOpcode), ("0", zeroOpcode), ("1", 0x51), ("2", 0x52), ("3", 0x53), ("4", 0x54),
    ("5", 0x55), ("6", 0x56), ("7", 0x57), ("8", 0x58), ("9", 0x59), ("10", 0x5A), ("11", 0x5B),
    ("12", 0x5C), ("13", 0x5D), ("14", 0x5E), ("15", 0x5F), ("16", 0x60)]

/-- The opcode of a numeral. Leading zeros and a plus sign are not accepted. -/
def opcode? (word : String) : Option UInt8 := numerals.lookup word

def numeral? (opcode : UInt8) : Option String :=
  (numerals.find? fun entry => entry.2 == opcode).map Prod.fst

/-- The opcode of a positive numeral counts on from that of one. -/
theorem opcode?_toString {number : Nat} (positive : 1 ≤ number) (small : number ≤ 16) :
    opcode? (toString number) = some (oneOpcode + UInt8.ofNat (number - 1)) := by
  have all : ∀ number ∈ List.range' 1 16,
      opcode? (toString number) = some (oneOpcode + UInt8.ofNat (number - 1)) := by decide
  exact all number (List.mem_range'_1.mpr ⟨positive, by omega⟩)

/-- Reading an opcode and reading its numeral are inverse to each other. -/
theorem opcode?_eq_some_iff {word : String} {opcode : UInt8} :
    opcode? word = some opcode ↔ numeral? opcode = some word := by
  constructor
  · intro found
    have all : ∀ entry ∈ numerals, numeral? entry.2 = some entry.1 := by decide
    obtain ⟨key, value, member, rfl, rfl⟩ :
        ∃ key value, (key, value) ∈ numerals ∧ key = word ∧ value = opcode := by
      obtain ⟨before, after, split, _⟩ := List.lookup_eq_some_iff.mp found
      exact ⟨word, opcode, by simp [split], rfl, rfl⟩
    exact all _ member
  · intro found
    have all : ∀ entry ∈ numerals, opcode? entry.1 = some entry.2 := by decide
    obtain ⟨entry, located, rfl⟩ := Option.map_eq_some_iff.mp found
    have sameByte : entry.2 = opcode := by
      simpa using List.find?_some located
    exact sameByte ▸ all entry (List.mem_of_find?_eq_some located)

end SmallInteger

end ScriptWorkbench
