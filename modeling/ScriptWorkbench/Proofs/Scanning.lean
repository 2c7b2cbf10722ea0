import ScriptWorkbench.Proofs.Outcomes
import ScriptWorkbench.Proofs.PushReading

/-!
# Scanning bytecode

The scanner goes through bytecode one byte at a time and skips the bytes of
each instruction that it has read. `Scans` says the same in whole
instructions: one is read off the front, and scanning goes on behind it.
-/

namespace ScriptWorkbench.Instruction

/-- An instruction whose only byte is its opcode. -/
def plain (offset : Nat) (opcode : UInt8) (token : String) : Instruction where
  offset
  opcode
  token
  size := 1
  bytes := [opcode]
  push := none

/-- What can be read: a push, or an opcode that is none and has a word. -/
inductive Readable (table : OpcodeTable) (offset : Nat) : Instruction → Prop
  | pushed {form : PushForm} {opcode : UInt8} {field payload : Bytes}
      (announces : form.Announces payload.length opcode field) :
      Readable table offset (pushed form offset opcode field payload)
  | plain {opcode : UInt8} {token : String} (noPush : PushForm.ofOpcode? opcode = none)
      (word : opcodeToken? table opcode = some token) :
      Readable table offset (plain offset opcode token)

variable {table : OpcodeTable} {filename : String}

namespace Readable

variable {offset : Nat} {instruction : Instruction}

theorem bytes_eq (readable : Readable table offset instruction) :
    instruction.bytes = instruction.opcode :: instruction.bytes.tail := by
  cases readable <;> rfl

/-- An instruction is as long as its size says. -/
theorem length_bytes (readable : Readable table offset instruction) :
    instruction.bytes.length = instruction.size := by
  cases readable with
  | pushed announces => exact length_bytes_pushed announces offset
  | plain => rfl

theorem size_pos (readable : Readable table offset instruction) : 0 < instruction.size := by
  rw [← readable.length_bytes, readable.bytes_eq]
  exact Nat.succ_pos _

theorem length_bytes_append (readable : Readable table offset instruction) (rest : Bytes) :
    (instruction.bytes ++ rest).length = instruction.size + rest.length := by
  rw [List.length_append, readable.length_bytes]

/-- What can be read is read, whatever follows it. -/
theorem ofBytes_append (readable : Readable table offset instruction) (rest : Bytes) :
    ofBytes table filename offset instruction.opcode (instruction.bytes.tail ++ rest) =
      .ok instruction := by
  cases readable with
  | pushed announces =>
      simp only [ofBytes, Instruction.pushed, announces.introduces, List.tail_cons]
      exact ofPush_append announces filename offset rest
  | plain noPush word =>
      simp only [ofBytes, Instruction.plain, noPush, word]

end Readable

/-- What is read can be read, and stands at the front. -/
theorem readable_of_ofBytes {offset : Nat} {opcode : UInt8} {rest : Bytes}
    {instruction : Instruction}
    (read : ofBytes table filename offset opcode rest = .ok instruction) :
    Readable table offset instruction ∧
      ∃ after, opcode :: rest = instruction.bytes ++ after := by
  cases form : PushForm.ofOpcode? opcode with
  | some form' =>
      simp only [ofBytes, form] at read
      rcases exists_pushed_of_ofPush form read with ⟨field, payload, after, rfl, announces, rfl⟩
      exact ⟨.pushed announces, after, rfl⟩
  | none =>
      simp only [ofBytes, form] at read
      cases word : opcodeToken? table opcode with
      | none => simp only [word, reduceCtorEq] at read
      | some token =>
          simp only [word, Except.ok.injEq] at read
          subst read
          exact ⟨.plain form word, rest, rfl⟩

/-! ## Scanning by instructions -/

/-- Instructions tile bytecode that starts at the given offset. -/
inductive Scans (table : OpcodeTable) : Nat → Bytes → List Instruction → Prop
  | nil (offset : Nat) : Scans table offset [] []
  | cons {offset : Nat} {rest : Bytes} {instruction : Instruction}
      {following : List Instruction} (readable : Readable table offset instruction)
      (scans : Scans table (offset + instruction.size) rest following) :
      Scans table offset (instruction.bytes ++ rest) (instruction :: following)

/-- Skipping goes on at the first byte that does not belong to the instruction
that is read already. -/
theorem scan_pending (offset pending : Nat) (bytes : Bytes) :
    scan table filename offset pending bytes =
      scan table filename (offset + pending) 0 (bytes.drop pending) := by
  induction bytes generalizing offset pending with
  | nil => cases pending <;> rfl
  | cons opcode rest induction =>
      cases pending with
      | zero => rfl
      | succ pending =>
          rw [List.drop_succ_cons, ← Nat.add_assoc, Nat.add_right_comm]
          exact induction (offset + 1) pending

theorem scan_cons_of_error {offset : Nat} {opcode : UInt8} {rest : Bytes} {error : CodecError}
    (refused : ofBytes table filename offset opcode rest = .error error) :
    scan table filename offset 0 (opcode :: rest) = .error error := by
  simp only [scan, refused]

theorem scan_cons_of_ok {offset : Nat} {opcode : UInt8} {rest : Bytes}
    {instruction : Instruction}
    (read : ofBytes table filename offset opcode rest = .ok instruction) :
    scan table filename offset 0 (opcode :: rest) =
      (scan table filename (offset + 1) (instruction.size - 1) rest).map
        (instruction :: ·) := by
  simp only [scan, read]
  cases scan table filename (offset + 1) (instruction.size - 1) rest <;> rfl

/-- Scanning takes a readable instruction off the front and goes on behind
it. -/
theorem scan_append {offset : Nat} {instruction : Instruction}
    (readable : Readable table offset instruction) (rest : Bytes) :
    scan table filename offset 0 (instruction.bytes ++ rest) =
      (scan table filename (offset + instruction.size) 0 rest).map (instruction :: ·) := by
  have behind : scan table filename (offset + 1) (instruction.size - 1)
      (instruction.bytes.tail ++ rest) =
        scan table filename (offset + instruction.size) 0 rest := by
    have positive := readable.size_pos
    rw [scan_pending, List.drop_left' (by rw [List.length_tail, readable.length_bytes])]
    congr 1
    omega
  rw [readable.bytes_eq, List.cons_append, scan_cons_of_ok (readable.ofBytes_append rest),
    behind]

/-- Scanning goes on behind bytecode that instructions tile. -/
theorem scan_append_of_scans {offset : Nat} {bytes : Bytes} {instructions : List Instruction}
    (scans : Scans table offset bytes instructions) (rest : Bytes) :
    scan table filename offset 0 (bytes ++ rest) =
      (scan table filename (offset + bytes.length) 0 rest).map (instructions ++ ·) := by
  induction scans with
  | nil offset => cases behind : scan table filename offset 0 rest <;> simp [behind, Except.map]
  | @cons offset middle instruction following readable _ induction =>
      rw [List.append_assoc, scan_append readable, induction, Nat.add_assoc,
        ← readable.length_bytes_append]
      cases scan table filename (offset + (instruction.bytes ++ middle).length) 0 rest <;> rfl

theorem scan_of_scans {offset : Nat} {bytes : Bytes} {instructions : List Instruction}
    (scans : Scans table offset bytes instructions) :
    scan table filename offset 0 bytes = .ok instructions := by
  induction scans with
  | nil => rfl
  | cons readable _ induction =>
      rw [scan_append readable, induction]
      rfl

/-- What holds of no bytes, of bytes that start with nothing readable, and in
front of any bytes that it holds of, holds of all bytes. Each instruction
shortens what is left, so the induction is on the number of bytes. -/
@[elab_as_elim]
theorem scan_induction (table : OpcodeTable) (filename : String) {motive : Nat → Bytes → Prop}
    (nil : ∀ offset, motive offset [])
    (refused : ∀ offset opcode rest error,
      ofBytes table filename offset opcode rest = .error error → motive offset (opcode :: rest))
    (read : ∀ offset instruction rest, Readable table offset instruction →
      motive (offset + instruction.size) rest → motive offset (instruction.bytes ++ rest))
    (offset : Nat) (bytes : Bytes) : motive offset bytes := by
  generalize count : bytes.length = length
  induction length using Nat.strongRecOn generalizing offset bytes with
  | ind length induction =>
      cases bytes with
      | nil => exact nil offset
      | cons opcode rest =>
          cases outcome : ofBytes table filename offset opcode rest with
          | error error => exact refused offset opcode rest error outcome
          | ok instruction =>
              rcases readable_of_ofBytes outcome with ⟨readable, after, split⟩
              have shorter : after.length < length := by
                have positive := readable.size_pos
                have lengths := congrArg List.length split
                rw [readable.length_bytes_append] at lengths
                omega
              rw [split]
              exact read offset instruction after readable (induction _ shorter _ _ rfl)

theorem scans_of_scan {offset : Nat} {bytes : Bytes} {instructions : List Instruction}
    (scanned : scan table filename offset 0 bytes = .ok instructions) :
    Scans table offset bytes instructions := by
  induction offset, bytes using scan_induction table filename generalizing instructions with
  | nil offset =>
      cases scanned
      exact .nil offset
  | refused offset opcode rest error stopped =>
      simp only [scan_cons_of_error stopped, reduceCtorEq] at scanned
  | read offset instruction rest readable induction =>
      rw [scan_append readable] at scanned
      rcases map_eq_ok_iff.mp scanned with ⟨following, scannedAfter, rfl⟩
      exact .cons readable (induction scannedAfter)

theorem scan_eq_ok_iff {offset : Nat} {bytes : Bytes} {instructions : List Instruction} :
    scan table filename offset 0 bytes = .ok instructions ↔
      Scans table offset bytes instructions :=
  ⟨scans_of_scan, scan_of_scans⟩

end ScriptWorkbench.Instruction

namespace ScriptWorkbench

/-- Disassembling is scanning from the first byte on. -/
theorem disassembleWith_eq_ok_iff {table : OpcodeTable} {filename : String} {bytes : Bytes}
    {instructions : List Instruction} :
    disassembleWith table filename bytes = .ok instructions ↔
      Instruction.Scans table 0 bytes instructions :=
  Instruction.scan_eq_ok_iff

end ScriptWorkbench
