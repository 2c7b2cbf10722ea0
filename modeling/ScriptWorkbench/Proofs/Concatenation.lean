import ScriptWorkbench.Proofs.Refusals

/-!
# Bytecode behind bytecode

What stands in front of bytecode moves its instructions, and the place where it
is refused, but changes nothing else in them: no length and no count depends on
where in the program it is read.
-/

namespace ScriptWorkbench

/-! ## Moving instructions and errors -/

/-- The same instruction, `distance` bytes further on. -/
def Instruction.shift (distance : Nat) (instruction : Instruction) : Instruction :=
  { instruction with offset := instruction.offset + distance }

/-- Only the faults that are found in bytecode have an offset. -/
def CodecFault.shift (distance : Nat) : CodecFault → CodecFault
  | .unknownByte byte offset => .unknownByte byte (offset + distance)
  | .truncatedPush form offset declared available =>
    .truncatedPush form (offset + distance) declared available
  | fault => fault

def Location.shift (distance : Nat) (location : Location) : Location :=
  { location with offset := location.offset.map (· + (distance : Int)) }

def CodecError.shift (distance : Nat) (error : CodecError) : CodecError :=
  { error with
    fault := error.fault.shift distance
    location := error.location.map (Location.shift distance) }

theorem CodecError.shift_atOffset (distance : Nat) (fault : CodecFault) (filename : String)
    (offset : Nat) :
    (atOffset fault filename offset).shift distance =
      atOffset (fault.shift distance) filename (offset + distance) := by
  simp [atOffset, shift, Location.shift]

namespace Instruction

variable {table : OpcodeTable} {offset : Nat}

theorem size_shift (distance : Nat) (instruction : Instruction) :
    (instruction.shift distance).size = instruction.size :=
  rfl

theorem Readable.shift {instruction : Instruction} (readable : Readable table offset instruction)
    (distance : Nat) :
    Readable table (offset + distance) (instruction.shift distance) := by
  cases readable with
  | pushed announces => exact .pushed announces
  | plain noPush word => exact .plain noPush word

/-- Each instruction starts where the one before it ends, so they all move by
the same distance. -/
theorem Scans.shift {bytes : Bytes} {instructions : List Instruction}
    (scans : Scans table offset bytes instructions) (distance : Nat) :
    Scans table (offset + distance) bytes (instructions.map (Instruction.shift distance)) := by
  induction scans with
  | nil offset => exact .nil (offset + distance)
  | @cons offset rest instruction following readable _ induction =>
      rw [Nat.add_right_comm, ← size_shift distance instruction] at induction
      exact .cons (readable.shift distance) induction

theorem Unreadable.shift {opcode : UInt8} {rest : Bytes} {fault : CodecFault}
    (unreadable : Unreadable table offset opcode rest fault) (distance : Nat) :
    Unreadable table (offset + distance) opcode rest (fault.shift distance) := by
  cases unreadable with
  | unknownByte noPush noWord => exact .unknownByte noPush noWord
  | cutField introduces cut => exact .cutField introduces cut
  | cutPayload announces cut => exact .cutPayload announces cut

end Instruction

/-! ## Two pieces in a row -/

variable {table : OpcodeTable} {filename : String} {first second : Bytes}
  {instructions : List Instruction}

theorem disassembleWith_append (accepted : disassembleWith table filename first = .ok instructions)
    {following : List Instruction}
    (acceptedBehind : disassembleWith table filename second = .ok following) :
    disassembleWith table filename (first ++ second) =
      .ok (instructions ++ following.map (Instruction.shift first.length)) := by
  have scans := disassembleWith_eq_ok_iff.mp accepted
  have moved := (disassembleWith_eq_ok_iff.mp acceptedBehind).shift first.length
  rw [disassembleWith, Instruction.scan_append_of_scans scans, Instruction.scan_of_scans moved]
  rfl

/-- The second piece stops behind a front of its own that disassembles. With the
first piece before it, that front disassembles too, and reading stops there. -/
theorem disassembleWith_append_of_error
    (accepted : disassembleWith table filename first = .ok instructions) {error : CodecError}
    (refused : disassembleWith table filename second = .error error) :
    disassembleWith table filename (first ++ second) = .error (error.shift first.length) := by
  rcases disassembleWith_eq_error_iff.mp refused with
    ⟨before, opcode, rest, following, fault, rfl, acceptedBefore, unreadable, rfl⟩
  have place : before.length + first.length = (first ++ before).length := by
    rw [List.length_append, Nat.add_comm]
  have moved := unreadable.shift first.length
  rw [place] at moved
  rw [CodecError.shift_atOffset, place]
  exact disassembleWith_eq_error_iff.mpr ⟨first ++ before, opcode, rest, _, _,
    (List.append_assoc _ _ _).symm, disassembleWith_append accepted acceptedBefore, moved, rfl⟩

/-- Behind bytecode that disassembles, other bytecode disassembles as it does
alone, with its instructions further on, and is refused as it is alone, at a
place further on. -/
theorem disassembles_piecewise
    (accepted : disassembleWith table filename first = .ok instructions) :
    (∀ following, disassembleWith table filename second = .ok following →
      disassembleWith table filename (first ++ second) =
        .ok (instructions ++ following.map (Instruction.shift first.length))) ∧
    (∀ error, disassembleWith table filename second = .error error →
      disassembleWith table filename (first ++ second) = .error (error.shift first.length)) := by
  constructor
  · intro following acceptedBehind
    exact disassembleWith_append accepted acceptedBehind
  · intro error refused
    exact disassembleWith_append_of_error accepted refused

/-- Behind a push of two bytes, a push of which one byte is missing. -/
theorem disassembles_piecewise_of_cut_payload :
    let error : CodecError :=
      { fault := .truncatedPush .inline 3 2 1
        location := some { filename := "<hex>", offset := some 3 } }
    disassembleWith .standard "<hex>" ([0x02, 0x76, 0xFF] ++ [0x02, 0x76]) = .error error := by
  intro error
  have accepted : disassembleWith .standard "<hex>" [0x02, 0x76, 0xFF] =
      .ok [{ offset := 0, opcode := 0x02, token := "<76ff>", size := 3, bytes := [0x02, 0x76, 0xFF],
             push := some { form := .inline, payload := [0x76, 0xFF] } }] := by rfl
  have refused : disassembleWith .standard "<hex>" [0x02, 0x76] =
      .error (.atOffset (.truncatedPush .inline 0 2 1) "<hex>" 0) := by rfl
  exact (disassembles_piecewise accepted).2 _ refused

end ScriptWorkbench
