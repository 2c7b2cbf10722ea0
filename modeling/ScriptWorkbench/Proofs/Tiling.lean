import Mathlib.Logic.Relation
import Mathlib.Order.WellFounded
import ScriptWorkbench.Proofs.Refusals

/-!
# Instructions tile bytecode

Bytecode is read at a cursor that jumps over each instruction. No instruction
is empty, so reading comes to an end, and what is read covers the bytecode
without a gap or an overlap.
-/

namespace ScriptWorkbench

/-! ## Headers -/

/-- Whether a header declares a length: an inline one by its only byte, any
other by the little-endian number behind its opcode. -/
def PushForm.HeaderDeclares (form : PushForm) (length : Nat) (header : Bytes) : Prop :=
  match form.opcode? with
  | none => ∃ byte : UInt8, header = [byte] ∧ byte.toNat = length
  | some opcode =>
    ∃ field, header = opcode :: field ∧ field.length = form.lengthSize ∧
      Bytes.ofLittleEndian field = length

theorem PushForm.Announces.headerDeclares {form : PushForm} {length : Nat} {opcode : UInt8}
    {field : Bytes} (announces : form.Announces length opcode field) :
    form.HeaderDeclares length (opcode :: field) := by
  have fieldSize := announces.fieldSize
  have declared := announces.declaredLength_field
  have written := announces.length_le_and_header_eq.2
  cases form with
  | inline => exact ⟨opcode, by rw [List.length_eq_zero_iff.mp fieldSize], declared⟩
  | pushData1 | pushData2 | pushData4 =>
      rw [declaredLength, ← fieldSize, List.take_length] at declared
      · exact ⟨field, by rw [(List.cons.inj written).1], fieldSize, declared⟩
      · exact PushForm.noConfusion

namespace Instruction

variable {table : OpcodeTable} {filename : String} {offset : Nat} {bytes : Bytes}
  {instruction : Instruction} {instructions : List Instruction}

/-! ## Pieces -/

/-- At every offset inside the bytecode stands an opcode. -/
theorem exists_opcode {offset : Nat} (inside : offset < bytes.length) :
    ∃ before opcode rest, bytes = before ++ opcode :: rest ∧ offset = before.length := by
  refine ⟨bytes.take offset, bytes[offset], bytes.drop (offset + 1), ?_, ?_⟩
  · rw [List.getElem_cons_drop, List.take_append_drop]
  · rw [List.length_take_of_le (Nat.le_of_lt inside)]

/-- Behind any bytes, reading by itself is reading what follows them. -/
theorem disassembleAt_length (before : Bytes) (opcode : UInt8) (rest : Bytes) :
    disassembleAt table filename (before ++ opcode :: rest) before.length =
      (ofBytes table filename before.length opcode rest).mapError .codec := by
  have notNegative : ¬(before.length : Int) < 0 := by omega
  simp only [disassembleAt, if_neg notNegative, Int.toNat_natCast, List.drop_left]
  cases ofBytes table filename before.length opcode rest <;> rfl

/-- Nothing is read outside the bytecode. -/
theorem inside_of_disassembleAt {offset : Int}
    (read : disassembleAt table filename bytes offset = .ok instruction) :
    0 ≤ offset ∧ offset.toNat < bytes.length := by
  by_cases negative : offset < 0
  · simp only [disassembleAt, if_pos negative, reduceCtorEq] at read
  · refine ⟨Int.not_lt.mp negative, ?_⟩
    by_contra behind
    have nothing := List.drop_eq_nil_of_le (Nat.not_lt.mp behind)
    simp only [disassembleAt, if_neg negative, nothing, reduceCtorEq] at read

/-- What is read by itself can be read, and stands behind as many bytes as its
offset says. -/
theorem exists_readable_of_disassembleAt {offset : Int}
    (read : disassembleAt table filename bytes offset = .ok instruction) :
    ∃ before after : Bytes, bytes = before ++ (instruction.bytes ++ after) ∧
      offset = (before.length : Int) ∧ Readable table before.length instruction := by
  have inside := inside_of_disassembleAt read
  rcases exists_opcode inside.2 with ⟨before, opcode, rest, rfl, distance⟩
  have place : offset = (before.length : Int) := by omega
  rw [place, disassembleAt_length] at read
  cases outcome : ofBytes table filename before.length opcode rest with
  | error error =>
      rw [outcome] at read
      cases read
  | ok decoded =>
      rw [outcome] at read
      cases read
      rcases readable_of_ofBytes outcome with ⟨readable, after, front⟩
      exact ⟨before, after, by rw [front], place, readable⟩

/-- Whether an instruction is a piece of bytecode that is read by itself where
it starts, and consists of its opcode alone or of a header and the payload that
the header declares. -/
structure IsPiece (table : OpcodeTable) (filename : String) (bytes : Bytes)
    (instruction : Instruction) : Prop where
  size_pos : 1 ≤ instruction.size
  size_eq : instruction.size = instruction.bytes.length
  read : disassembleAt table filename bytes instruction.offset = .ok instruction
  single : instruction.push = none → instruction.bytes = [instruction.opcode]
  push : ∀ push, instruction.push = some push →
    ∃ header, instruction.bytes = header ++ push.payload ∧
      header.length = push.form.headerSize ∧
      push.form.HeaderDeclares push.payload.length header

namespace Readable

theorem offset_eq (readable : Readable table offset instruction) :
    instruction.offset = offset := by
  cases readable <;> rfl

theorem bytes_of_push_eq_none (readable : Readable table offset instruction)
    (noPush : instruction.push = none) : instruction.bytes = [instruction.opcode] := by
  cases readable with
  | pushed announces => cases noPush
  | plain => rfl

theorem exists_header (readable : Readable table offset instruction) {push : Push}
    (isPush : instruction.push = some push) :
    ∃ header, instruction.bytes = header ++ push.payload ∧
      header.length = push.form.headerSize ∧
      push.form.HeaderDeclares push.payload.length header := by
  cases readable with
  | @pushed form opcode field payload announces =>
      cases isPush
      refine ⟨opcode :: field, rfl, ?_, announces.headerDeclares⟩
      rw [List.length_cons, announces.fieldSize, PushForm.headerSize, Nat.add_comm]
  | plain => cases isPush

/-- Behind any bytes, an instruction is read by itself. -/
theorem disassembleAt_eq {before : Bytes}
    (readable : Readable table before.length instruction) (after : Bytes) :
    disassembleAt table filename (before ++ (instruction.bytes ++ after)) before.length =
      .ok instruction := by
  have atCursor : before ++ (instruction.bytes ++ after) =
      before ++ instruction.opcode :: (instruction.bytes.tail ++ after) := by
    conv_lhs => rw [readable.bytes_eq, List.cons_append]
  rw [atCursor, disassembleAt_length, readable.ofBytes_append after]
  rfl

theorem isPiece {before : Bytes} (readable : Readable table before.length instruction)
    (after : Bytes) :
    IsPiece table filename (before ++ (instruction.bytes ++ after)) instruction where
  size_pos := readable.size_pos
  size_eq := readable.length_bytes.symm
  read := by
    rw [readable.offset_eq]
    exact readable.disassembleAt_eq after
  single := readable.bytes_of_push_eq_none
  push _ := readable.exists_header

end Readable

/-! ## Pieces end to end -/

/-- Whether an instruction starts where another one ends. -/
def Adjoins (earlier later : Instruction) : Prop :=
  later.offset = earlier.offset + earlier.size

/-- Whether instructions cover bytecode from its first byte to its last one. -/
structure Tiles (table : OpcodeTable) (filename : String) (bytes : Bytes)
    (instructions : List Instruction) : Prop where
  first : ∀ instruction, instructions.head? = some instruction → instruction.offset = 0
  next : instructions.IsChain Adjoins
  last : ∀ instruction, instructions.getLast? = some instruction →
    instruction.offset + instruction.size = bytes.length
  whole : instructions.flatMap Instruction.bytes = bytes
  piece : ∀ instruction ∈ instructions, IsPiece table filename bytes instruction

namespace Scans

theorem offset_of_head? (scans : Scans table offset bytes instructions)
    (found : instructions.head? = some instruction) : instruction.offset = offset := by
  cases scans with
  | nil => cases found
  | cons readable _ =>
      cases found
      exact readable.offset_eq

theorem isChain (scans : Scans table offset bytes instructions) :
    instructions.IsChain Adjoins := by
  induction scans with
  | nil => exact .nil
  | @cons offset rest instruction following readable scans induction =>
      cases following with
      | nil => exact .singleton instruction
      | cons next following =>
          have adjoins : Adjoins instruction next := by
            rw [Adjoins, readable.offset_eq]
            exact scans.offset_of_head? rfl
          exact .cons_cons adjoins induction

theorem flatMap_bytes (scans : Scans table offset bytes instructions) :
    instructions.flatMap Instruction.bytes = bytes := by
  induction scans with
  | nil => rfl
  | cons _ _ induction => rw [List.flatMap_cons, induction]

/-- One more instruction is read behind what was read before. -/
theorem concat (scans : Scans table offset bytes instructions)
    (readable : Readable table (offset + bytes.length) instruction) :
    Scans table offset (bytes ++ instruction.bytes) (instructions ++ [instruction]) := by
  induction scans with
  | nil offset =>
      have alone : Scans table offset (instruction.bytes ++ []) [instruction] :=
        .cons readable (.nil _)
      rwa [List.append_nil] at alone
  | @cons offset rest first following readableFirst _ induction =>
      rw [readableFirst.length_bytes_append, ← Nat.add_assoc] at readable
      rw [List.append_assoc]
      exact .cons readableFirst (induction readable)

/-- An instruction stands between what was read before it and what is read
behind it. -/
theorem exists_split {earlier later : List Instruction}
    (scans : Scans table offset bytes (earlier ++ instruction :: later)) :
    ∃ before after, bytes = before ++ (instruction.bytes ++ after) ∧
      Readable table (offset + before.length) instruction ∧
      Scans table (offset + before.length + instruction.size) after later := by
  induction earlier generalizing offset bytes with
  | nil =>
      cases scans with
      | cons readable scans => exact ⟨[], _, rfl, readable, scans⟩
  | cons first earlier induction =>
      cases scans with
      | cons readableFirst scans =>
          rcases induction scans with ⟨before, after, rfl, readable, behind⟩
          rw [Nat.add_assoc offset, ← readableFirst.length_bytes_append] at readable behind
          exact ⟨first.bytes ++ before, after, (List.append_assoc _ _ _).symm, readable, behind⟩

theorem end_of_getLast? (scans : Scans table offset bytes instructions)
    (found : instructions.getLast? = some instruction) :
    instruction.offset + instruction.size = offset + bytes.length := by
  rcases List.getLast?_eq_some_iff.mp found with ⟨earlier, rfl⟩
  rcases scans.exists_split with ⟨before, after, rfl, readable, behind⟩
  cases behind
  rw [readable.offset_eq, List.append_nil, List.length_append, readable.length_bytes,
    Nat.add_assoc]

theorem tiles (scans : Scans table 0 bytes instructions) (filename : String) :
    Tiles table filename bytes instructions where
  first _ found := scans.offset_of_head? found
  next := scans.isChain
  last _ found := by
    rw [scans.end_of_getLast? found, Nat.zero_add]
  whole := scans.flatMap_bytes
  piece instruction member := by
    rcases List.append_of_mem member with ⟨earlier, later, rfl⟩
    rcases scans.exists_split with ⟨before, after, rfl, readable, _⟩
    rw [Nat.zero_add] at readable
    exact readable.isPiece after

end Scans

end Instruction

/-! ## The loop -/

/-- How far reading has come: the cursor, and the instructions before it. -/
structure Reading where
  cursor : Nat
  instructions : List Instruction

namespace Reading

/-- Nothing is read yet. -/
def start : Reading := ⟨0, []⟩

/-- What reading an instruction leads to. -/
def read (reading : Reading) (instruction : Instruction) : Reading where
  cursor := reading.cursor + instruction.size
  instructions := reading.instructions ++ [instruction]

/-- One turn: inside the bytecode, the instruction at the cursor is read by
itself. -/
inductive Turn (table : OpcodeTable) (filename : String) (bytes : Bytes) (reading : Reading) :
    Reading → Prop
  | turn {instruction : Instruction} (inside : reading.cursor < bytes.length)
      (found : disassembleAt table filename bytes reading.cursor = .ok instruction) :
      Turn table filename bytes reading (reading.read instruction)

/-- How reading ends: behind the last byte, or with what is wrong at the
cursor. -/
inductive EndsWith (table : OpcodeTable) (filename : String) (bytes : Bytes)
    (reading : Reading) : Except CodecError (List Instruction) → Prop
  | finished (behind : bytes.length ≤ reading.cursor) :
      EndsWith table filename bytes reading (.ok reading.instructions)
  | refused {error : CodecError} (inside : reading.cursor < bytes.length)
      (stopped : disassembleAt table filename bytes reading.cursor = .error (.codec error)) :
      EndsWith table filename bytes reading (.error error)

variable {table : OpcodeTable} {filename : String} {bytes : Bytes} {reading later : Reading}

/-- What a turn reads stands at the cursor. -/
theorem Turn.exists_readable (turn : Turn table filename bytes reading later) :
    ∃ before instruction after, bytes = before ++ (instruction.bytes ++ after) ∧
      reading.cursor = before.length ∧ Instruction.Readable table before.length instruction ∧
      later = reading.read instruction := by
  cases turn with
  | @turn instruction inside found =>
      rcases Instruction.exists_readable_of_disassembleAt found with
        ⟨before, after, split, cursor, readable⟩
      exact ⟨before, instruction, after, split, Int.ofNat_inj.mp cursor, readable, rfl⟩

/-! ### What every turn keeps -/

/-- The invariant: what was read are the instructions of the bytes before the
cursor. -/
structure Covers (table : OpcodeTable) (bytes : Bytes) (reading : Reading) : Prop where
  inside : reading.cursor ≤ bytes.length
  scans : Instruction.Scans table 0 (bytes.take reading.cursor) reading.instructions

theorem covers_start : start.Covers table bytes where
  inside := Nat.zero_le _
  scans := .nil 0

theorem Covers.turn (covers : reading.Covers table bytes)
    (turn : Turn table filename bytes reading later) : later.Covers table bytes := by
  rcases turn.exists_readable with ⟨before, instruction, after, rfl, cursor, readable, rfl⟩
  have scans := covers.scans
  rw [cursor, List.take_left] at scans
  have further : (reading.read instruction).cursor = (before ++ instruction.bytes).length := by
    rw [read, cursor, List.length_append, readable.length_bytes]
  rw [← List.append_assoc]
  constructor
  · rw [further]
    exact (List.sublist_append_left _ _).length_le
  · rw [further, List.take_left]
    exact scans.concat (by rwa [Nat.zero_add])

theorem covers_of_turns
    (turns : Relation.ReflTransGen (Turn table filename bytes) start reading) :
    reading.Covers table bytes := by
  induction turns with
  | refl => exact covers_start
  | tail _ turn induction => exact induction.turn turn

/-! ### Reading comes to an end -/

/-- Every turn leaves fewer bytes behind the cursor. -/
theorem wellFounded_turn (table : OpcodeTable) (filename : String) (bytes : Bytes) :
    WellFounded fun later reading => Turn table filename bytes reading later := by
  refine Subrelation.wf (fun {later reading} turn => ?_)
    (measure fun reading : Reading => bytes.length - reading.cursor).wf
  rcases turn.exists_readable with ⟨before, instruction, after, rfl, cursor, readable, rfl⟩
  have positive := readable.size_pos
  change (before ++ (instruction.bytes ++ after)).length - (reading.cursor + instruction.size) <
    (before ++ (instruction.bytes ++ after)).length - reading.cursor
  rw [List.length_append, readable.length_bytes_append, cursor]
  omega

/-- With all bytes before the cursor covered, there is a turn, or reading ends
as disassembling does. -/
theorem Covers.turns_or_ends (covers : reading.Covers table bytes) (filename : String) :
    (∃ later, Turn table filename bytes reading later) ∨
      reading.EndsWith table filename bytes (disassembleWith table filename bytes) := by
  rcases covers with ⟨inside, scans⟩
  by_cases behind : bytes.length ≤ reading.cursor
  · rw [List.take_of_length_le behind] at scans
    rw [disassembleWith_eq_ok_iff.mpr scans]
    exact .inr (.finished behind)
  · have notBehind := Nat.lt_of_not_le behind
    rcases Instruction.exists_opcode notBehind with ⟨before, opcode, rest, rfl, cursor⟩
    have found : disassembleAt table filename (before ++ opcode :: rest) before.length = _ :=
      Instruction.disassembleAt_length before opcode rest
    rw [← cursor] at found
    rw [cursor, List.take_left] at scans
    have accepted : disassembleWith table filename before = .ok reading.instructions :=
      disassembleWith_eq_ok_iff.mpr scans
    cases outcome : Instruction.ofBytes table filename reading.cursor opcode rest with
    | ok instruction =>
        rw [outcome] at found
        exact .inl ⟨_, .turn notBehind found⟩
    | error error =>
        rw [outcome] at found
        rcases Instruction.exists_unreadable_of_ofBytes outcome with ⟨fault, unreadable, same⟩
        rw [cursor] at unreadable same
        rw [disassembleWith_eq_error_iff.mpr ⟨before, opcode, rest, reading.instructions, fault,
          rfl, accepted, unreadable, same⟩]
        exact .inr (.refused notBehind found)

/-- Reading from the first byte on ends as disassembling does. -/
theorem exists_endsWith (table : OpcodeTable) (filename : String) (bytes : Bytes) :
    ∃ last, Relation.ReflTransGen (Turn table filename bytes) start last ∧
      last.EndsWith table filename bytes (disassembleWith table filename bytes) := by
  rcases (wellFounded_turn table filename bytes).has_min
      {reading | Relation.ReflTransGen (Turn table filename bytes) start reading}
      ⟨start, .refl⟩ with ⟨last, turns, noLater⟩
  refine ⟨last, turns, ?_⟩
  rcases (covers_of_turns turns).turns_or_ends filename with ⟨later, turn⟩ | ends
  · exact absurd turn (noLater later (turns.tail turn))
  · exact ends

end Reading

/-- The instructions that bytecode disassembles to tile it: they start at its
first byte, adjoin each other and end at its last byte, and each of them is what
is read where it starts, a header with the payload that the header declares or
an opcode alone. Reading at a cursor that jumps over each instruction makes no
endless run of turns, and from the first byte on it ends as disassembling does. -/
theorem instructions_tile_bytecode (table : OpcodeTable) (filename : String) (bytes : Bytes) :
    (∀ instructions, disassembleWith table filename bytes = .ok instructions →
      Instruction.Tiles table filename bytes instructions) ∧
    (WellFounded fun later reading => Reading.Turn table filename bytes reading later) ∧
    ∃ last, Relation.ReflTransGen (Reading.Turn table filename bytes) .start last ∧
      last.EndsWith table filename bytes (disassembleWith table filename bytes) := by
  refine ⟨?_, Reading.wellFounded_turn table filename bytes,
    Reading.exists_endsWith table filename bytes⟩
  intro instructions accepted
  exact (disassembleWith_eq_ok_iff.mp accepted).tiles filename

/-- An opcode, and a push with a length field that it does not need. -/
theorem instructions_tile_bytecode_of_wide_push :
    let wide : Instruction :=
      { offset := 1, opcode := 0x4D, token := "<07>", size := 4, bytes := [0x4D, 0x01, 0x00, 0x07],
        push := some { form := .pushData2, payload := [0x07] } }
    let dup : Instruction :=
      { offset := 0, opcode := 0x76, token := "OP_DUP", size := 1, bytes := [0x76], push := none }
    disassembleWith .standard "<hex>" [0x76, 0x4D, 0x01, 0x00, 0x07] = .ok [dup, wide] ∧
      disassembleAt .standard "<hex>" [0x76, 0x4D, 0x01, 0x00, 0x07] 1 = .ok wide ∧
      ∃ header, wide.bytes = header ++ [0x07] ∧ header.length = 3 ∧
        PushForm.pushData2.HeaderDeclares 1 header := by
  intro wide dup
  have accepted : disassembleWith .standard "<hex>" [0x76, 0x4D, 0x01, 0x00, 0x07] =
      .ok [dup, wide] := by rfl
  have tiles := (instructions_tile_bytecode .standard "<hex>" _).1 _ accepted
  have piece := tiles.piece wide (by simp)
  exact ⟨accepted, piece.read, piece.push _ rfl⟩

end ScriptWorkbench
