import ScriptWorkbench.Instruction.Basic
import ScriptWorkbench.Opcode.SmallInteger
import ScriptWorkbench.Opcode.Standard

/-!
# Reading instructions

Bytecode is read in one pass. Reading is strict: a push that runs past the end
or a byte without an opcode refuses the whole program. Each instruction reads
as its canonical word: data in brackets, a small integer as its numeral, and
any other opcode by the first mnemonic declared for it.
-/

namespace ScriptWorkbench

/-- The name of bytecode that is not a file. -/
def Instruction.bytecodeName : String := "<hex>"

/-- The word for a payload. An empty push does what zero does. -/
def payloadToken (payload : Bytes) : String :=
  if payload.isEmpty then "0" else "<" ++ Hex.encode payload ++ ">"

/-- The word for an opcode that is no push. -/
def opcodeToken? (table : OpcodeTable) (opcode : UInt8) : Option String :=
  match SmallInteger.numeral? opcode with
  | some numeral => some numeral
  | none => table.nameOf? opcode

/-- The length that a push declares, read from its opcode or from the bytes
behind it. -/
def PushForm.declaredLength (form : PushForm) (opcode : UInt8) (rest : Bytes) : Nat :=
  match form with
  | .inline => opcode.toNat
  | _ => Bytes.ofLittleEndian (rest.take form.lengthSize)

namespace Instruction

/-- Reads a push of which `rest` follows the opcode. -/
def ofPush (filename : String) (offset : Nat) (form : PushForm) (opcode : UInt8) (rest : Bytes) :
    Except CodecError Instruction :=
  let truncated (declared available : Nat) : Except CodecError Instruction :=
    .error (.atOffset (.truncatedPush form offset declared available) filename offset)
  if rest.length < form.lengthSize then truncated form.lengthSize rest.length
  else
    let length := form.declaredLength opcode rest
    let afterHeader := rest.drop form.lengthSize
    if afterHeader.length < length then truncated length afterHeader.length
    else
      let payload := afterHeader.take length
      .ok {
        offset
        opcode
        token := payloadToken payload
        size := form.headerSize + length
        bytes := opcode :: rest.take (form.lengthSize + length)
        push := some { form, payload } }

/-- Reads the instruction that starts with `opcode`, of which `rest` follows. -/
def ofBytes (table : OpcodeTable) (filename : String) (offset : Nat) (opcode : UInt8)
    (rest : Bytes) : Except CodecError Instruction :=
  match PushForm.ofOpcode? opcode with
  | some form => ofPush filename offset form opcode rest
  | none =>
    match opcodeToken? table opcode with
    | some token => .ok { offset, opcode, token, size := 1, bytes := [opcode], push := none }
    | none => .error (.atOffset (.unknownByte opcode.toNat offset) filename offset)

/-- Reads the instructions of bytecode whose first byte has the given offset.
The first `pending` bytes belong to an instruction that is read already. -/
def scan (table : OpcodeTable) (filename : String) (offset pending : Nat) :
    Bytes → Except CodecError (List Instruction)
  | [] => .ok []
  | opcode :: rest =>
    match pending with
    | pending + 1 => scan table filename (offset + 1) pending rest
    | 0 =>
      match ofBytes table filename offset opcode rest with
      | .error error => .error error
      | .ok instruction =>
        match scan table filename (offset + 1) (instruction.size - 1) rest with
        | .error error => .error error
        | .ok following => .ok (instruction :: following)

end Instruction

def disassembleWith (table : OpcodeTable) (filename : String) (bytes : Bytes) :
    Except CodecError (List Instruction) :=
  Instruction.scan table filename 0 0 bytes

/-- Disassembles with the standard opcodes. -/
def disassemble (bytes : Bytes) : Except CodecError (List Instruction) :=
  disassembleWith .standard Instruction.bytecodeName bytes

inductive InstructionError where
  | outside (offset : Int) (length : Nat)
  | codec (error : CodecError)

def InstructionError.message : InstructionError → String
  | .outside offset length => s!"Offset {offset} beyond data length {length}"
  | .codec error => error.text

def disassembleAt (table : OpcodeTable) (filename : String) (bytes : Bytes) (offset : Int) :
    Except InstructionError Instruction :=
  if offset < 0 then .error (.outside offset bytes.length)
  else
    match bytes.drop offset.toNat with
    | [] => .error (.outside offset bytes.length)
    | opcode :: rest =>
      match Instruction.ofBytes table filename offset.toNat opcode rest with
      | .ok instruction => .ok instruction
      | .error error => .error (.codec error)

def canonicalTokens (bytes : Bytes) : Except CodecError (List String) :=
  (disassemble bytes).map fun instructions => instructions.map Instruction.token

/-- The canonical script text of bytecode, a word on each line. -/
def canonicalSource (bytes : Bytes) : Except CodecError String :=
  (canonicalTokens bytes).map ("\n".intercalate ·)

/-- The canonical script text of hex text. -/
def hexToSource (text : String) : Except CodecError String :=
  match Hex.parse text with
  | .ok bytes => canonicalSource bytes
  | .error error => .error error

example : canonicalSource [0x4C, 0x00, 0x51, 0x76] = .ok "0\n1\nOP_DUP" := by rfl

end ScriptWorkbench
