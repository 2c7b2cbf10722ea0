import ScriptWorkbench.Hex

/-!
# Instructions

An instruction is a piece of bytecode as it is read: where it starts, its
bytes, and the word that script text has for it.
-/

namespace ScriptWorkbench

structure Push where
  form : PushForm
  payload : Bytes
  deriving DecidableEq

structure Instruction where
  offset : Nat
  opcode : UInt8
  token : String
  /-- How far ahead the next instruction starts. -/
  size : Nat
  bytes : Bytes
  push : Option Push
  deriving DecidableEq

namespace Instruction

def isPush (instruction : Instruction) : Bool := instruction.push.isSome

/-- What the instruction pushes; nothing if it is no push. -/
def payload (instruction : Instruction) : Bytes :=
  match instruction.push with
  | some push => push.payload
  | none => []

/-- The byte offset in four hexadecimal digits or more. -/
def offsetText (instruction : Instruction) : String :=
  Text.hexadecimal 4 instruction.offset

/-- The bytes in a column of sixteen digits; longer ones are cut short. -/
def bytesColumn (instruction : Instruction) : String :=
  let digits := Hex.encode instruction.bytes
  let shown :=
    if 16 < digits.length then String.ofList (digits.toList.take 14) ++ ".." else digits
  Text.padRight 16 shown

def listing (instruction : Instruction) : String :=
  instruction.offsetText ++ ": " ++ instruction.bytesColumn ++ "  " ++ instruction.token

example :
    listing {
      offset := 1
      opcode := 0x4C
      token := "0"
      size := 2
      bytes := [0x4C, 0x00]
      push := some { form := .pushData1, payload := [] } } = "0001: 4c00              0" := by
  decide

end Instruction

end ScriptWorkbench
