import ScriptWorkbench.CodecError
import ScriptWorkbench.Text.Quoted

/-!
# Tokens

A token is a word of script text together with what it means and where it
stands. Every token encodes by itself, so a program is the concatenation of
its tokens' encodings. A word may mean a payload that no push form holds; that
is found out when the token is encoded.
-/

namespace ScriptWorkbench

/-- What a word means. -/
inductive Meaning where
  /-- A push of the bytes between angle brackets. -/
  | data (payload : Bytes)
  /-- An integer that has an opcode of its own. -/
  | smallInteger (opcode : UInt8)
  | opcode (byte : UInt8)
  /-- A push of bytes written without brackets. -/
  | bareHex (payload : Bytes)
  deriving DecidableEq

namespace Meaning

def kind : Meaning → String
  | .data _ => "DATA"
  | .smallInteger _ => "SMALL_INT"
  | .opcode _ => "OPCODE"
  | .bareHex _ => "BARE_HEX"

def payload? : Meaning → Option Bytes
  | .data payload | .bareHex payload => some payload
  | .smallInteger _ | .opcode _ => none

/-- The byte of a word that is no push. -/
def opcode? : Meaning → Option UInt8
  | .smallInteger byte | .opcode byte => some byte
  | .data _ | .bareHex _ => none

/-- The meaning, if it has an encoding. No push form holds a payload that is
too long. -/
def encodable (meaning : Meaning) : Except CodecFault Meaning :=
  match meaning.payload? with
  | none => .ok meaning
  | some payload =>
    match PushForm.forLength payload.length with
    | .ok _ => .ok meaning
    | .error error => .error (.pushLength error)

/-- A push takes its minimal form. -/
def encode : Meaning → Bytes
  | .data payload | .bareHex payload => encodePush payload
  | .smallInteger byte | .opcode byte => [byte]

/-- The size of the encoding, found without building it. -/
def encodedLength : Meaning → Nat
  | .data payload | .bareHex payload => pushSize payload.length
  | .smallInteger _ | .opcode _ => 1

@[simp] theorem length_encode (meaning : Meaning) :
    meaning.encode.length = meaning.encodedLength := by
  cases meaning <;> simp [encode, encodedLength]

theorem encodedLength_pos (meaning : Meaning) : 0 < meaning.encodedLength := by
  cases meaning <;> simp only [encodedLength, pushSize, PushForm.headerSize] <;> omega

end Meaning

/-- Lines and columns count from 1. -/
structure Token where
  meaning : Meaning
  text : String
  line : Nat
  column : Nat
  filename : String
  deriving DecidableEq

namespace Token

def location (token : Token) : Location :=
  { filename := token.filename, line := token.line, column := token.column }

/-- The token, if it has an encoding. A payload that is too long is no error of
the text, so its place is not told. -/
def encodable (token : Token) : Except CodecError Token :=
  match token.meaning.encodable with
  | .ok _ => .ok token
  | .error fault => .error { fault }

def encode (token : Token) : Bytes := token.meaning.encode

def encodedLength (token : Token) : Nat := token.meaning.encodedLength

def description (token : Token) : String :=
  s!"Token({token.meaning.kind}, " ++ Text.quoted token.text ++ s!", {token.line}:{token.column})"

end Token

end ScriptWorkbench
