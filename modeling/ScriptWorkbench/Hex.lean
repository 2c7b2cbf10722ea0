import ScriptWorkbench.CodecError
import ScriptWorkbench.Text.Blank
import ScriptWorkbench.Text.Case

/-!
# Hex text

Bytes are exchanged as hex digits without separators. Written hex is lower
case; read hex may have blanks anywhere and either case.
-/

namespace ScriptWorkbench.Hex

def isDigit (character : Char) : Bool :=
  ('0' ≤ character && character ≤ '9') || ('a' ≤ character && character ≤ 'f') ||
    ('A' ≤ character && character ≤ 'F')

def digitValue (character : Char) : Nat :=
  if character ≤ '9' then character.toNat - 0x30
  else if character ≤ 'F' then character.toNat - 0x41 + 10
  else character.toNat - 0x61 + 10

/-- Whether a text consists of hex digits alone; the empty one does. -/
def isHex (text : String) : Bool := text.toList.all isDigit

def decode? : List Char → Option Bytes
  | [] => some []
  | [_] => none
  | high :: low :: rest =>
    if isDigit high && isDigit low then
      (decode? rest).map (UInt8.ofNat (16 * digitValue high + digitValue low) :: ·)
    else none

def encodeByte (byte : UInt8) : List Char :=
  [Nat.digitChar (byte.toNat / 16), Nat.digitChar (byte.toNat % 16)]

def encode (bytes : Bytes) : String := String.ofList (bytes.flatMap encodeByte)

example : encode [0x76, 0xA9] = "76a9" := by decide

/-- The text without its blanks and in lower case. -/
def clean (text : String) : String :=
  Text.lower (String.ofList (text.toList.filter fun character => !Text.isBlank character))

/-- Reads hex text. A character that is no digit is reported before an odd
number of digits. -/
def parse (text : String) : Except CodecError Bytes :=
  let cleaned := clean text
  if !isHex cleaned then .error { fault := .invalidHexFormat text }
  else
    match decode? cleaned.toList with
    | some bytes => .ok bytes
    | none => .error { fault := .oddLengthHex cleaned }

example : parse "76 A9\n14" = .ok [0x76, 0xA9, 0x14] := by rfl

/-- A note of how many bytes a hex text holds; none for an empty text. -/
def byteCountNote (text : String) : String :=
  let digits := (clean text).length
  if digits = 0 then "" else s!"{digits / 2} bytes"

end ScriptWorkbench.Hex
