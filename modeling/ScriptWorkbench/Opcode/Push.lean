import ScriptWorkbench.Bytes

/-!
# Push forms

A push is an opcode, a length field and a payload. Up to 75 bytes the opcode
itself is the length; longer payloads have a length field of one, two or four
bytes behind an opcode of its own.
-/

namespace ScriptWorkbench

inductive PushForm where
  | inline
  | pushData1
  | pushData2
  | pushData4
  deriving DecidableEq

inductive PushLengthError where
  | negative (length : Int)
  | tooLong (length : Int)
  deriving DecidableEq

def PushLengthError.message : PushLengthError → String
  | .negative length => s!"Push length must be non-negative, got {length}"
  | .tooLong length => s!"Push length {length} exceeds PUSHDATA4 range"

namespace PushForm

/-- The longest payload whose length is its own opcode. -/
def inlineLimit : Nat := 75

/-- The longest payload that any push holds. -/
def greatestLength : Nat := 0xFFFFFFFF

/-- The opcode that introduces a form. An inline push has one for every length. -/
def opcode? : PushForm → Option UInt8
  | .inline => none
  | .pushData1 => some 0x4C
  | .pushData2 => some 0x4D
  | .pushData4 => some 0x4E

/-- The bytes in the length field. -/
def lengthSize : PushForm → Nat
  | .inline => 0
  | .pushData1 => 1
  | .pushData2 => 2
  | .pushData4 => 4

def headerSize (form : PushForm) : Nat := 1 + form.lengthSize

def name : PushForm → String
  | .inline => "INLINE"
  | .pushData1 => "PUSHDATA1"
  | .pushData2 => "PUSHDATA2"
  | .pushData4 => "PUSHDATA4"

def label : PushForm → String
  | .inline => "PUSHDATA"
  | form => form.name

/-- The form with the shortest header that holds a payload of a given length,
which is at most `greatestLength`. -/
def minimal (length : Nat) : PushForm :=
  if length ≤ inlineLimit then .inline
  else if length ≤ 0xFF then .pushData1
  else if length ≤ 0xFFFF then .pushData2
  else .pushData4

/-- The minimal form of a payload, for any length that a caller may give. -/
def forLength (length : Int) : Except PushLengthError PushForm :=
  if length < 0 then .error (.negative length)
  else if (greatestLength : Int) < length then .error (.tooLong length)
  else .ok (minimal length.toNat)

def ofOpcode? (opcode : UInt8) : Option PushForm :=
  if 1 ≤ opcode.toNat && opcode.toNat ≤ inlineLimit then some .inline
  else [PushForm.pushData1, .pushData2, .pushData4].find? fun form => form.opcode? = some opcode

/-- The header of a push in a given form: its opcode and its length field. -/
def header (form : PushForm) (length : Nat) : Bytes :=
  match form.opcode? with
  | none => [UInt8.ofNat length]
  | some opcode => opcode :: Bytes.littleEndian form.lengthSize length

@[simp] theorem length_header (form : PushForm) (length : Nat) :
    (form.header length).length = form.headerSize := by
  cases form <;> simp [header, opcode?, headerSize, lengthSize]

end PushForm

/-! The minimal push of a payload. -/

def pushHeader (length : Nat) : Bytes := (PushForm.minimal length).header length

/-- The bytes that a payload of a given length takes, header included. -/
def pushSize (length : Nat) : Nat := (PushForm.minimal length).headerSize + length

def encodePush (payload : Bytes) : Bytes := pushHeader payload.length ++ payload

example : pushHeader 76 = [0x4C, 76] := rfl

example : pushHeader 256 = [0x4D, 0x00, 0x01] := rfl

@[simp] theorem length_encodePush (payload : Bytes) :
    (encodePush payload).length = pushSize payload.length := by
  simp [encodePush, pushHeader, pushSize]

end ScriptWorkbench
