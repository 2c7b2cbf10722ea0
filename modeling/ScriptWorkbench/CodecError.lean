import ScriptWorkbench.Opcode.Push
import ScriptWorkbench.Text.Numeral

/-!
# Codec errors

What can be wrong with script text or bytecode, where it was found, and how a
diagnostic shows it. The wording lives here alone.
-/

namespace ScriptWorkbench

/-- A place in script text, by line and column from 1, or in bytecode, by byte
offset. -/
structure Location where
  filename : String
  line : Int := 0
  column : Int := 0
  offset : Option Int := none
  deriving DecidableEq

def Location.text (location : Location) : String :=
  match location.offset with
  | some offset => s!"{location.filename}:+{offset}"
  | none => s!"{location.filename}:{location.line}:{location.column}"

inductive CodecFault where
  | invalidHexFormat (text : String)
  | oddLengthHex (text : String)
  /-- The word between angle brackets is not data. -/
  | invalidHexData (word : String)
  /-- A mnemonic is not in the opcode table, which has these similar ones. -/
  | unknownOpcode (name : String) (similar : List String)
  /-- A word has none of the forms of a token. -/
  | unrecognizedWord (word : String)
  /-- A payload is too long for every push form. -/
  | pushLength (error : PushLengthError)
  | unknownByte (byte offset : Nat)
  /-- A push declares more bytes than are left. -/
  | truncatedPush (form : PushForm) (offset declared available : Nat)
  /-- Any other cause, in the words of whoever found it. -/
  | reported (message : String) (hint : Option String)
  deriving DecidableEq

namespace CodecFault

def message : CodecFault → String
  | .invalidHexFormat _ => "invalid hex format"
  | .oddLengthHex text => s!"odd-length hex: {text}"
  | .invalidHexData word => s!"invalid hex data: {word}"
  | .unknownOpcode name _ => s!"unknown opcode: {name}"
  | .unrecognizedWord word => s!"unrecognized token: {word}"
  | .pushLength error => error.message
  | .unknownByte byte _ => "unknown opcode byte 0x" ++ Text.hexadecimal 2 byte
  | .truncatedPush form _ declared available =>
    s!"{form.label} truncated: declares {declared} bytes, {available} available"
  | .reported message _ => message

/-- A suggestion of how to mend the cause. At most three similar mnemonics are
suggested. -/
def hint? : CodecFault → Option String
  | .oddLengthHex _ => some "every byte needs two hex digits"
  | .unknownOpcode _ [] => none
  | .unknownOpcode _ similar =>
    let quotes := (similar.take 3).map fun name => s!"'{name}'"
    some ("did you mean " ++ ", ".intercalate quotes ++ "?")
  | .unrecognizedWord _ => some "use OP_* names, -1..16, <hex> or bare even-length hex"
  | .reported _ hint => hint
  | _ => none

end CodecFault

structure CodecError where
  fault : CodecFault
  location : Option Location := none
  sourceLine : Option String := none
  deriving DecidableEq

namespace CodecError

def atOffset (fault : CodecFault) (filename : String) (offset : Nat) : CodecError :=
  { fault, location := some { filename, offset := some offset } }

/-- The source line under its location, with a mark below the column. -/
def excerpt (location : Location) (sourceLine : String) : List String :=
  ("    " ++ sourceLine) ::
    if 0 < location.column then
      [String.ofList (List.replicate (3 + location.column.toNat) ' ' ++ ['^'])]
    else []

/-- The lines of the diagnostic. An empty hint is not shown. -/
def textLines (error : CodecError) : List String :=
  let heading := "error: " ++ error.fault.message
  let located := match error.location with
    | some location => location.text ++ ": " ++ heading
    | none => heading
  let shown := match error.location, error.sourceLine with
    | some location, some sourceLine => excerpt location sourceLine
    | _, _ => []
  let hinted := match error.fault.hint? with
    | some hint => if hint = "" then [] else ["hint: " ++ hint]
    | none => []
  located :: shown ++ hinted

def text (error : CodecError) : String := "\n".intercalate error.textLines

example :
    text {
      fault := .oddLengthHex "abc"
      location := some { filename := "f", line := 1, column := 8 }
      sourceLine := some "OP_DUP abc" } =
    "f:1:8: error: odd-length hex: abc\n    OP_DUP abc\n           ^\n" ++
      "hint: every byte needs two hex digits" := by decide

end CodecError

end ScriptWorkbench
