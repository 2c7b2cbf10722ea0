import ScriptWorkbench.Assembly
import ScriptWorkbench.Instruction.Decoder

/-!
# Exports

A script can be shown in two other notations. The list notation shows the
canonical words, with data as numbers in `0x` form; the initializer notation
shows the bytes.
-/

namespace ScriptWorkbench

/-- A word as an item of the list notation. Angle brackets at both ends give
way to `0x`. -/
def listItem (word : String) : String :=
  match bracketed? word.toList with
  | some digits => "0x" ++ String.ofList digits
  | none => word

def listLiteral (words : List String) : String :=
  "[" ++ ", ".intercalate (words.map listItem) ++ "]"

example : listLiteral ["OP_DUP", "<0011>", "16"] = "[OP_DUP, 0x0011, 16]" := by decide

def listExport (bytes : Bytes) : Except CodecError String :=
  (canonicalTokens bytes).map listLiteral

/-- The list notation of script text, in the canonical words of what it
assembles to. -/
def listExportOfSource (source : String) : Except CodecError String :=
  match assemble source with
  | .ok bytes => listExport bytes
  | .error error => .error error

/-- The initializer notation of bytecode, which is empty if the bytecode is. -/
def initializerExport (bytes : Bytes) : String :=
  match bytes with
  | [] => ""
  | _ =>
    let items := bytes.map fun byte => "0x" ++ Text.hexadecimal 2 byte.toNat
    "\x7b" ++ ", ".intercalate items ++ "\x7d"

example : initializerExport [0x76, 0x0A] = "\x7b0x76, 0x0a\x7d" := by decide

def initializerExportOfHex (text : String) : Except CodecError String :=
  (Hex.parse text).map initializerExport

/-- One script in both notations. -/
structure Exports where
  list : String
  initializer : String
  deriving DecidableEq

/-- Both notations of bytecode, which has to disassemble. -/
def Exports.ofBytes (bytes : Bytes) : Except CodecError Exports :=
  (listExport bytes).map fun list => { list, initializer := initializerExport bytes }

end ScriptWorkbench
