import ScriptWorkbench.Command.Invocation
import ScriptWorkbench.Instruction.Decoder

/-!
# The disassembler command

Disassembles bytecode from hex text or from a binary file, and prints a line
for each instruction.
-/

namespace ScriptWorkbench.DisassemblerCommand

def name : String := "btcdisasm"

def hexOption : OptionForm := { long := "hex", short := some 'x', takesValue := true }

def binaryOption : OptionForm := { long := "binary" }

def offsetsOption : OptionForm := { long := "offsets" }

def listingOption : OptionForm := { long := "listing" }

def options : List OptionForm :=
  [hexOption, binaryOption, offsetsOption, listingOption, outputOption, verboseOption,
    versionOption, helpOption]

def sourceOptions : List OptionForm := [hexOption]

inductive LineStyle where
  | word
  | offsetAndWord
  | listing
  deriving DecidableEq

def LineStyle.render (style : LineStyle) (instruction : Instruction) : String :=
  match style with
  | .word => instruction.token
  | .offsetAndWord => instruction.offsetText ++ ": " ++ instruction.token
  | .listing => instruction.listing

structure Settings where
  file : Option FilePath
  hexText : Option String
  /-- Whether the file holds bytes instead of hex text. -/
  binary : Bool
  style : LineStyle
  destination : Option FilePath
  verbose : Bool

def settings? (files : FileSystem) (arguments : Arguments) : Option Settings := do
  let operand ← optionalOperand? files.hasFile arguments
  let destination ← choice? arguments outputOption files.destination?
  let style :=
    if arguments.has listingOption.long then .listing
    else if arguments.has offsetsOption.long then .offsetAndWord
    else .word
  return {
    file := operand.map FilePath.ofText
    hexText := arguments.value? hexOption.long
    binary := arguments.has binaryOption.long
    style
    destination
    verbose := arguments.has verboseOption.long }

def parseHex (text : String) : Except Failure Bytes :=
  match Hex.parse text with
  | .ok bytes => .ok bytes
  | .error error => .error (.codec error)

def readBytecode (invocation : Invocation) (settings : Settings) :
    Except Failure (String × Bytes) := do
  match settings.file, settings.hexText with
  | some path, _ =>
    let bytes ←
      if settings.binary then invocation.readBytes path
      else invocation.readText (some path) >>= parseHex
    return (path.text, bytes)
  | none, some text => return ("<hex>", ← parseHex text)
  | none, none => return ("<stdin>", ← invocation.readText none >>= parseHex)

def disassembleInput (invocation : Invocation) (settings : Settings) : Report :=
  let verbose := settings.verbose
  match readBytecode invocation settings with
  | .error failure => .ofFailure verbose [] "" failure
  | .ok (filename, bytes) =>
    let started := s!"Input: {filename} ({bytes.length} bytes)"
    match disassembleWith .standard filename bytes with
    | .error error => .ofFailure verbose (progress verbose started) "" (.codec error)
    | .ok instructions =>
      let finished := s!"Instructions disassembled: {instructions.length}"
      let result := "\n".intercalate (instructions.map settings.style.render)
      deliver invocation.files settings.destination verbose started finished result

def execute (invocation : Invocation) (settings : Settings) : Report :=
  let refuse := fun message => Report.ofFailure settings.verbose [] "" (.invalid message)
  if settings.file.isSome && settings.hexText.isSome then
    refuse "INPUT_FILE and -x/--hex are mutually exclusive"
  else if settings.binary && settings.file.isNone then refuse "--binary requires INPUT_FILE"
  else disassembleInput invocation settings

def run (invocation : Invocation) : Report :=
  match Arguments.parse options true invocation.arguments with
  | .error error => .ofOptionError error
  | .ok arguments =>
    match informationReport? name arguments with
    | some report => report
    | none =>
      match settings? invocation.files arguments with
      | none => .usage
      | some settings => execute invocation settings

example : run { arguments := ["-x", "4f 76", "--offsets"] } =
    { entries := [.output "0000: -1\n0001: OP_DUP"] } := by decide +kernel

end ScriptWorkbench.DisassemblerCommand
