import ScriptWorkbench.Command.Invocation
import ScriptWorkbench.Export
import ScriptWorkbench.Sample

/-!
# The assembler command

Assembles script text from a file, from the command line, from a sample or from
the standard input, and prints the program in one of several notations.
-/

namespace ScriptWorkbench

inductive OutputFormat where
  | hex
  | canonical
  | list
  | initializer
  deriving DecidableEq

namespace OutputFormat

def name : OutputFormat → String
  | .hex => "hex"
  | .canonical => "asm"
  | .list => "python"
  | .initializer => "cpp"

/-- The notation of a name in any letter case. -/
def ofName? (text : String) : Option OutputFormat :=
  [hex, canonical, list, initializer].find? fun format => Text.upper format.name == Text.upper text

/-- Writes bytecode in a notation. Those that show words need bytecode that
disassembles. -/
def render (bytes : Bytes) : OutputFormat → Except CodecError String
  | .hex => .ok (Hex.encode bytes)
  | .canonical => canonicalSource bytes
  | .list => listExport bytes
  | .initializer => .ok (initializerExport bytes)

end OutputFormat

namespace AssemblerCommand

def name : String := "btcasm"

inductive Origin where
  | file (path : FilePath)
  | expression (text : String)
  | sample (sample : Sample)
  | standardInput

def expressionOption : OptionForm := { long := "expr", short := some 'e', takesValue := true }

def sampleOption : OptionForm := { long := "sample", takesValue := true }

def formatOption : OptionForm := { long := "format", short := some 'f', takesValue := true }

def options : List OptionForm :=
  [expressionOption, sampleOption, formatOption, outputOption, verboseOption, versionOption,
    helpOption]

def sourceOptions : List OptionForm := [expressionOption, sampleOption]

structure Settings where
  /-- Every origin that is given, of which there may be only one. -/
  origins : List Origin
  format : OutputFormat
  destination : Option FilePath
  verbose : Bool

def settings? (files : FileSystem) (arguments : Arguments) : Option Settings := do
  let operand ← optionalOperand? files.hasFile arguments
  let sample ← choice? arguments sampleOption Sample.find?
  let format ← choice? arguments formatOption OutputFormat.ofName?
  let destination ← choice? arguments outputOption files.destination?
  let expression := arguments.value? expressionOption.long
  let origins := (operand.map fun text => Origin.file (.ofText text)).toList ++
    (expression.map Origin.expression).toList ++ (sample.map Origin.sample).toList
  return {
    origins
    format := format.getD .hex
    destination
    verbose := arguments.has verboseOption.long }

def readOrigin (invocation : Invocation) : Origin → Except Failure (String × String)
  | .file path => (invocation.readText (some path)).map fun text => (path.text, text)
  | .expression text => .ok ("<expr>", text)
  | .sample sample => .ok (s!"<sample:{sample.name}>", sample.source)
  | .standardInput => (invocation.readText none).map fun text => ("<stdin>", text)

def assembleTo (format : OutputFormat) (filename source : String) :
    Except CodecError (Bytes × String) := do
  let bytes ← assembleWith .standard filename source
  let result ← format.render bytes
  return (bytes, result)

def assembleOrigin (invocation : Invocation) (settings : Settings) (origin : Origin) : Report :=
  let verbose := settings.verbose
  match readOrigin invocation origin with
  | .error failure => .ofFailure verbose [] "" failure
  | .ok (filename, source) =>
    let started := s!"Assembling {filename}..."
    match assembleTo settings.format filename source with
    | .error error => .ofFailure verbose (progress verbose started) "" (.ofCodecError error)
    | .ok (bytes, result) =>
      let finished := s!"Assembly complete: {bytes.length} bytes"
      deliver invocation.files settings.destination verbose started finished result

def execute (invocation : Invocation) (settings : Settings) : Report :=
  match settings.origins with
  | [] => assembleOrigin invocation settings .standardInput
  | [origin] => assembleOrigin invocation settings origin
  | _ =>
    .ofFailure settings.verbose [] ""
      (.invalid "INPUT_FILE, -e/--expr and --sample are mutually exclusive")

def run (invocation : Invocation) : Report :=
  match Arguments.parse options true invocation.arguments with
  | .error error => .ofOptionError error
  | .ok arguments =>
    match informationReport? name arguments with
    | some report => report
    | none =>
      match settings? invocation.files arguments with
      | none => .usage
      | some settings => execute invocation settings

example : run { arguments := ["-e", "1 OP_DUP", "-f", "cpp"] } =
    { entries := [.output "\x7b0x51, 0x76\x7d"] } := by decide +kernel

end AssemblerCommand

def assembleFile (table : OpcodeTable) (files : FileSystem) (path : FilePath) :
    Except Failure Bytes :=
  match ({ arguments := [], files } : Invocation).readText (some path) with
  | .error failure => .error failure
  | .ok source =>
    match assembleWith table path.text source with
    | .error error => .error (.codec error)
    | .ok bytes => .ok bytes

end ScriptWorkbench
