import ScriptWorkbench.Command.Report

/-!
# Invocations

What a command is started with, and what all commands do alike: the options
that they share, reading their sources and delivering their results.
-/

namespace ScriptWorkbench

structure Invocation where
  arguments : List String
  input : Bytes := []
  files : FileSystem := {}
  environment : List (String × String) := []

def commandVersion : String := "1.0.0"

def helpOption : OptionForm := { long := "help" }

def versionOption : OptionForm := { long := "version" }

def verboseOption : OptionForm := { long := "verbose", short := some 'v' }

def outputOption : OptionForm := { long := "output", short := some 'o', takesValue := true }

/-- The report on a request for help or for the version, which comes before
everything else. -/
def informationReport? (command : String) (arguments : Arguments) : Option Report :=
  let requests := arguments.given.filter fun occurrence =>
    [helpOption.long, versionOption.long].contains occurrence.1
  match requests with
  | [] => none
  | (request, _) :: _ =>
    if request = versionOption.long then
      some { entries := [.output (command ++ ", version " ++ commandVersion)] }
    else some { showsUsage := true }

/-- An operand that may be left out. Something given has to satisfy the test,
and a second operand is refused. -/
def optionalOperand? (accepted : String → Bool) (arguments : Arguments) :
    Option (Option String) :=
  match arguments.operands with
  | [] => some none
  | [operand] => if accepted operand then some (some operand) else none
  | _ => none

/-- Reads an option that may be left out and has a limited choice of values. -/
def choice? {α : Type} (arguments : Arguments) (option : OptionForm) (read? : String → Option α) :
    Option (Option α) :=
  match arguments.value? option.long with
  | none => some none
  | some value => (read? value).map some

def FileSystem.hasFile (system : FileSystem) (text : String) : Bool :=
  match system.named? text with
  | some (.file _) => true
  | _ => false

/-- The path of an output file, which must not be a directory. -/
def FileSystem.destination? (system : FileSystem) (text : String) : Option FilePath :=
  match system.named? text with
  | some .directory => none
  | _ => some (.ofText text)

def Invocation.readBytes (invocation : Invocation) (path : FilePath) : Except Failure Bytes :=
  match invocation.files.read path with
  | .ok bytes => .ok bytes
  | .error error => .error (.file error)

/-- Reads text from a file, or from the standard input. -/
def Invocation.readText (invocation : Invocation) (path : Option FilePath) :
    Except Failure String := do
  let bytes ← match path with
    | some path => invocation.readBytes path
    | none => .ok invocation.input
  match decodeFileText bytes with
  | .ok text => return text
  | .error fault => throw (.encoding fault)

/-- Whether arguments leave the standard input as the only source, because they
give no operand and none of the options that stand for one. -/
def readsInput (forms : List OptionForm) (sources : List OptionForm)
    (arguments : List String) : Bool :=
  match Arguments.parse forms true arguments with
  | .ok arguments =>
    arguments.operands.isEmpty && !sources.any fun source => arguments.has source.long
  | .error _ => false

/-- A line of progress, which only verbose commands print. -/
def progress (verbose : Bool) (line : String) : List Entry :=
  if verbose then [.notice line] else []

/-- Prints a result, or writes it to the output file, between other lines of
progress. -/
def deliver (files : FileSystem) (destination : Option FilePath) (verbose : Bool)
    (started finished : String) (result : String) : Report :=
  let before := progress verbose started
  match destination with
  | none => { entries := before ++ .output result :: progress verbose finished }
  | some path =>
    match files.checkWritable path with
    | .error error => .ofFailure verbose before "" (.file error)
    | .ok () =>
      let placed := progress verbose ("Output written to: " ++ path.text)
      { entries := before ++ placed ++ progress verbose finished
        written := some (path, result ++ "\n") }

end ScriptWorkbench
