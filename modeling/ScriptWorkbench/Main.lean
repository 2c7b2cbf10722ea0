import ScriptWorkbench.Command.Assembler
import ScriptWorkbench.Command.Debugger
import ScriptWorkbench.Command.Disassembler
import ScriptWorkbench.Command.Tour

/-!
# Running commands

Gives a command the files, the input and the environment that it needs, prints
its report and writes its file. There is no network here, so the engine is
never reached.
-/

namespace ScriptWorkbench

def environmentNames : List String :=
  [EngineConfig.urlVariable, EngineConfig.timeoutVariable, EngineConfig.breakpointsVariable]

def readEnvironment : IO (List (String × String)) := do
  let settings ← environmentNames.mapM fun variableName => do
    let value ← IO.getEnv variableName
    return value.toList.map fun text => (variableName, text)
  return settings.flatten

/-- The content of a file that is open. A directory can be opened too, but it
has none. -/
def readHandle? (handle : IO.FS.Handle) : IO (Option Bytes) := do
  try
    let content ← handle.readBinToEnd
    return some content.toList
  catch _ => return none

/-- Adds what stands at a path, if anything does. -/
def surveyPath (system : FileSystem) (path : FilePath) : IO FileSystem := do
  try
    let handle ← IO.FS.Handle.mk path.text .read
    match ← readHandle? handle with
    | some content => return { system with files := (path.place, content) :: system.files }
    | none => return { system with directories := path.place :: system.directories }
  catch _ => return system

/-- What stands at the paths that arguments may name, and on the way to
them. -/
def surveyFiles (arguments : List String) : IO FileSystem :=
  let paths := arguments.map FilePath.ofText
  (paths.flatMap fun path => path.ancestors ++ [path]).foldlM surveyPath {}

partial def readStream (stream : IO.FS.Stream) : IO Bytes := do
  let chunk ← stream.read 65536
  if chunk.isEmpty then return []
  else return chunk.toList ++ (← readStream stream)

/-- What a command is started with. The standard input is read only if it is the
only source. -/
def prepareInvocation (forms sources : List OptionForm) (arguments : List String) :
    IO Invocation := do
  let files ← surveyFiles arguments
  let environment ← readEnvironment
  let input ←
    if readsInput forms sources arguments then readStream (← IO.getStdin) else pure []
  return { arguments, input, files, environment }

def noNetwork : Post → PostOutcome := fun _ => .failed "no network"

def openConsole : IO Console := do
  return .ofTerminals (← (← IO.getStdout).isTty) (← (← IO.getStderr).isTty)

def deliverReport (report : Report) : IO UInt32 := do
  let seen := report.seenOn (← openConsole)
  let errors ← IO.getStderr
  seen.output.forM IO.println
  if seen.showsUsage then errors.putStrLn "Usage: COMMAND [OPTIONS] [ARGUMENTS]"
  else seen.diagnostics.forM errors.putStrLn
  match seen.written with
  | some (path, text) => IO.FS.writeFile path.text text
  | none => pure ()
  return UInt32.ofNat seen.exitCode.value

def runAssembler (arguments : List String) : IO UInt32 := do
  let sources := AssemblerCommand.sourceOptions
  let invocation ← prepareInvocation AssemblerCommand.options sources arguments
  deliverReport (AssemblerCommand.run invocation)

def runDisassembler (arguments : List String) : IO UInt32 := do
  let sources := DisassemblerCommand.sourceOptions
  let invocation ← prepareInvocation DisassemblerCommand.options sources arguments
  deliverReport (DisassemblerCommand.run invocation)

def runDebugger (arguments : List String) : IO UInt32 := do
  let files ← surveyFiles arguments
  let environment ← readEnvironment
  deliverReport ((DebuggerCommand.run { arguments, files, environment }).run noNetwork)

def runTour : IO UInt32 := do
  let (config, _) := EngineConfig.ofEnvironment (← readEnvironment)
  deliverReport ((Tour.report config).run noNetwork)

end ScriptWorkbench

/-- The first argument names the command. Without one there is a tour. -/
def main : List String → IO UInt32
  | [] => ScriptWorkbench.runTour
  | commandName :: arguments =>
    if commandName = ScriptWorkbench.AssemblerCommand.name then
      ScriptWorkbench.runAssembler arguments
    else if commandName = ScriptWorkbench.DisassemblerCommand.name then
      ScriptWorkbench.runDisassembler arguments
    else if commandName = ScriptWorkbench.DebuggerCommand.name then
      ScriptWorkbench.runDebugger arguments
    else do
      IO.eprintln "The commands are btcasm, btcdisasm and btcdbg."
      return ScriptWorkbench.ExitCode.invalidArguments.value.toUInt32
