import ScriptWorkbench.Log
import ScriptWorkbench.Number.Decimal
import ScriptWorkbench.Number.Shortest
import ScriptWorkbench.Text.Case
import ScriptWorkbench.Text.Quoted

/-!
# Engine configuration

How the execution engine is reached. Environment variables override the
defaults; one that is empty or invalid leaves the default as it is.
-/

namespace ScriptWorkbench

structure EngineConfig where
  url : String := "http://localhost:3000/run-job"
  /-- The time to wait for an answer, in seconds. -/
  timeout : Number.Binary64 := .ofDecimal false 30 0
  /-- Whether requests mention breakpoints. -/
  sendBreakpoints : Bool := true
  headers : List (String × String) := [("Content-Type", "application/json")]
  deriving DecidableEq

namespace EngineConfig

abbrev Environment := List (String × String)

def urlVariable : String := "BTCSCRIPT_ENGINE_URL"

def timeoutVariable : String := "BTCSCRIPT_ENGINE_TIMEOUT"

def breakpointsVariable : String := "BTCSCRIPT_SEND_BREAKPOINTS"

/-- The value of a variable that is set to more than the empty text. -/
def setting? (environment : Environment) (variableName : String) : Option String :=
  match environment.lookup variableName with
  | some "" => none
  | value => value

/-- Reads a timeout, which has to be positive. -/
def readTimeout? (text : String) : Option Number.Binary64 :=
  (Number.Binary64.parse? text).filter Number.Binary64.isPositive

/-- Reads a switch, in any letter case. -/
def readSwitch? (text : String) : Option Bool :=
  let word := Text.lower text
  if ["1", "true", "yes", "on"].contains word then some true
  else if ["0", "false", "no", "off"].contains word then some false
  else none

def ignoredRecord (variableName value : String) : LogRecord :=
  { level := .warning
    message := s!"Ignoring invalid {variableName}: " ++ Text.quoted value }

/-- Reads a variable, or gives the default and says why. -/
def readVariable {α : Type} (environment : Environment) (variableName : String)
    (read? : String → Option α) (default : α) : α × List LogRecord :=
  match setting? environment variableName with
  | none => (default, [])
  | some text =>
    match read? text with
    | some value => (value, [])
    | none => (default, [ignoredRecord variableName text])

/-- The configuration that an environment gives, with the records of the
variables that were ignored. -/
def ofEnvironment (environment : Environment) : EngineConfig × List LogRecord :=
  let defaults : EngineConfig := {}
  let (url, _) := readVariable environment urlVariable some defaults.url
  let (timeout, timeoutRecords) :=
    readVariable environment timeoutVariable readTimeout? defaults.timeout
  let (sendBreakpoints, switchRecords) :=
    readVariable environment breakpointsVariable readSwitch? defaults.sendBreakpoints
  ({ defaults with url, timeout, sendBreakpoints }, timeoutRecords ++ switchRecords)

example : readSwitch? "Off" = some false := by decide +kernel

end EngineConfig

end ScriptWorkbench
