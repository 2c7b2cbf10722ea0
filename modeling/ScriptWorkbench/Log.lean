/-!
# Log records

What happens along the way is recorded for whoever watches. A plain log shows
warnings alone; a verbose one shows everything, with the level in front.
-/

namespace ScriptWorkbench

inductive LogLevel where
  | debug
  | info
  | warning
  deriving DecidableEq

def LogLevel.name : LogLevel → String
  | .debug => "DEBUG"
  | .info => "INFO"
  | .warning => "WARNING"

structure LogRecord where
  level : LogLevel
  message : String
  deriving DecidableEq

namespace LogRecord

def text (record : LogRecord) : String := record.level.name ++ ": " ++ record.message

def isWarning (record : LogRecord) : Bool := record.level == .warning

def lines (verbose : Bool) (records : List LogRecord) : List String :=
  if verbose then records.map text else (records.filter isWarning).map message

end LogRecord

end ScriptWorkbench
