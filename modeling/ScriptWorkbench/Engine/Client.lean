import ScriptWorkbench.Debug.Trace
import ScriptWorkbench.Engine.Config
import ScriptWorkbench.Json.Reader

/-!
# Engine client

The engine is asked with one post and answers with one body. Whatever comes
back is either a response, read as a whole, or one of a few errors. An engine
that cannot be reached is kept apart from one that answers nonsense. One thing is
not looked for: a body whose containers are nested too deeply to be read. Its
error is none of the engine's, and escapes.
-/

namespace ScriptWorkbench

structure Post where
  url : String
  body : Json
  headers : List (String × String)
  timeout : Number.Binary64

/-- What became of a post: it failed for a reason, or it was answered. Whoever
posts says whether the status of an answer is a good one, and what comes of
reading its body. -/
inductive PostOutcome where
  | failed (reason : String)
  | answered (status : Int) (ok : Bool) (body : Except Json.ReadFault Json)

/-- A computation that may ask the engine once. -/
inductive Exchange (α : Type) where
  | settled (value : α)
  | posting (post : Post) (resume : PostOutcome → α)

namespace Exchange

/-- The result, with whatever answers the posts. -/
def run {α : Type} (transport : Post → PostOutcome) : Exchange α → α
  | .settled value => value
  | .posting post resume => resume (transport post)

def posts {α : Type} : Exchange α → List Post
  | .settled _ => []
  | .posting post _ => [post]

def map {α β : Type} (function : α → β) : Exchange α → Exchange β
  | .settled value => .settled (function value)
  | .posting post resume => .posting post fun outcome => function (resume outcome)

end Exchange

inductive EngineError where
  | unreachable (url reason : String)
  | refused (status : Int)
  | notJson
  | invalidResponse (fault : ResponseFault)

namespace EngineError

def message : EngineError → String
  | .unreachable url reason => s!"cannot reach engine at {url}: {reason}"
  | .refused status => s!"engine returned HTTP {status}"
  | .notJson => "engine response is not valid JSON"
  | .invalidResponse fault => fault.message

/-- Whether the engine was not reached, or turned the request away. -/
def isConnection : EngineError → Bool
  | .unreachable _ _ | .refused _ => true
  | .notJson | .invalidResponse _ => false

end EngineError

/-- What a run comes to. An error that is none of the engine's escapes. -/
inductive RunAnswer where
  | response (response : RunResponse)
  | failed (error : EngineError)
  | escaped (error : Json.NestingError)

namespace Engine

def post (config : EngineConfig) (request : RunRequest) : Post :=
  let breakpoints := if config.sendBreakpoints then request.breakpoints else none
  {
    url := config.url
    body := { request with breakpoints }.toJson
    headers := config.headers
    timeout := config.timeout }

/-- Whether a body says that the run failed. Such a body counts under any
status. -/
def reportsFailure : Json → Bool
  | .object members =>
    match Json.member? members "status" with
    | some (.string status) => status = "error"
    | _ => false
  | _ => false

/-- Reads a response as a whole. -/
def readResponse (body : Json) : RunAnswer :=
  match RunResponse.ofJson body with
  | .ok response => .response response
  | .error fault => .failed (.invalidResponse fault)

def readOutcome (config : EngineConfig) : PostOutcome → RunAnswer
  | .failed reason => .failed (.unreachable config.url reason)
  | .answered _ _ (.error (.nesting error)) => .escaped error
  | .answered status ok (.error .malformed) => .failed (if ok then .notJson else .refused status)
  | .answered status ok (.ok body) =>
    if ok || reportsFailure body then readResponse body else .failed (.refused status)

def run (config : EngineConfig) (request : RunRequest) : Exchange RunAnswer :=
  .posting (post config request) (readOutcome config)

/-! ## Records -/

def requestRecord (config : EngineConfig) (request : RunRequest) : LogRecord :=
  let size := request.input.length / 2
  { level := .info, message := s!"Running {size} byte program on {config.url}" }

def outcomeRecords : PostOutcome → List LogRecord
  | .failed reason => [{ level := .warning, message := s!"Engine request failed: {reason}" }]
  | .answered _ _ (.error _) => []
  | .answered status ok (.ok body) =>
    if ok then
      match RunResponse.ofJson body with
      | .ok response =>
        let result := s!"{response.outcome.name}, {response.trace.length} steps"
        [{ level := .info, message := "Engine finished: " ++ result }]
      | .error _ => []
    else if reportsFailure body then
      [{ level := .debug, message := s!"Engine reported error with HTTP {status}" }]
    else []

end Engine

end ScriptWorkbench
