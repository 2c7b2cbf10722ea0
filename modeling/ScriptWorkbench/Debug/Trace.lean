import ScriptWorkbench.Json.Basic

/-!
# Runs and their traces

A run request carries a program to the execution engine; the response carries
back the outcome and a step for every instruction that was about to execute.
A response is read as a whole: one fault in it refuses all of it.
-/

namespace ScriptWorkbench

/-! ## Requests -/

/-- A program in hex. Without breakpoints the request does not mention them. -/
structure RunRequest where
  input : String
  breakpoints : Option (List Int) := none
  deriving DecidableEq

def RunRequest.toJson (request : RunRequest) : Json :=
  let input := ("input", Json.string request.input)
  match request.breakpoints with
  | none => .object [input]
  | some offsets => .object [input, ("breakpoints", .array (offsets.map Json.integer))]

/-! ## Responses -/

/-- The stacks, bottom first, when the instruction at the program counter is
about to execute. -/
structure TraceStep where
  programCounter : Nat
  stack : List String := []
  altStack : List String := []
  deriving DecidableEq

inductive RunOutcome where
  | success
  | failure (detail : String)
  deriving DecidableEq

structure RunResponse where
  outcome : RunOutcome
  trace : List TraceStep
  deriving DecidableEq

/-- A stack as one text with an item on each line. -/
def stackText (items : List String) : String := "\n".intercalate items

namespace RunOutcome

def name : RunOutcome → String
  | .success => "success"
  | .failure _ => "error"

/-- What went wrong; nothing on success. -/
def detail : RunOutcome → String
  | .success => ""
  | .failure detail => detail

def succeeded : RunOutcome → Bool
  | .success => true
  | .failure _ => false

def genericDetail : String := "execution failed"

end RunOutcome

/-! ## Writing responses -/

def TraceStep.toJson (step : TraceStep) : Json :=
  .object [("pc", .integer step.programCounter), ("stack", .array (step.stack.map Json.string)),
    ("altstack", .array (step.altStack.map Json.string))]

def RunResponse.toJson (response : RunResponse) : Json :=
  let common := [("status", Json.string response.outcome.name),
    ("trace", .array (response.trace.map TraceStep.toJson))]
  match response.outcome with
  | .success => .object common
  | .failure detail => .object (common ++ [("error", .string detail)])

/-! ## Reading responses -/

inductive ResponseFault where
  | notAnObject
  | unknownStatus (status : Json)
  | traceNotAList
  | stepNotAnObject (index : Nat)
  | invalidProgramCounter (index : Nat) (value : Json)
  | invalidStack (index : Nat) (name : String)

def ResponseFault.message : ResponseFault → String
  | .notAnObject => "response body is not a JSON object"
  | .unknownStatus status => "unknown response status: " ++ status.display
  | .traceNotAList => "response trace is not a list"
  | .stepNotAnObject index => s!"trace step {index} is not an object"
  | .invalidProgramCounter index value =>
    s!"trace step {index} has invalid pc: " ++ value.display
  | .invalidStack index name => s!"trace step {index} has invalid {name}"

/-- Reads a stack, which is empty if its member is absent. -/
def readStack (index : Nat) (members : List (String × Json)) (name : String) :
    Except ResponseFault (List String) :=
  match Json.member? members name with
  | none => .ok []
  | some (.array items) =>
    match items.mapM Json.string? with
    | some texts => .ok texts
    | none => .error (.invalidStack index name)
  | some _ => .error (.invalidStack index name)

/-- Reads a program counter, which is an integer that is not negative. -/
def readProgramCounter (index : Nat) (members : List (String × Json)) :
    Except ResponseFault Nat :=
  match (Json.member? members "pc").getD .null with
  | .integer (.ofNat programCounter) => .ok programCounter
  | value => .error (.invalidProgramCounter index value)

def TraceStep.ofJson (index : Nat) : Json → Except ResponseFault TraceStep
  | .object members => do
    let programCounter ← readProgramCounter index members
    let stack ← readStack index members "stack"
    let altStack ← readStack index members "altstack"
    return { programCounter, stack, altStack }
  | _ => .error (.stepNotAnObject index)

/-- Reads an outcome. A failure without a description gets the generic one. -/
def RunOutcome.ofMembers (members : List (String × Json)) : Except ResponseFault RunOutcome :=
  match (Json.member? members "status").getD .null with
  | .string "success" => .ok .success
  | .string "error" =>
    match Json.member? members "error" with
    | some (.string detail) => .ok (.failure (if detail = "" then genericDetail else detail))
    | _ => .ok (.failure genericDetail)
  | status => .error (.unknownStatus status)

/-- Reads a trace, which is empty if its member is absent or null. -/
def readTrace (members : List (String × Json)) : Except ResponseFault (List TraceStep) :=
  match (Json.member? members "trace").getD .null with
  | .null => .ok []
  | .array items => items.zipIdx.mapM fun (item, index) => TraceStep.ofJson index item
  | _ => .error .traceNotAList

def RunResponse.ofJson : Json → Except ResponseFault RunResponse
  | .object members => do
    let outcome ← RunOutcome.ofMembers members
    let trace ← readTrace members
    return { outcome, trace }
  | _ => .error .notAnObject

example :
    (RunResponse.mk (.failure "OP_RETURN") [{ programCounter := 3, stack := ["01", ""] }]).toJson
      = .object [("status", .string "error"),
          ("trace", .array [.object [("pc", .integer 3),
            ("stack", .array [.string "01", .string ""]), ("altstack", .array [])]]),
          ("error", .string "OP_RETURN")] := rfl

end ScriptWorkbench
