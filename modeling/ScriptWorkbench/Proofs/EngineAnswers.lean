import ScriptWorkbench.Engine.Client
import ScriptWorkbench.Proofs.ResponseContract

/-!
# Answers of the engine

What becomes of the one post of a run. The status of an answer, its body and the
contract of responses decide together whether there is a response, and whether an
error is one of the connection or one of the protocol. A body that is nested too
deeply is none of these: its error escapes. Every outcome of a post falls into
exactly one of these classes.
-/

namespace ScriptWorkbench

/-- Whether a body is an object whose status is an error. -/
def Json.ReportsError (body : Json) : Prop :=
  ∃ members, body = .object members ∧ member? members "status" = some (.string "error")

namespace Engine

variable {config : EngineConfig} {outcome : PostOutcome} {response : RunResponse} {body : Json}

/-! ## Reports -/

/-- Whether a body is no JSON, or reports no error. -/
def Unreported (body : Except Json.ReadFault Json) : Prop :=
  body = .error .malformed ∨ ∃ value, body = .ok value ∧ ¬value.ReportsError

/-! ## What a post comes to -/

/-- What an outcome of a post is read as. -/
inductive ReadsAs (config : EngineConfig) : PostOutcome → RunAnswer → Prop
  | unreachable (reason : String) :
      ReadsAs config (.failed reason) (.failed (.unreachable config.url reason))
  | refused {status : Int} {body : Except Json.ReadFault Json} (unreported : Unreported body) :
      ReadsAs config (.answered status false body) (.failed (.refused status))
  | notJson (status : Int) :
      ReadsAs config (.answered status true (.error .malformed)) (.failed .notJson)
  | invalid {status : Int} {ok : Bool} {body : Json} {fault : ResponseFault}
      (counts : ok = true ∨ body.ReportsError) (breaks : body.Breaks fault) :
      ReadsAs config (.answered status ok (.ok body)) (.failed (.invalidResponse fault))
  | response {status : Int} {ok : Bool} {body : Json} {response : RunResponse}
      (counts : ok = true ∨ body.ReportsError) (carries : body.Carries response) :
      ReadsAs config (.answered status ok (.ok body)) (.response response)
  | escaped (status : Int) (ok : Bool) (error : Json.NestingError) :
      ReadsAs config (.answered status ok (.error (.nesting error))) (.escaped error)

end Engine

end ScriptWorkbench
