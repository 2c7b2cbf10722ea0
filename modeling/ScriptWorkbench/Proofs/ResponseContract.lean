import ScriptWorkbench.Debug.Trace
import ScriptWorkbench.Proofs.Outcomes

/-!
# The contract of responses

What a body has to be so that it can be read as a response, described apart from
the reader. A body that keeps the contract carries one response, and is read as
that. Any other body breaks the contract somewhere, and is refused for the place
that comes first.
-/

namespace ScriptWorkbench

namespace Json

variable {members : List (String × Json)} {name : String}

/-! ## Bodies that keep the contract -/

/-- Whether the stack of a name is absent or a list of texts. -/
def HasStack (members : List (String × Json)) (name : String) : Prop :=
  member? members name = none ∨
    ∃ items : List String, member? members name = some (.array (items.map Json.string))

/-- Whether there is a program counter, which is an integer and not negative. -/
def HasProgramCounter (members : List (String × Json)) : Prop :=
  ∃ programCounter : Nat, member? members "pc" = some (.integer programCounter)

def IsStep : Json → Prop
  | .object members =>
    HasProgramCounter members ∧ HasStack members "stack" ∧ HasStack members "altstack"
  | _ => False

def HasStatus (members : List (String × Json)) : Prop :=
  member? members "status" = some (.string "success") ∨
    member? members "status" = some (.string "error")

/-- The items of a stack, none if it is absent. -/
inductive CarriesStack (members : List (String × Json)) (name : String) : List String → Prop
  | absent (missing : member? members name = none) : CarriesStack members name []
  | listed {items : List String}
      (found : member? members name = some (.array (items.map Json.string))) :
      CarriesStack members name items

inductive CarriesStep : Json → TraceStep → Prop
  | object {members : List (String × Json)} {step : TraceStep}
      (programCounter : member? members "pc" = some (.integer step.programCounter))
      (stack : CarriesStack members "stack" step.stack)
      (altStack : CarriesStack members "altstack" step.altStack) :
      CarriesStep (.object members) step

/-- The steps of a trace, one for each item in order. -/
inductive CarriesTrace (members : List (String × Json)) : List TraceStep → Prop
  | absent (missing : member? members "trace" = none) : CarriesTrace members []
  | null (found : member? members "trace" = some .null) : CarriesTrace members []
  | listed {items : List Json} {steps : List TraceStep}
      (found : member? members "trace" = some (.array items))
      (each : List.Forall₂ CarriesStep items steps) : CarriesTrace members steps

/-- The outcome. A failure is described by a text that is not empty, or else by
the generic one. -/
inductive CarriesOutcome (members : List (String × Json)) : RunOutcome → Prop
  | success (status : member? members "status" = some (.string "success")) :
      CarriesOutcome members .success
  | described {detail : String} (status : member? members "status" = some (.string "error"))
      (found : member? members "error" = some (.string detail)) (notEmpty : detail ≠ "") :
      CarriesOutcome members (.failure detail)
  | undescribed (status : member? members "status" = some (.string "error"))
      (nothing : ∀ detail, member? members "error" = some (.string detail) → detail = "") :
      CarriesOutcome members (.failure RunOutcome.genericDetail)

inductive Carries : Json → RunResponse → Prop
  | object {members : List (String × Json)} {response : RunResponse}
      (outcome : CarriesOutcome members response.outcome)
      (trace : CarriesTrace members response.trace) : Carries (.object members) response

/-! ## Bodies that break it -/

/-- What is wrong with an item of a trace. -/
inductive BreaksStep (index : Nat) : Json → ResponseFault → Prop
  | notAnObject {item : Json} (other : ∀ members, item ≠ .object members) :
      BreaksStep index item (.stepNotAnObject index)
  | programCounter {members : List (String × Json)} (missing : ¬HasProgramCounter members) :
      BreaksStep index (.object members)
        (.invalidProgramCounter index ((member? members "pc").getD .null))
  | stack {members : List (String × Json)} (programCounter : HasProgramCounter members)
      (missing : ¬HasStack members "stack") :
      BreaksStep index (.object members) (.invalidStack index "stack")
  | altStack {members : List (String × Json)} (programCounter : HasProgramCounter members)
      (stack : HasStack members "stack") (missing : ¬HasStack members "altstack") :
      BreaksStep index (.object members) (.invalidStack index "altstack")

/-- What is wrong with a body. Of a trace, the first item that is no step counts. -/
inductive Breaks : Json → ResponseFault → Prop
  | notAnObject {body : Json} (other : ∀ members, body ≠ .object members) :
      Breaks body .notAnObject
  | status {members : List (String × Json)} (missing : ¬HasStatus members) :
      Breaks (.object members) (.unknownStatus ((member? members "status").getD .null))
  | trace {members : List (String × Json)} {trace : Json} (status : HasStatus members)
      (found : member? members "trace" = some trace) (notNull : trace ≠ .null)
      (other : ∀ items, trace ≠ .array items) : Breaks (.object members) .traceNotAList
  | step {members : List (String × Json)} {earlier later : List Json} {item : Json}
      {fault : ResponseFault} (status : HasStatus members)
      (found : member? members "trace" = some (.array (earlier ++ item :: later)))
      (steps : ∀ other ∈ earlier, other.IsStep) (breaks : BreaksStep earlier.length item fault) :
      Breaks (.object members) fault

/-! ## Keeping the contract and carrying a response -/

theorem hasStack_iff : HasStack members name ↔ ∃ items, CarriesStack members name items := by
  constructor
  · intro stack
    rcases stack with missing | ⟨items, found⟩
    · exact ⟨[], .absent missing⟩
    · exact ⟨items, .listed found⟩
  · intro carried
    rcases carried with ⟨items, missing | found⟩
    · exact .inl missing
    · exact .inr ⟨items, found⟩

theorem isStep_iff {item : Json} : item.IsStep ↔ ∃ step, CarriesStep item step := by
  constructor
  · intro isStep
    cases item with
    | object members =>
        rcases isStep with ⟨⟨programCounter, found⟩, hasStack, hasAltStack⟩
        rcases hasStack_iff.mp hasStack with ⟨stack, carriesStack⟩
        rcases hasStack_iff.mp hasAltStack with ⟨altStack, carriesAltStack⟩
        exact ⟨{ programCounter, stack, altStack }, found, carriesStack, carriesAltStack⟩
    | null | bool | integer | real | string | array => exact isStep.elim
  · intro carries
    rcases carries with ⟨step, programCounter, stack, altStack⟩
    exact ⟨⟨_, programCounter⟩, hasStack_iff.mpr ⟨_, stack⟩, hasStack_iff.mpr ⟨_, altStack⟩⟩

theorem hasStatus_iff : HasStatus members ↔ ∃ outcome, CarriesOutcome members outcome := by
  constructor
  · intro status
    rcases status with success | error
    · exact ⟨.success, .success success⟩
    · by_cases described : ∃ detail, member? members "error" = some (.string detail) ∧ detail ≠ ""
      · rcases described with ⟨detail, found, notEmpty⟩
        exact ⟨.failure detail, .described error found notEmpty⟩
      · refine ⟨_, .undescribed error fun detail found => ?_⟩
        by_contra notEmpty
        exact described ⟨detail, found, notEmpty⟩
  · intro carries
    rcases carries with ⟨outcome, success | ⟨error, _, _⟩ | ⟨error, _⟩⟩
    · exact .inl success
    · exact .inr error
    · exact .inr error

/-- A member that may be absent has a value that is not null exactly if it is
present with that value. -/
theorem getD_null_eq_iff {found : Option Json} {value : Json} (notNull : value ≠ .null) :
    found.getD .null = value ↔ found = some value := by
  cases found with
  | none => simp [notNull.symm]
  | some other => simp

theorem string?_eq_some_iff {value : Json} {text : String} :
    value.string? = some text ↔ value = .string text := by
  cases value <;> simp [string?]

theorem mapM_string?_eq_some_iff {items : List Json} {texts : List String} :
    items.mapM string? = some texts ↔ items = texts.map Json.string := by
  induction items generalizing texts with
  | nil => cases texts <;> simp
  | cons item items induction =>
      simp only [List.mapM_cons, Option.bind_eq_bind, Option.bind_eq_some_iff, Option.pure_def,
        Option.some.injEq, string?_eq_some_iff, induction]
      constructor
      · intro read
        rcases read with ⟨text, rfl, others, rfl, rfl⟩
        rfl
      · intro equal
        cases texts with
        | nil => cases equal
        | cons text others =>
            rcases List.cons.inj equal with ⟨first, rest⟩
            exact ⟨text, first, others, rest, rfl⟩

end Json

section Reading

open Json

variable {members : List (String × Json)} {name : String} {index : Nat} {fault : ResponseFault}

theorem readStack_eq_ok_iff {items : List String} :
    readStack index members name = .ok items ↔ CarriesStack members name items := by
  unfold readStack
  constructor
  · intro read
    split at read
    · next missing =>
        cases read
        exact .absent missing
    · next values found =>
        split at read
        · next texts listed =>
            cases read
            rw [mapM_string?_eq_some_iff.mp listed] at found
            exact .listed found
        · cases read
    · cases read
  · intro carries
    rcases carries with missing | found
    · simp only [missing]
    · simp only [found, mapM_string?_eq_some_iff.mpr rfl]

theorem readStack_eq_error_iff :
    readStack index members name = .error fault ↔
      ¬HasStack members name ∧ fault = .invalidStack index name := by
  have readable : HasStack members name ↔ ∃ items, readStack index members name = .ok items := by
    simp only [hasStack_iff, readStack_eq_ok_iff]
  rw [readable]
  apply eq_error_iff_of_single
  intro other failed
  unfold readStack at failed
  split at failed
  · cases failed
  · split at failed
    · cases failed
    · cases failed
      rfl
  · cases failed
    rfl

theorem readProgramCounter_eq_ok_iff {programCounter : Nat} :
    readProgramCounter index members = .ok programCounter ↔
      member? members "pc" = some (.integer programCounter) := by
  rw [← getD_null_eq_iff Json.noConfusion]
  unfold readProgramCounter
  constructor
  · intro read
    split at read
    · next found =>
        cases read
        exact found
    · cases read
  · intro found
    rw [found]

theorem readProgramCounter_eq_error_iff :
    readProgramCounter index members = .error fault ↔
      ¬HasProgramCounter members ∧
        fault = .invalidProgramCounter index ((member? members "pc").getD .null) := by
  have readable : HasProgramCounter members ↔
      ∃ programCounter, readProgramCounter index members = .ok programCounter := by
    simp only [HasProgramCounter, readProgramCounter_eq_ok_iff]
  rw [readable]
  apply eq_error_iff_of_single
  intro other failed
  unfold readProgramCounter at failed
  split at failed
  · cases failed
  · cases failed
    rfl

theorem TraceStep.ofJson_eq_ok_iff {item : Json} {step : TraceStep} :
    TraceStep.ofJson index item = .ok step ↔ CarriesStep item step := by
  cases item with
  | object members =>
      simp only [TraceStep.ofJson, bind_eq_ok_iff, pure_eq_ok_iff, readProgramCounter_eq_ok_iff,
        readStack_eq_ok_iff]
      constructor
      · intro read
        rcases read with ⟨programCounter, found, stack, carriesStack, altStack, carriesAlt, rfl⟩
        exact .object found carriesStack carriesAlt
      · intro carries
        rcases carries with ⟨programCounter, stack, altStack⟩
        exact ⟨_, programCounter, _, stack, _, altStack, rfl⟩
  | null | bool | integer | real | string | array =>
      constructor
      · intro impossible
        cases impossible
      · intro impossible
        cases impossible

theorem TraceStep.ofJson_eq_error_iff {item : Json} :
    TraceStep.ofJson index item = .error fault ↔ BreaksStep index item fault := by
  cases item with
  | object members =>
      simp only [TraceStep.ofJson, bind_eq_error_iff, readProgramCounter_eq_error_iff,
        readProgramCounter_eq_ok_iff, readStack_eq_error_iff, readStack_eq_ok_iff]
      constructor
      · intro failed
        rcases failed with
          ⟨missing, rfl⟩ | ⟨programCounter, found, ⟨missing, rfl⟩ | ⟨stack, carries, failed⟩⟩
        · exact .programCounter missing
        · exact .stack ⟨programCounter, found⟩ missing
        · rcases failed with ⟨missing, rfl⟩ | ⟨altStack, _, impossible⟩
          · exact .altStack ⟨programCounter, found⟩ (hasStack_iff.mpr ⟨stack, carries⟩) missing
          · cases impossible
      · intro breaks
        cases breaks with
        | notAnObject other => exact absurd rfl (other members)
        | programCounter missing => exact .inl ⟨missing, rfl⟩
        | stack programCounter missing =>
            rcases programCounter with ⟨programCounter, found⟩
            exact .inr ⟨programCounter, found, .inl ⟨missing, rfl⟩⟩
        | altStack programCounter stack missing =>
            rcases programCounter with ⟨programCounter, found⟩
            rcases hasStack_iff.mp stack with ⟨items, carries⟩
            exact .inr ⟨programCounter, found, .inr ⟨items, carries, .inl ⟨missing, rfl⟩⟩⟩
  | null | bool | integer | real | string | array =>
      constructor
      · intro failed
        cases failed
        exact .notAnObject (by simp)
      · intro breaks
        cases breaks
        rfl

theorem RunOutcome.ofMembers_eq_ok_iff {outcome : RunOutcome} :
    RunOutcome.ofMembers members = .ok outcome ↔ CarriesOutcome members outcome := by
  unfold RunOutcome.ofMembers
  constructor
  · intro read
    split at read
    · next status =>
        cases read
        exact .success ((getD_null_eq_iff Json.noConfusion).mp status)
    · next status =>
        rw [getD_null_eq_iff Json.noConfusion] at status
        split at read
        · next detail found =>
            cases read
            by_cases empty : detail = ""
            · rw [if_pos empty]
              refine .undescribed status fun other same => ?_
              rw [found] at same
              cases same
              exact empty
            · rw [if_neg empty]
              exact .described status found empty
        · next noText =>
            cases read
            exact .undescribed status fun detail found => absurd found (noText detail)
    · cases read
  · intro carries
    cases carries with
    | success status => simp only [status, Option.getD_some]
    | described status found notEmpty =>
        simp only [status, found, Option.getD_some, if_neg notEmpty]
    | undescribed status nothing =>
        simp only [status, Option.getD_some]
        split
        · next detail found => rw [if_pos (nothing detail found)]
        · rfl

theorem RunOutcome.ofMembers_eq_error_iff :
    RunOutcome.ofMembers members = .error fault ↔
      ¬HasStatus members ∧ fault = .unknownStatus ((member? members "status").getD .null) := by
  have readable : HasStatus members ↔ ∃ outcome, RunOutcome.ofMembers members = .ok outcome := by
    simp only [hasStatus_iff, RunOutcome.ofMembers_eq_ok_iff]
  rw [readable]
  apply eq_error_iff_of_single
  intro other failed
  unfold RunOutcome.ofMembers at failed
  split at failed
  · cases failed
  · split at failed <;> cases failed
  · cases failed
    rfl

/-- The steps that are read do not depend on their numbers. -/
theorem mapM_ofJson_eq_ok_iff {items : List Json} {steps : List TraceStep} :
    (items.zipIdx.mapM fun (item, index) => TraceStep.ofJson index item) = .ok steps ↔
      List.Forall₂ CarriesStep items steps := by
  simp only [mapM_eq_ok_iff, TraceStep.ofJson_eq_ok_iff]
  rw [← List.forall₂_map_left_iff (f := Prod.fst), List.zipIdx_map_fst]

/-- The first item that is no step is the one that is at fault. -/
theorem mapM_ofJson_eq_error_iff {items : List Json} :
    (items.zipIdx.mapM fun (item, index) => TraceStep.ofJson index item) = .error fault ↔
      ∃ earlier item later, items = earlier ++ item :: later ∧
        (∀ other ∈ earlier, other.IsStep) ∧ BreaksStep earlier.length item fault := by
  simp only [mapM_eq_error_iff, TraceStep.ofJson_eq_ok_iff, TraceStep.ofJson_eq_error_iff]
  constructor
  · intro fails
    rcases fails with ⟨numbered, ⟨item, index⟩, others, split, steps, breaks⟩
    rcases List.zipIdx_eq_append_iff.mp split with ⟨earlier, rest, rfl, rfl, restSplit⟩
    rcases List.zipIdx_eq_cons_iff.mp restSplit.symm with ⟨first, later, rfl, same, _⟩
    cases same
    refine ⟨earlier, item, later, rfl, fun other member => ?_, by simpa using breaks⟩
    rw [← List.zipIdx_map_fst 0 earlier] at member
    rcases List.mem_map.mp member with ⟨entry, numbered, rfl⟩
    exact isStep_iff.mpr (steps entry numbered)
  · intro fails
    rcases fails with ⟨earlier, item, later, rfl, steps, breaks⟩
    refine ⟨earlier.zipIdx, (item, earlier.length), later.zipIdx (earlier.length + 1), ?_, ?_,
      breaks⟩
    · simp [List.zipIdx_append, List.zipIdx_cons]
    · intro entry member
      exact isStep_iff.mp (steps entry.1 (List.fst_mem_of_mem_zipIdx member))

theorem readTrace_eq_ok_iff {steps : List TraceStep} :
    readTrace members = .ok steps ↔ CarriesTrace members steps := by
  unfold readTrace
  constructor
  · intro read
    split at read
    · next absent =>
        cases read
        cases found : member? members "trace" with
        | none => exact .absent found
        | some value =>
            rw [found, Option.getD_some] at absent
            rw [absent] at found
            exact .null found
    · next items found =>
        rw [getD_null_eq_iff Json.noConfusion] at found
        exact .listed found (mapM_ofJson_eq_ok_iff.mp read)
    · cases read
  · intro carries
    rcases carries with missing | null | ⟨found, each⟩
    · rw [missing]
      rfl
    · rw [null]
      rfl
    · rw [found]
      exact mapM_ofJson_eq_ok_iff.mpr each

theorem readTrace_eq_error_iff :
    readTrace members = .error fault ↔
      (∃ trace, member? members "trace" = some trace ∧ trace ≠ .null ∧
        (∀ items, trace ≠ .array items) ∧ fault = .traceNotAList) ∨
      ∃ earlier item later,
        member? members "trace" = some (.array (earlier ++ item :: later)) ∧
          (∀ other ∈ earlier, other.IsStep) ∧ BreaksStep earlier.length item fault := by
  unfold readTrace
  cases found : member? members "trace" with
  | none => simp
  | some trace =>
      cases trace with
      | array items =>
          simp only [Option.getD_some, mapM_ofJson_eq_error_iff]
          simp
      | null => simp
      | bool | integer | real | string | object => simp [eq_comm]

theorem RunResponse.ofJson_eq_ok_iff {body : Json} {response : RunResponse} :
    RunResponse.ofJson body = .ok response ↔ body.Carries response := by
  cases body with
  | object members =>
      simp only [RunResponse.ofJson, bind_eq_ok_iff, pure_eq_ok_iff,
        RunOutcome.ofMembers_eq_ok_iff, readTrace_eq_ok_iff]
      constructor
      · intro read
        rcases read with ⟨outcome, status, trace, steps, rfl⟩
        exact .object status steps
      · intro carries
        rcases carries with ⟨status, steps⟩
        exact ⟨_, status, _, steps, rfl⟩
  | null | bool | integer | real | string | array =>
      constructor
      · intro impossible
        cases impossible
      · intro impossible
        cases impossible

theorem RunResponse.ofJson_eq_error_iff {body : Json} :
    RunResponse.ofJson body = .error fault ↔ body.Breaks fault := by
  cases body with
  | object members =>
      simp only [RunResponse.ofJson, bind_eq_error_iff, RunOutcome.ofMembers_eq_error_iff,
        RunOutcome.ofMembers_eq_ok_iff, readTrace_eq_error_iff]
      constructor
      · intro failed
        rcases failed with ⟨missing, rfl⟩ | ⟨outcome, carries, failed⟩
        · exact .status missing
        · have status := hasStatus_iff.mpr ⟨outcome, carries⟩
          rcases failed with failed | ⟨_, _, impossible⟩
          · rcases failed with
              ⟨trace, found, notNull, noList, rfl⟩ | ⟨earlier, item, later, found, steps, breaks⟩
            · exact .trace status found notNull noList
            · exact .step status found steps breaks
          · cases impossible
      · intro breaks
        cases breaks with
        | notAnObject other => exact absurd rfl (other members)
        | status missing => exact .inl ⟨missing, rfl⟩
        | trace status found notNull other =>
            rcases hasStatus_iff.mp status with ⟨outcome, carries⟩
            exact .inr ⟨outcome, carries, .inl (.inl ⟨_, found, notNull, other, rfl⟩)⟩
        | step status found steps breaks =>
            rcases hasStatus_iff.mp status with ⟨outcome, carries⟩
            exact .inr ⟨outcome, carries, .inl (.inr ⟨_, _, _, found, steps, breaks⟩)⟩
  | null | bool | integer | real | string | array =>
      constructor
      · intro failed
        cases failed
        exact .notAnObject (by simp)
      · intro breaks
        cases breaks
        rfl

end Reading

/-! ## Writing -/

end ScriptWorkbench
