import ScriptWorkbench.Proofs.Soundness

/-!
# Coherence with the active editor

Every operation leaves a coherent workspace coherent, except that a run which
is completed while the hex editor is active makes the source editor active
without compiling it.
-/

namespace ScriptWorkbench.Workspace

variable {workspace before after : Workspace}

/-- Whether the hex text and the error are what the source compiles to. -/
def SourceAgrees (workspace : Workspace) : Prop :=
  match Program.ofSource workspace.source with
  | .ok program => workspace.errorText = "" ∧ workspace.hex = program.hex
  | .error error => workspace.errorText = error.text

theorem program_of_source (active : workspace.activeEditor = .source) :
    workspace.program = Program.ofSource workspace.source := by
  rw [program, active]

theorem SourceAgrees.of_holds (holds : workspace.Holds (Program.ofSource workspace.source)) :
    workspace.SourceAgrees := by
  unfold SourceAgrees
  cases compiled : Program.ofSource workspace.source with
  | ok program =>
      rw [compiled] at holds
      rcases holds with ⟨noFault, _, hex, _⟩
      exact ⟨errorText_eq_empty_iff.mpr noFault, hex⟩
  | error error =>
      rw [compiled] at holds
      exact holds

/-- A sound workspace that has the hex text of its source has all of its
program. -/
theorem SourceAgrees.holds (agrees : workspace.SourceAgrees) (sound : workspace.Sound) :
    workspace.Holds (Program.ofSource workspace.source) := by
  unfold SourceAgrees at agrees
  cases compiled : Program.ofSource workspace.source with
  | ok program =>
      rw [compiled] at agrees
      rcases agrees with ⟨noError, sameHex⟩
      have noFault := errorText_eq_empty_iff.mp noError
      rcases sound.program noFault with ⟨shown, shownSound, shows⟩
      rcases Program.ofSource_eq_ok_iff.mp compiled with ⟨_, assembled, _⟩
      have sameBytes : shown.bytes = program.bytes := by
        rw [shows.2.1] at sameHex
        exact Hex.encode_injective sameHex
      rw [shows.1, ← sameBytes] at assembled
      rw [shows.1, shownSound.ofSource_self_iff.mpr assembled] at compiled
      cases compiled
      exact ⟨noFault, shows⟩
  | error error =>
      rw [compiled] at agrees
      exact agrees

/-- The hex editor, while it is active, has been compiled. So only the source
editor can disagree with what is shown. -/
theorem Sound.coherent_iff (sound : workspace.Sound) :
    workspace.Coherent ↔ (workspace.activeEditor = .source → workspace.SourceAgrees) := by
  rw [Workspace.coherent_iff]
  constructor
  · rintro ⟨holds, _⟩ active
    rw [program_of_source active] at holds
    exact .of_holds holds
  · intro agrees
    refine ⟨?_, sound.session⟩
    cases active : workspace.activeEditor with
    | hex => exact sound.hexEditor active
    | source =>
        rw [program_of_source active]
        exact (agrees active).holds sound

/-! ## What is kept without an edit -/

/-- Whether the program is the same, and the active editor is the same unless
it is the source editor now. -/
structure Keeps (before after : Workspace) : Prop where
  source : after.source = before.source
  hex : after.hex = before.hex
  exports : after.exports = before.exports
  offsets : after.offsets = before.offsets
  breakpoints : after.breakpoints = before.breakpoints
  errorText : after.errorText = before.errorText
  activeEditor : after.activeEditor = before.activeEditor ∨ after.activeEditor = .source

namespace Keeps

theorem refl (workspace : Workspace) : Keeps workspace workspace :=
  ⟨rfl, rfl, rfl, rfl, rfl, rfl, .inl rfl⟩

theorem trans {middle : Workspace} (first : Keeps before middle) (second : Keeps middle after) :
    Keeps before after where
  source := second.source.trans first.source
  hex := second.hex.trans first.hex
  exports := second.exports.trans first.exports
  offsets := second.offsets.trans first.offsets
  breakpoints := second.breakpoints.trans first.breakpoints
  errorText := second.errorText.trans first.errorText
  activeEditor := by
    cases second.activeEditor with
    | inl same =>
        rw [same]
        exact first.activeEditor
    | inr isSource => exact .inr isSource

theorem runRequest? (keeps : Keeps before after) : after.runRequest? = before.runRequest? := by
  have sameFault : after.fault = none ↔ before.fault = none := by
    rw [← errorText_eq_empty_iff, ← errorText_eq_empty_iff, keeps.errorText]
  unfold Workspace.runRequest?
  cases own : before.fault with
  | none =>
      rw [sameFault.mpr own, keeps.hex, breakpointOffsets, keeps.offsets, keeps.breakpoints]
      rfl
  | some error =>
      cases other : after.fault with
      | none =>
          rw [sameFault.mp other] at own
          cases own
      | some error => rfl

theorem sourceAgrees_iff (keeps : Keeps before after) :
    after.SourceAgrees ↔ before.SourceAgrees := by
  unfold SourceAgrees
  rw [keeps.source, keeps.hex, keeps.errorText]

theorem refresh (coherent : workspace.Coherent) : Keeps workspace workspace.refresh := by
  rcases coherent with ⟨same, sameError⟩
  have source := congrArg Workspace.source same
  have hex := congrArg Workspace.hex same
  have exports := congrArg Workspace.exports same
  have offsets := congrArg Workspace.offsets same
  have breakpoints := congrArg Workspace.breakpoints same
  have activeEditor := congrArg Workspace.activeEditor same
  exact ⟨source, hex, exports, offsets, breakpoints, sameError, .inl activeEditor⟩

theorem beginRun (coherent : workspace.Coherent) : Keeps workspace workspace.beginRun.2 := by
  cases fault : workspace.refresh.fault with
  | some error =>
      rw [beginRun_of_fault fault]
      exact refresh coherent
  | none =>
      rw [beginRun_of_compiled fault]
      have awaited : Keeps workspace.refresh workspace.refresh.awaiting :=
        ⟨rfl, rfl, rfl, rfl, rfl, rfl, .inl rfl⟩
      exact (refresh coherent).trans awaited

theorem completeRun (workspace : Workspace) (ticket : Int) (response : RunResponse)
    (jumpToEnd : Bool) : Keeps workspace (workspace.completeRun ticket response jumpToEnd).2 := by
  cases awaited : workspace.awaited? ticket with
  | none =>
      rw [completeRun_of_not_awaited awaited]
      exact refl workspace
  | some run =>
      rw [completeRun_of_awaited awaited]
      exact ⟨rfl, rfl, rfl, rfl, rfl, rfl, .inr rfl⟩

theorem failRun (workspace : Workspace) (ticket : Int) (message : String) :
    Keeps workspace (workspace.failRun ticket message).2 := by
  cases awaited : workspace.awaited? ticket with
  | none =>
      rw [failRun_of_not_awaited awaited]
      exact refl workspace
  | some run =>
      rw [failRun_of_awaited awaited]
      exact ⟨rfl, rfl, rfl, rfl, rfl, rfl, .inl rfl⟩

theorem settleRun (workspace : Workspace) (ticket : Int) (jumpToEnd : Bool)
    (answer : RunAnswer) :
    Keeps workspace (workspace.settleRun ticket jumpToEnd answer).2 := by
  cases answer with
  | response response => exact completeRun workspace ticket response jumpToEnd
  | failed error => exact failRun workspace ticket error.message
  | escaped error => exact refl workspace

theorem run (coherent : workspace.Coherent) (config : EngineConfig) (jumpToEnd : Bool)
    (transport : Post → PostOutcome) :
    Keeps workspace ((workspace.run config jumpToEnd).run transport).2 := by
  rcases run_cases config jumpToEnd transport workspace with begun | ⟨ticket, answer, settled⟩
  · rw [begun]
    exact beginRun coherent
  · rw [settled]
    exact (beginRun coherent).trans (settleRun _ ticket jumpToEnd answer)

theorem move (coherent : workspace.Coherent) (step : Session → Session)
    (config : Option EngineConfig) (transport : Post → PostOutcome) :
    Keeps workspace (afterMove transport workspace (workspace.move step config)) := by
  rcases afterMove_cases step config transport workspace with
    refused | ⟨_, stepped⟩ | ⟨engine, ran⟩
  · rw [refused]
    exact refl workspace
  · rw [stepped]
    exact ⟨rfl, rfl, rfl, rfl, rfl, rfl, .inl rfl⟩
  · rw [ran]
    exact run coherent engine false transport

end Keeps

theorem Operation.keeps {operation : Operation} (noEdit : operation.isEdit = false)
    (coherent : workspace.Coherent) : Keeps workspace (operation.apply workspace) := by
  cases operation with
  | editSource | editHex | switchEditor | clear | loadSample | toggleBreakpoint => cases noEdit
  | beginRun => exact .beginRun coherent
  | completeRun ticket response jumpToEnd => exact .completeRun workspace ticket response jumpToEnd
  | failRun ticket message => exact .failRun workspace ticket message
  | run config jumpToEnd transport => exact .run coherent config jumpToEnd transport
  | stepForward config transport => exact .move coherent _ config transport
  | stepBackward config transport => exact .move coherent _ config transport

theorem Operation.coherent_of_isEdit {operation : Operation} (edit : operation.isEdit = true)
    (coherent : workspace.Coherent) : (operation.apply workspace).Coherent := by
  rcases operation.edit_cases edit workspace with
    same | ⟨source, hex, editor, recompiled⟩ | ⟨breakpoints, marked⟩
  · rw [same]
    exact coherent
  · rw [recompiled]
    exact coherent_refresh _
  · rw [marked]
    rw [coherent_iff] at coherent ⊢
    exact coherent

/-- One operation makes a coherent workspace incoherent exactly if it is no edit
but leaves the hex editor, and the source is not what the hex editor shows. -/
theorem Operation.not_coherent_iff (reachable : workspace.Reachable)
    (coherent : workspace.Coherent) (operation : Operation) :
    ¬(operation.apply workspace).Coherent ↔
      operation.isEdit = false ∧ workspace.activeEditor = .hex ∧
        (operation.apply workspace).activeEditor = .source ∧ ¬workspace.SourceAgrees := by
  cases kind : operation.isEdit with
  | true =>
      have stays := operation.coherent_of_isEdit kind coherent
      simp only [stays, not_true_eq_false, reduceCtorEq, false_and]
  | false =>
      have keeps := operation.keeps kind coherent
      have own := reachable.sound.coherent_iff.mp coherent
      rw [(reachable.operate operation).sound.coherent_iff, keeps.sourceAgrees_iff,
        Classical.not_imp]
      constructor
      · rintro ⟨isSource, disagrees⟩
        refine ⟨rfl, ?_, isSource, disagrees⟩
        cases active : workspace.activeEditor with
        | hex => rfl
        | source => exact absurd (own active) disagrees
      · rintro ⟨_, _, isSource, disagrees⟩
        exact ⟨isSource, disagrees⟩

/-! ## Runs of operations -/

/-- While the source is what is shown, operations that are no edits change
neither the coherence nor the request. -/
theorem coherent_afterAll {operations : List Operation} (reachable : workspace.Reachable)
    (coherent : workspace.Coherent) (agrees : workspace.SourceAgrees)
    (noEdits : ∀ operation ∈ operations, operation.isEdit = false) :
    (afterAll operations workspace).Coherent ∧ Keeps workspace (afterAll operations workspace) := by
  induction operations generalizing workspace with
  | nil => exact ⟨coherent, .refl workspace⟩
  | cons operation operations induction =>
      rw [List.forall_mem_cons] at noEdits
      have keeps := operation.keeps noEdits.1 coherent
      have agreesAfter := keeps.sourceAgrees_iff.mpr agrees
      have reachableAfter := reachable.operate operation
      have coherentAfter := reachableAfter.sound.coherent_iff.mpr fun _ => agreesAfter
      rcases induction reachableAfter coherentAfter agreesAfter noEdits.2 with ⟨stays, others⟩
      exact ⟨stays, keeps.trans others⟩

theorem Coherent.errorText_ne_empty_iff (coherent : workspace.Coherent) :
    workspace.errorText ≠ "" ↔ ∃ error, workspace.program = .error error := by
  have holds := (coherent_iff.mp coherent).1
  cases compiled : workspace.program with
  | ok program =>
      rw [compiled] at holds
      simp [errorText_eq_empty_iff.mpr holds.1]
  | error error =>
      rw [compiled] at holds
      rw [holds]
      simp [error.text_ne_empty]

/-- A reachable workspace is coherent with its active editor unless that is the
source editor and the source compiles to something else than what is shown.
This comes about only when a run is completed in the hex editor. As long as the
source is what is shown, operations that are no edits keep the coherence and
send the same request. -/
theorem coherent_iff_source_agrees (reachable : workspace.Reachable) :
    (workspace.Coherent ↔ (workspace.activeEditor = .source → workspace.SourceAgrees)) ∧
    (workspace.Coherent →
      (workspace.errorText ≠ "" ↔ ∃ error, workspace.program = .error error) ∧
      (∀ operation : Operation, ¬(operation.apply workspace).Coherent ↔
        operation.isEdit = false ∧ workspace.activeEditor = .hex ∧
          (operation.apply workspace).activeEditor = .source ∧ ¬workspace.SourceAgrees) ∧
      (workspace.SourceAgrees → ∀ operations : List Operation,
        (∀ operation ∈ operations, operation.isEdit = false) →
          (afterAll operations workspace).Coherent ∧
          (afterAll operations workspace).refresh.runRequest? =
            workspace.refresh.runRequest?)) := by
  refine ⟨reachable.sound.coherent_iff, fun coherent => ⟨coherent.errorText_ne_empty_iff,
    Operation.not_coherent_iff reachable coherent, ?_⟩⟩
  intro agrees operations noEdits
  rcases coherent_afterAll reachable coherent agrees noEdits with ⟨stays, keeps⟩
  refine ⟨stays, ?_⟩
  rw [(Keeps.refresh stays).runRequest?, keeps.runRequest?, (Keeps.refresh coherent).runRequest?]

/-- A run that is completed while the hex editor has an error: the source
editor, now active, compiles, but the error stays. -/
theorem coherent_iff_source_agrees_of_late_response :
    let workspace := afterAll
      [.editSource "OP_DUP", .beginRun, .editHex "zz",
        .completeRun 1 { outcome := .success, trace := [] } false]
      (create "" "" .source)
    workspace.Reachable ∧ workspace.activeEditor = .source ∧
      workspace.errorText = "error: invalid hex format" ∧
      (∃ program, workspace.program = .ok program) ∧ ¬workspace.Coherent := by
  intro workspace
  have reachable : workspace.Reachable := (Reachable.create "" "" .source).afterAll _
  have active : workspace.activeEditor = .source := by rfl
  have error : workspace.errorText = "error: invalid hex format" := by rfl
  have source : workspace.source = "OP_DUP" := by rfl
  have compiles : ∃ program, Program.ofSource workspace.source = .ok program := by
    rw [source]
    exact ⟨_, rfl⟩
  rcases compiles with ⟨program, compiled⟩
  refine ⟨reachable, active, error, ⟨program, (program_of_source active).trans compiled⟩, ?_⟩
  intro coherent
  have agrees := (coherent_iff_source_agrees reachable).1.mp coherent active
  rw [SourceAgrees, compiled] at agrees
  have noError := agrees.1
  rw [error] at noError
  revert noError
  decide

end ScriptWorkbench.Workspace
