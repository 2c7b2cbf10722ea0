import Mathlib.Tactic.Common
import ScriptWorkbench.Command.Debugger
import ScriptWorkbench.Command.Tour

/-!
# Stacks on display

A stack is carried as one text with an item on each line, and its items are the
lines of that text again when it is displayed. An empty item at the end of a stack
is no line of the text, so it is not displayed. All other items are.
-/

namespace ScriptWorkbench

namespace Text

/-! ## Lines of a displayed text -/

/-- Whether a text has no character at which displayed text breaks. -/
def IsUnbroken (text : String) : Prop :=
  ∀ character ∈ text.toList, isLineBreak character = false

instance (text : String) : Decidable (IsUnbroken text) :=
  List.decidableBAll (fun character => isLineBreak character = false) text.toList

/-- A character at which the text does not break joins the line behind it. -/
theorem breakLines_cons {character : Char} (unbroken : isLineBreak character = false)
    (rest : List Char) :
    breakLines (character :: rest) =
      (character :: (breakLines rest).headD []) :: (breakLines rest).tail := by
  have noReturn : ∀ after, character = '\r' → rest = '\n' :: after → False := by
    intro after isReturn _
    rw [isReturn] at unbroken
    cases unbroken
  rw [breakLines.eq_3 character rest noReturn, if_neg (by simp [unbroken])]
  cases breakLines rest with
  | nil => rfl
  | cons line lines => rfl

theorem breakLines_append_lineFeed {line : List Char}
    (unbroken : ∀ character ∈ line, isLineBreak character = false) (rest : List Char) :
    breakLines (line ++ '\n' :: rest) = line :: breakLines rest := by
  induction line with
  | nil => rfl
  | cons character line induction =>
      rcases List.forall_mem_cons.mp unbroken with ⟨first, others⟩
      rw [List.cons_append, breakLines_cons first, induction others]
      rfl

theorem breakLines_of_unbroken {line : List Char} (nonempty : line ≠ [])
    (unbroken : ∀ character ∈ line, isLineBreak character = false) :
    breakLines line = [line] := by
  induction line with
  | nil => exact absurd rfl nonempty
  | cons character line induction =>
      rcases List.forall_mem_cons.mp unbroken with ⟨first, others⟩
      rw [breakLines_cons first]
      cases line with
      | nil => rfl
      | cons next rest =>
          rw [induction (List.cons_ne_nil next rest) others]
          rfl

theorem displayLines_append_lineFeed {line : String} (unbroken : IsUnbroken line)
    (text : String) : displayLines (line ++ "\n" ++ text) = line :: displayLines text := by
  have characters : (line ++ "\n" ++ text).toList = line.toList ++ '\n' :: text.toList := by
    simp
  rw [displayLines, characters, breakLines_append_lineFeed unbroken, List.map_cons,
    String.ofList_toList]
  rfl

theorem displayLines_of_isUnbroken {line : String} (nonempty : line ≠ "")
    (unbroken : IsUnbroken line) : displayLines line = [line] := by
  have characters : line.toList ≠ [] := by simpa using nonempty
  rw [displayLines, breakLines_of_unbroken characters unbroken, List.map_singleton,
    String.ofList_toList]

end Text

/-! ## Items of a stack -/

/-- A stack without its last item, if that is empty. -/
def withoutEmptyEnd (items : List String) : List String :=
  if items.getLast? = some "" then items.dropLast else items

theorem withoutEmptyEnd_cons_cons (first second : String) (rest : List String) :
    withoutEmptyEnd (first :: second :: rest) = first :: withoutEmptyEnd (second :: rest) := by
  rw [withoutEmptyEnd, withoutEmptyEnd, List.getLast?_cons_cons, List.dropLast_cons_cons]
  split <;> rfl

theorem withoutEmptyEnd_eq_self_iff {items : List String} :
    withoutEmptyEnd items = items ↔ items.getLast? ≠ some "" := by
  unfold withoutEmptyEnd
  split
  · next emptyEnd =>
      rcases List.getLast?_eq_some_iff.mp emptyEnd with ⟨front, rfl⟩
      simp
  · next otherEnd => simp [otherEnd]

/-- The lines of a displayed stack are its items but for an empty one at the
end. -/
theorem displayLines_stackText {items : List String}
    (unbroken : ∀ item ∈ items, Text.IsUnbroken item) :
    Text.displayLines (stackText items) = withoutEmptyEnd items := by
  induction items with
  | nil => rfl
  | cons item items induction =>
      rcases List.forall_mem_cons.mp unbroken with ⟨first, others⟩
      cases items with
      | nil =>
          by_cases empty : item = ""
          · rw [empty]
            rfl
          · rw [stackText, String.intercalate_singleton,
              Text.displayLines_of_isUnbroken empty first, withoutEmptyEnd]
            simp [empty]
      | cons next rest =>
          rw [withoutEmptyEnd_cons_cons, ← induction others, stackText,
            String.intercalate_cons_cons, Text.displayLines_append_lineFeed first]
          rfl

/-! ## Views of a step -/

/-- The lines of a view's stack texts are the items of the stacks of its step,
except that an empty item at the end of a stack is lost. The debugger and the tour
show just these lines. -/
theorem stacks_display_without_empty_end (playback : Playback) (step : TraceStep)
    (unbroken : ∀ item ∈ step.stack ++ step.altStack, Text.IsUnbroken item) :
    let view := Session.viewOfStep playback step
    Text.displayLines view.stackText = withoutEmptyEnd step.stack ∧
    Text.displayLines view.altStackText = withoutEmptyEnd step.altStack ∧
    (Text.displayLines view.stackText = step.stack ↔ step.stack.getLast? ≠ some "") ∧
    (Text.displayLines view.altStackText = step.altStack ↔ step.altStack.getLast? ≠ some "") ∧
    (∀ words, DebuggerCommand.viewLines words view =
      [s!"step {playback.position}: pc={step.programCounter} " ++
          DebuggerCommand.viewPlace words view,
        "  stack:    " ++ ("[" ++ ", ".intercalate (withoutEmptyEnd step.stack) ++ "]"),
        "  altstack: " ++ ("[" ++ ", ".intercalate (withoutEmptyEnd step.altStack) ++ "]")]) ∧
    ∀ words, ∃ place later, Tour.viewLines words view =
      (place ++ " stack=" ++ Text.quotedList (withoutEmptyEnd step.stack)) :: later := by
  intro view
  have stack : Text.displayLines view.stackText = withoutEmptyEnd step.stack :=
    displayLines_stackText fun item member => unbroken item (by simp [member])
  have altStack : Text.displayLines view.altStackText = withoutEmptyEnd step.altStack :=
    displayLines_stackText fun item member => unbroken item (by simp [member])
  refine ⟨stack, altStack, ?_, ?_, fun words => ?_, fun words => ?_⟩
  · rw [stack, withoutEmptyEnd_eq_self_iff]
  · rw [altStack, withoutEmptyEnd_eq_self_iff]
  · rw [← stack, ← altStack]
    rfl
  · rw [← stack, Tour.viewLines]
    split
    · exact ⟨_, _, rfl⟩
    · exact ⟨_, _, rfl⟩

/-- The second item of the stack is empty, and so is the first one of the other
stack. -/
theorem stacks_display_without_empty_end_of_false_on_top :
    let step : TraceStep := { programCounter := 2, stack := ["01", ""], altStack := ["", "ab"] }
    let response : RunResponse := { outcome := .success, trace := [step] }
    let playback : Playback := { response, position := 1, words := ["1", "0"], offsets := none }
    let view := (Session.loaded playback).view
    Text.displayLines view.stackText = ["01"] ∧ Text.displayLines view.stackText ≠ step.stack ∧
      Text.displayLines view.altStackText = step.altStack ∧
      DebuggerCommand.viewLines ["1", "0"] view =
        ["step 1: pc=2 (unmapped)", "  stack:    [01]", "  altstack: [, ab]"] := by
  intro step response playback view
  have unbroken : ∀ item ∈ step.stack ++ step.altStack, Text.IsUnbroken item := by decide
  rcases stacks_display_without_empty_end playback step unbroken with
    ⟨stack, _, whole, wholeAlt, lines, _⟩
  refine ⟨stack, fun same => whole.mp same rfl, wholeAlt.mpr (by decide), ?_⟩
  exact (lines ["1", "0"]).trans (by decide +kernel)

end ScriptWorkbench
