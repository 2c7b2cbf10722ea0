/-!
# Control sequences

A terminal takes an escape character and an opening bracket as the start of a
control sequence, which goes on with parameters, then intermediates, and ends
with one final character. Plain text is text without them. The three classes
share no character, so where a sequence ends is never in doubt, and none of
them holds a line feed, so a sequence never spans two lines.
-/

namespace ScriptWorkbench.Text

def isSequenceParameter (character : Char) : Bool := '0' ≤ character && character ≤ '?'

def isSequenceIntermediate (character : Char) : Bool := ' ' ≤ character && character ≤ '/'

def isSequenceFinal (character : Char) : Bool := '@' ≤ character && character ≤ '~'

/-- The length of the control sequence at the start of a text, if a complete one
is there. -/
def controlLength? : List Char → Option Nat
  | '\x1B' :: '[' :: body =>
    let parameters := body.takeWhile isSequenceParameter
    let afterParameters := body.drop parameters.length
    let intermediates := afterParameters.takeWhile isSequenceIntermediate
    match afterParameters.drop intermediates.length with
    | [] => none
    | final :: _ =>
      if isSequenceFinal final then some (parameters.length + intermediates.length + 3)
      else none
  | _ => none

/-- Skips as many characters as are left of a control sequence, and goes on
without the later sequences. -/
def dropControls (skipped : Nat) : List Char → List Char
  | [] => []
  | character :: rest =>
    match skipped with
    | left + 1 => dropControls left rest
    | 0 =>
      match controlLength? (character :: rest) with
      | some length => dropControls (length - 1) rest
      | none => character :: dropControls 0 rest

/-- A text without its control sequences. One that is not complete stays. -/
def plain (text : String) : String := String.ofList (dropControls 0 text.toList)

example : plain "a\x1B[1;31mb\x1B[0 qc" = "abc" := by decide

example : plain "\x1B[1\n\x1B[" = "\x1B[1\n\x1B[" := by decide

theorem dropControls_eq_self {text : List Char} (absent : '\x1B' ∉ text) :
    dropControls 0 text = text := by
  induction text with
  | nil => rfl
  | cons character rest induction =>
    simp only [List.mem_cons, not_or] at absent
    have none_here : controlLength? (character :: rest) = none := by
      unfold controlLength?
      split
      · simp_all
      · rfl
    simp [dropControls, none_here, induction absent.2]

/-- Text without an escape character is plain as it stands. -/
theorem plain_eq_self {text : String} (absent : '\x1B' ∉ text.toList) : plain text = text := by
  simp [plain, dropControls_eq_self absent]

end ScriptWorkbench.Text
