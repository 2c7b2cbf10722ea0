import ScriptWorkbench.Command.Report
import ScriptWorkbench.Proofs.AcceptedWords
import ScriptWorkbench.Proofs.CanonicalForm

/-!
# What is seen of reports

A console shows each printed line by itself. So if it can show all lines of a report,
they are seen one for one and in order, and the report ends as it would. How a console
treats control sequences, or characters that it cannot encode, is its own matter; all
that is asked of it is that it shows plain ASCII text as it stands.
-/

namespace ScriptWorkbench

/-! ## Plain text -/

namespace Text

/-- Whether a text holds nothing but visible ASCII characters, spaces and line feeds. -/
def IsPlainAscii (text : List Char) : Prop :=
  ∀ character ∈ text, (0x20 ≤ character.toNat ∧ character.toNat < 0x7F) ∨ character = '\n'

instance (text : List Char) : Decidable (IsPlainAscii text) :=
  decidable_of_iff (text.all (fun character =>
    decide (0x20 ≤ character.toNat ∧ character.toNat < 0x7F) || character == '\n') = true) <| by
    simp [IsPlainAscii]

theorem isPlainAscii_append {front back : List Char} :
    IsPlainAscii (front ++ back) ↔ IsPlainAscii front ∧ IsPlainAscii back :=
  List.forall_mem_append

theorem isPlainAscii_of_isVisible {text : List Char} (visible : IsVisible text) :
    IsPlainAscii text := by
  intro character member
  have codes := visible.2 character member
  exact .inl ⟨Nat.le_of_lt codes.1, codes.2⟩

/-- The character that starts control sequences is no plain one. -/
theorem IsPlainAscii.escape_notMem {text : List Char} (isPlain : IsPlainAscii text) :
    '\x1B' ∉ text := by
  intro escape
  rcases isPlain _ escape with codes | lineFeed
  · revert codes
    decide
  · cases lineFeed

theorem IsPlainAscii.isEncodable {line : String} (isPlain : IsPlainAscii line.toList) :
    isEncodable line = true := by
  rw [Text.isEncodable, List.all_eq_true]
  intro character member
  have code : character.toNat < 0x7F := by
    rcases isPlain character member with codes | rfl
    · exact codes.2
    · decide
  have half : character.toNat - standInDistance = 0 :=
    Nat.sub_eq_zero_of_le (Nat.le_of_lt (Nat.lt_trans code (by decide)))
  rw [isStandIn, half]
  rfl

theorem isPlainAscii_repr (number : Nat) : IsPlainAscii number.repr.toList := by
  rw [Nat.toList_repr]
  intro character member
  have digit := Nat.isDigit_of_mem_toDigits (by decide) (by decide) member
  simp only [Char.isDigit, Bool.and_eq_true, decide_eq_true_eq] at digit
  have lower := UInt32.le_iff_toNat_le.mp digit.1
  have upper := UInt32.le_iff_toNat_le.mp digit.2
  exact .inl ⟨Nat.le_trans (by decide) lower, Nat.lt_of_le_of_lt upper (by decide)⟩

theorem isPlainAscii_toString (number : Int) : IsPlainAscii (toString number).toList := by
  cases number with
  | ofNat number => exact isPlainAscii_repr number
  | negSucc number =>
      change IsPlainAscii ("-" ++ (number + 1).repr).toList
      rw [String.toList_append, isPlainAscii_append]
      exact ⟨by decide, isPlainAscii_repr _⟩

theorem isPlainAscii_of_digits {digits : List Char}
    (isDigit : ∀ character ∈ digits, Hex.isDigit character = true) : IsPlainAscii digits := by
  intro character member
  have codes := Hex.codes_of_isDigit (isDigit character member)
  exact .inl (by omega)

end Text

/-- The words of scripts are plain. -/
theorem InGrammar.isPlainAscii {table : OpcodeTable} {word : List Char}
    (inGrammar : InGrammar table word) : Text.IsPlainAscii word := by
  cases inGrammar with
  | data nonempty even isDigit =>
      rw [← List.singleton_append, Text.isPlainAscii_append, Text.isPlainAscii_append]
      exact ⟨by decide, Text.isPlainAscii_of_digits isDigit, by decide⟩
  | minusOne => decide
  | number small => exact Text.isPlainAscii_repr _
  | mnemonic spelled declared =>
      exact Text.isPlainAscii_of_isVisible (isVisible_of_isMnemonic spelled)
  | bareHex noNumber even isDigit => exact Text.isPlainAscii_of_digits isDigit

theorem isPlainAscii_of_mem_splitWords {table : OpcodeTable} {filename source word : String}
    {bytes : Bytes} (assembled : assembleWith table filename source = .ok bytes)
    (member : word ∈ Text.splitWords source) : Text.IsPlainAscii word.toList := by
  rcases assembleWith_eq_ok_iff.mp assembled with ⟨meanings, mean, _⟩
  rcases List.mem_map.mp member with ⟨characters, listed, rfl⟩
  rcases exists_forall₂_iff.mp ⟨meanings, mean⟩ characters listed with ⟨meaning, classified⟩
  rw [String.toList_ofList]
  exact (exists_classify_eq_ok_iff.mp ⟨meaning, classified⟩).isPlainAscii

/-! ## Consoles -/

namespace Console

variable {console : Console}

/-- Whether plain ASCII lines are shown as they stand. -/
def ShowsAscii (console : Console) : Prop :=
  ∀ line : String, Text.IsPlainAscii line.toList → console.output? line = some line

theorem showsAscii_ofTerminals (outputIsTerminal errorIsTerminal : Bool) :
    (ofTerminals outputIsTerminal errorIsTerminal).ShowsAscii := by
  intro line isPlain
  simp [ofTerminals, isPlain.isEncodable, Text.plain_eq_self isPlain.escape_notMem]

/-- Whether lines are shown as other lines, one for one. -/
def Shows (console : Console) : List String → List String → Prop :=
  List.Forall₂ fun line shown => console.output? line = some shown

/-- Nothing is left out of entries whose lines can all be shown. -/
theorem exists_mapM_show? {entries : List Entry} {lines : List String}
    (shows : console.Shows (entries.filterMap Entry.outputLine?) lines) :
    ∃ seen, entries.mapM console.show? = some seen ∧
      seen.filterMap Entry.outputLine? = lines := by
  induction entries generalizing lines with
  | nil =>
      cases shows
      exact ⟨[], rfl, rfl⟩
  | cons entry entries induction =>
      cases entry with
      | output line =>
          cases shows with | @cons _ shown _ _ isShown shows
          rcases induction shows with ⟨seen, mapped, sameLines⟩
          refine ⟨.output shown :: seen, ?_, congrArg (List.cons shown) sameLines⟩
          simp [List.mapM_cons, show?, isShown, mapped]
      | notice text =>
          rcases induction shows with ⟨seen, mapped, sameLines⟩
          refine ⟨.notice (console.error text) :: seen, ?_, sameLines⟩
          simp [List.mapM_cons, show?, mapped]
      | logged line =>
          rcases induction shows with ⟨seen, mapped, sameLines⟩
          refine ⟨.logged line :: seen, ?_, sameLines⟩
          simp [List.mapM_cons, show?, mapped]

end Console

/-- What is in front of a report and is no line of the output leaves the output alone. -/
theorem Report.output_after {earlier : List Entry} {report : Report}
    (silent : earlier.filterMap Entry.outputLine? = []) :
    (report.after earlier).output = report.output := by
  rw [after, output, List.filterMap_append, silent]
  rfl

/-- A report is seen to its end if all of its lines are shown. -/
theorem Report.seenOn_of_shows {console : Console} {report : Report} {lines : List String}
    (shows : console.Shows report.output lines) :
    (report.seenOn console).output = lines ∧
      (report.seenOn console).exitCode = report.exitCode := by
  rcases Console.exists_mapM_show? shows with ⟨seen, mapped, sameLines⟩
  rw [seenOn, mapped]
  exact ⟨sameLines, rfl⟩

end ScriptWorkbench
