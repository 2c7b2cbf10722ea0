import ScriptWorkbench.Proofs.PushSizes
import ScriptWorkbench.Proofs.Words

/-!
# Tokens that can be encoded

A token can be encoded unless it is a push of more bytes than any form holds. The
tokens of a source that are encoded are those that are read, if each of them can be.
-/

namespace ScriptWorkbench

namespace Meaning

/-- Whether some push form holds the payload, if there is one. -/
def Fits (meaning : Meaning) : Prop :=
  ∀ payload, meaning.payload? = some payload → payload.length ≤ PushForm.greatestLength

variable {meaning other : Meaning} {payload : Bytes} {fault : CodecFault}

theorem fits_of_payload? (isPush : meaning.payload? = some payload) :
    meaning.Fits ↔ payload.length ≤ PushForm.greatestLength := by
  simp [Fits, isPush]

theorem fits_of_payload?_eq_none (noPush : meaning.payload? = none) : meaning.Fits := by
  simp [Fits, noPush]

theorem encodable_eq_ok_iff : meaning.encodable = .ok other ↔ meaning.Fits ∧ meaning = other := by
  unfold encodable
  split
  · next noPush => simp [fits_of_payload?_eq_none noPush]
  · next payload isPush =>
      rw [fits_of_payload? isPush]
      split
      · next form isForm => simp [(PushForm.forLength_eq_ok_iff.mp isForm).1]
      · next error tooLong =>
          have noForm : ¬payload.length ≤ PushForm.greatestLength := by
            intro fits
            rw [PushForm.forLength_eq_ok_iff.mpr ⟨fits, rfl⟩] at tooLong
            cases tooLong
          simp [noForm]

theorem encodable_eq_error_iff :
    meaning.encodable = .error fault ↔ ∃ payload, meaning.payload? = some payload ∧
      PushForm.greatestLength < payload.length ∧
      fault = .pushLength (.tooLong payload.length) := by
  unfold encodable
  split
  · next noPush => simp [noPush]
  · next payload isPush =>
      by_cases fits : payload.length ≤ PushForm.greatestLength
      · simp [PushForm.forLength_eq_ok_iff.mpr ⟨fits, rfl⟩, isPush, Nat.not_lt.mpr fits]
      · have tooLong := Nat.lt_of_not_le fits
        simp [PushForm.forLength_of_tooLong tooLong, isPush, tooLong, eq_comm]

end Meaning

namespace Token

variable {token other : Token} {error : CodecError}

theorem encodable_eq_ok_iff :
    token.encodable = .ok other ↔ token.meaning.Fits ∧ token = other := by
  cases checked : token.meaning.encodable with
  | ok meaning =>
      simp [encodable, checked, (Meaning.encodable_eq_ok_iff.mp checked).1]
  | error fault =>
      have noFit : ¬token.meaning.Fits := by
        intro fits
        rw [Meaning.encodable_eq_ok_iff.mpr ⟨fits, rfl⟩] at checked
        cases checked
      simp [encodable, checked, noFit]

theorem encodable_eq_error_iff :
    token.encodable = .error error ↔ ∃ payload, token.meaning.payload? = some payload ∧
      PushForm.greatestLength < payload.length ∧
      error = { fault := .pushLength (.tooLong payload.length) } := by
  cases checked : token.meaning.encodable with
  | ok meaning =>
      have fits := (Meaning.encodable_eq_ok_iff.mp checked).1
      simp only [encodable, checked, reduceCtorEq, false_iff, not_exists, not_and]
      intro payload isPush tooLong
      exact absurd (fits payload isPush) (Nat.not_le.mpr tooLong)
  | error fault =>
      rcases Meaning.encodable_eq_error_iff.mp checked with ⟨payload, isPush, tooLong, rfl⟩
      simp [encodable, checked, isPush, tooLong, eq_comm]

end Token

variable {table : OpcodeTable} {filename source : String}

namespace PlacedWord

theorem toEncodable_eq_ok_iff {word : PlacedWord} {token : Token} :
    word.toEncodable table filename = .ok token ↔
      word.toToken table filename = .ok token ∧ token.meaning.Fits := by
  rw [toEncodable, bind_eq_ok_iff]
  simp only [Token.encodable_eq_ok_iff]
  constructor
  · intro checked
    rcases checked with ⟨other, read, fits, rfl⟩
    exact ⟨read, fits⟩
  · intro checked
    exact ⟨token, checked.1, checked.2, rfl⟩

/-- A word without an encodable token has no token, unless a payload is too long. -/
theorem toToken_of_toEncodable_eq_error {word : PlacedWord} {error : CodecError}
    (refused : word.toEncodable table filename = .error error)
    (isCodec : ∀ length, error.fault ≠ .pushLength length) :
    word.toToken table filename = .error error := by
  rw [toEncodable, bind_eq_error_iff] at refused
  rcases refused with refused | ⟨token, _, unencodable⟩
  · exact refused
  · rcases Token.encodable_eq_error_iff.mp unencodable with ⟨payload, _, _, rfl⟩
    exact absurd rfl (isCodec _)

end PlacedWord

namespace Token

theorem encodableOfSource_eq_ok_iff {tokens : List Token} :
    encodableOfSource table filename source = .ok tokens ↔
      ofSource table filename source = .ok tokens ∧ ∀ token ∈ tokens, token.meaning.Fits := by
  rw [encodableOfSource, ofSource, mapM_eq_ok_iff, mapM_eq_ok_iff]
  simp only [PlacedWord.toEncodable_eq_ok_iff]
  exact forall₂_and_right_iff

/-- Reading and encoding in turn refuse a source as reading alone does, unless a payload
is too long. -/
theorem ofSource_of_encodableOfSource_eq_error {error : CodecError}
    (refused : encodableOfSource table filename source = .error error)
    (isCodec : ∀ length, error.fault ≠ .pushLength length) :
    ofSource table filename source = .error error := by
  rcases mapM_eq_error_iff.mp refused with ⟨earlier, word, later, split, fine, wordRefused⟩
  refine mapM_eq_error_iff.mpr ⟨earlier, word, later, split, ?_,
    PlacedWord.toToken_of_toEncodable_eq_error wordRefused isCodec⟩
  intro other member
  rcases fine other member with ⟨token, checked⟩
  exact ⟨token, (PlacedWord.toEncodable_eq_ok_iff.mp checked).1⟩

/-- What is checked for each token holds for all, and they stay the same. -/
theorem mapM_encodable_eq_ok_iff {tokens others : List Token} :
    tokens.mapM encodable = .ok others ↔
      (∀ token ∈ tokens, token.meaning.Fits) ∧ tokens = others := by
  rw [mapM_eq_ok_iff]
  simp only [encodable_eq_ok_iff]
  rw [List.forall₂_and_left, List.forall₂_eq_eq_eq]

theorem encodableLines_eq_ok_iff {lines : List (List Token)} :
    encodableLines table filename source = .ok lines ↔
      linesOfSource table filename source = .ok lines ∧
        ∀ token ∈ lines.flatten, token.meaning.Fits := by
  have unchanged (others : List (List Token)) :
      (others.mapM fun tokens => tokens.mapM encodable) = .ok lines ↔
        (∀ token ∈ others.flatten, token.meaning.Fits) ∧ others = lines := by
    rw [mapM_eq_ok_iff]
    simp only [mapM_encodable_eq_ok_iff]
    rw [List.forall₂_and_left, List.forall₂_eq_eq_eq, List.forall_mem_flatten]
  rw [encodableLines, bind_eq_ok_iff]
  simp only [unchanged]
  constructor
  · intro checked
    rcases checked with ⟨others, read, fits, rfl⟩
    exact ⟨read, fits⟩
  · intro checked
    exact ⟨lines, checked.1, checked.2, rfl⟩

theorem linesOfSource_of_encodableLines {lines : List (List Token)}
    (encodable : encodableLines table filename source = .ok lines) :
    linesOfSource table filename source = .ok lines :=
  (encodableLines_eq_ok_iff.mp encodable).1

end Token

end ScriptWorkbench
