import ScriptWorkbench.Assembly
import ScriptWorkbench.Proofs.EncodableTokens

/-!
# Sources and the meanings of their words

A source assembles exactly when each of its words has a meaning with an encoding,
and then to the encodings of these meanings. Lines, columns and file names do not
matter.
-/

namespace ScriptWorkbench

variable {table : OpcodeTable} {filename source : String}

theorem PlacedWord.toToken_eq_ok_iff {word : PlacedWord} {token : Token} :
    word.toToken table filename = .ok token ↔
      ∃ meaning, classify table word.text = .ok meaning ∧
        { meaning, text := String.ofList word.text, line := word.line,
          column := word.column, filename } = token := by
  cases classified : classify table word.text <;> simp [toToken, classified]

/-- Whether each of a list of words has the meaning at its place in another
list. -/
def Mean (table : OpcodeTable) : List (List Char) → List Meaning → Prop :=
  List.Forall₂ fun word meaning => classify table word = .ok meaning

theorem Mean.of_tokens {words : List PlacedWord} {tokens : List Token}
    (read : List.Forall₂ (fun word token => word.toToken table filename = .ok token)
      words tokens) :
    Mean table (words.map PlacedWord.text) (tokens.map Token.meaning) := by
  rw [Mean, List.forall₂_map_left_iff, List.forall₂_map_right_iff]
  refine read.imp fun word token isToken => ?_
  rcases PlacedWord.toToken_eq_ok_iff.mp isToken with ⟨meaning, classified, rfl⟩
  exact classified

theorem Mean.exists_tokens {words : List PlacedWord} {meanings : List Meaning}
    (mean : Mean table (words.map PlacedWord.text) meanings) (filename : String) :
    ∃ tokens, List.Forall₂ (fun word token => word.toToken table filename = .ok token)
      words tokens ∧ tokens.map Token.meaning = meanings := by
  induction words generalizing meanings with
  | nil =>
      rw [List.forall₂_nil_left_iff.mp mean]
      exact ⟨[], .nil, rfl⟩
  | cons word words induction =>
      rcases List.forall₂_cons_left_iff.mp mean with ⟨meaning, others, classified, rest, rfl⟩
      rcases induction rest with ⟨tokens, read, rfl⟩
      exact ⟨_, .cons (PlacedWord.toToken_eq_ok_iff.mpr ⟨meaning, classified, rfl⟩) read, rfl⟩

theorem mean_of_ofSource {tokens : List Token}
    (read : Token.ofSource table filename source = .ok tokens) :
    Mean table (Text.words source.toList) (tokens.map Token.meaning) := by
  rw [← PlacedWord.map_text_byLine]
  exact .of_tokens (mapM_eq_ok_iff.mp read)

theorem exists_ofSource_of_mean {meanings : List Meaning}
    (mean : Mean table (Text.words source.toList) meanings) (filename : String) :
    ∃ tokens, Token.ofSource table filename source = .ok tokens ∧
      tokens.map Token.meaning = meanings := by
  rw [← PlacedWord.map_text_byLine] at mean
  rcases mean.exists_tokens filename with ⟨tokens, read, meant⟩
  exact ⟨tokens, mapM_eq_ok_iff.mpr read, meant⟩

theorem flatMap_encode (tokens : List Token) :
    tokens.flatMap Token.encode = (tokens.map Token.meaning).flatMap Meaning.encode := by
  rw [List.flatMap_map]
  rfl

theorem assembleWith_eq_ok_iff {bytes : Bytes} :
    assembleWith table filename source = .ok bytes ↔
      ∃ meanings, Mean table (Text.words source.toList) meanings ∧
        (∀ meaning ∈ meanings, meaning.Fits) ∧ meanings.flatMap Meaning.encode = bytes := by
  rw [assembleWith, map_eq_ok_iff]
  simp only [Token.encodableOfSource_eq_ok_iff]
  constructor
  · rintro ⟨tokens, ⟨read, fits⟩, rfl⟩
    exact ⟨_, mean_of_ofSource read, List.forall_mem_map.mpr fits, (flatMap_encode tokens).symm⟩
  · rintro ⟨meanings, mean, fits, rfl⟩
    rcases exists_ofSource_of_mean mean filename with ⟨tokens, read, rfl⟩
    exact ⟨tokens, ⟨read, List.forall_mem_map.mp fits⟩, flatMap_encode tokens⟩

/-! ## The first bad word -/

/-- What a word means, if that has an encoding. -/
def encodableMeaning (table : OpcodeTable) (word : List Char) : Except CodecFault Meaning :=
  classify table word >>= Meaning.encodable

theorem encodableMeaning_eq_ok_iff {word : List Char} {meaning : Meaning} :
    encodableMeaning table word = .ok meaning ↔
      classify table word = .ok meaning ∧ meaning.Fits := by
  rw [encodableMeaning, bind_eq_ok_iff]
  simp only [Meaning.encodable_eq_ok_iff]
  constructor
  · intro checked
    rcases checked with ⟨other, classified, fits, rfl⟩
    exact ⟨classified, fits⟩
  · intro checked
    exact ⟨meaning, checked.1, checked.2, rfl⟩

/-- A word and its token are alike in their meaning and in their fault. -/
theorem PlacedWord.encodableMeaning_text (word : PlacedWord) :
    encodableMeaning table word.text =
      ((word.toEncodable table filename).map Token.meaning).mapError CodecError.fault := by
  cases classified : classify table word.text with
  | error fault =>
      simp [encodableMeaning, toEncodable, toToken, classified, Bind.bind, Except.bind, Except.map,
        Except.mapError]
  | ok meaning =>
      cases checked : meaning.encodable with
      | error fault =>
          simp [encodableMeaning, toEncodable, toToken, Token.encodable, classified, checked,
            Bind.bind, Except.bind, Except.map, Except.mapError]
      | ok other =>
          rcases Meaning.encodable_eq_ok_iff.mp checked with ⟨_, rfl⟩
          simp [encodableMeaning, toEncodable, toToken, Token.encodable, classified, checked,
            Bind.bind, Except.bind, Except.map, Except.mapError]

/-- Words in any layout are read alike, up to the place of an error. -/
theorem mapM_encodableMeaning_words (table : OpcodeTable) (filename source : String) :
    (Text.words source.toList).mapM (encodableMeaning table) =
      ((Token.encodableOfSource table filename source).map (List.map Token.meaning)).mapError
        CodecError.fault := by
  rw [← PlacedWord.map_text_byLine, Token.encodableOfSource]
  exact mapM_map_eq (fun word => word.encodableMeaning_text) _

/-- Whether a word is the first of a list that has no encodable meaning, for the
given reason. -/
def FirstBad (table : OpcodeTable) (words : List (List Char)) (word : List Char)
    (fault : CodecFault) : Prop :=
  ∃ earlier later, words = earlier ++ word :: later ∧
    (∀ other ∈ earlier, ∃ meaning, encodableMeaning table other = .ok meaning) ∧
    encodableMeaning table word = .error fault

theorem mapM_encodableMeaning_eq_error_iff {words : List (List Char)} {fault : CodecFault} :
    words.mapM (encodableMeaning table) = .error fault ↔
      ∃ word, FirstBad table words word fault := by
  rw [mapM_eq_error_iff]
  constructor
  · intro failed
    rcases failed with ⟨earlier, word, later, found⟩
    exact ⟨word, earlier, later, found⟩
  · intro failed
    rcases failed with ⟨word, earlier, later, found⟩
    exact ⟨earlier, word, later, found⟩

/-- A source is refused for its first bad word. -/
theorem exists_assembleWith_eq_error_iff {fault : CodecFault} :
    (∃ error, assembleWith table filename source = .error error ∧ error.fault = fault) ↔
      ∃ word, FirstBad table (Text.words source.toList) word fault := by
  rw [← mapM_encodableMeaning_eq_error_iff, mapM_encodableMeaning_words table filename source,
    assembleWith]
  cases Token.encodableOfSource table filename source with
  | error error => simp [Except.map, Except.mapError]
  | ok tokens => simp [Except.map, Except.mapError]

end ScriptWorkbench
