import ScriptWorkbench.Proofs.TokenPositions
import ScriptWorkbench.Proofs.WordGrammar

/-!
# Diagnostics of sources

A source is refused at the first of its words that has no meaning. The
diagnostic names the place where this word starts, quotes the whole line, and
puts a mark below the word's first character.
-/

namespace ScriptWorkbench

/-! ## Lines of a diagnostic -/

namespace Text

theorem lineFeed_notMem_of_mem_splitOn {text line : List Char}
    (member : line ∈ text.splitOn '\n') : '\n' ∉ line := by
  induction text generalizing line with
  | nil =>
      rw [List.splitOn_nil, List.mem_singleton] at member
      simp [member]
  | cons character text induction =>
      rw [List.splitOn_cons_eq_if_modifyHead] at member
      cases pieces : text.splitOn '\n' with
      | nil => exact absurd pieces (List.splitOn_ne_nil _ _)
      | cons first others =>
          rw [pieces] at member induction
          split at member
          · rcases List.mem_cons.mp member with rfl | inside
            · exact List.not_mem_nil
            · exact induction inside
          · next noLineFeed =>
              rw [List.modifyHead_cons] at member
              rcases List.mem_cons.mp member with rfl | inside
              · rw [List.mem_cons, not_or]
                have differs : character ≠ '\n' := by simpa using noLineFeed
                exact ⟨differs.symm, induction List.mem_cons_self⟩
              · exact induction (List.mem_cons_of_mem _ inside)

theorem lineFeed_notMem_of_mem_sourceLines {source : String} {line : List Char}
    (member : line ∈ sourceLines source) : '\n' ∉ line :=
  lineFeed_notMem_of_mem_splitOn member

/-- Lines that hold no line feed are found again in front of any other text. -/
theorem getElem?_splitOn_intercalate {front rest : List (List Char)} {index : Nat}
    {line : List Char} (single : ∀ text ∈ front, '\n' ∉ text)
    (found : front[index]? = some line) :
    ((['\n'].intercalate (front ++ rest)).splitOn '\n')[index]? = some line := by
  -- A hint behind the mark may hold line feeds, so `List.splitOn_intercalate` does not apply.
  induction front generalizing index with
  | nil => cases found
  | cons first front induction =>
      rcases List.forall_mem_cons.mp single with ⟨firstSingle, others⟩
      cases behind : front ++ rest with
      | nil =>
          rcases List.append_eq_nil_iff.mp behind with ⟨rfl, rfl⟩
          rw [List.append_nil, List.intercalate_singleton, List.splitOn_eq_singleton firstSingle]
          exact found
      | cons next more =>
          rw [List.cons_append, behind, List.intercalate_cons_cons, List.append_assoc,
            List.singleton_append, List.splitOn_append_cons_self_of_not_mem firstSingle]
          cases index with
          | zero => exact found
          | succ index =>
              rw [List.getElem?_cons_succ] at found ⊢
              rw [← behind]
              exact induction others found

theorem getElem?_sourceLines_intercalate {front rest : List String} {index : Nat} {line : String}
    (single : ∀ text ∈ front, '\n' ∉ text.toList) (found : front[index]? = some line) :
    (sourceLines ("\n".intercalate (front ++ rest)))[index]? = some line.toList := by
  rw [sourceLines, String.toList_intercalate, List.map_append]
  refine getElem?_splitOn_intercalate ?_ ?_
  · simpa using single
  · rw [List.getElem?_map, found]
    rfl

theorem lineFeed_notMem_repr (number : Nat) : '\n' ∉ number.repr.toList := by
  intro member
  rw [Nat.toList_repr] at member
  have isDigit := Nat.isDigit_of_mem_toDigits (by decide) (by decide) member
  cases isDigit

end Text

/-- The word that a fault of script text is about. -/
def CodecFault.word? : CodecFault → Option String
  | .oddLengthHex word | .invalidHexData word | .unknownOpcode word _
  | .unrecognizedWord word => some word
  | _ => none

theorem CodecFault.lineFeed_notMem_message {fault : CodecFault} {word : String}
    (about : fault.word? = some word) (single : '\n' ∉ word.toList) :
    '\n' ∉ fault.message.toList := by
  have absent (title : String) (titleSingle : '\n' ∉ title.toList) :
      '\n' ∉ (title ++ word).toList := by
    rw [String.toList_append, List.mem_append, not_or]
    exact ⟨titleSingle, single⟩
  cases fault with
  | oddLengthHex | invalidHexData | unknownOpcode | unrecognizedWord =>
      cases about
      exact absent _ (by decide)
  | _ => cases about

/-- A word that has no meaning is named by its fault. -/
theorem word?_of_classify {table : OpcodeTable} {word : List Char} {fault : CodecFault}
    (refused : classify table word = .error fault) :
    fault.word? = some (String.ofList word) := by
  cases refused_of_classify refused with
  | brackets | mnemonic | digits | other => rfl

/-! ## Places of words -/

namespace PlacedWord

/-- Whether a word of numbered lines stands where it says: on the line with an
index, between other text of this line, and behind the words that are ahead of
it. -/
structure StandsIn (lines : List (List Char)) (start : Nat) (ahead : List (List Char))
    (word : PlacedWord) (index : Nat) (before after : List Char) : Prop where
  onLine : lines[index]? = some (before ++ (word.text ++ after))
  lineText : word.lineText = before ++ (word.text ++ after)
  line : word.line = start + index
  column : word.column = before.length + 1
  run : Text.RunBetween before word.text after
  ahead : ahead = (lines.take index).flatMap Text.words ++ Text.words before

/-- One more line in front, and its words, are ahead of all words behind it. -/
theorem StandsIn.cons {lines ahead : List (List Char)} {start index : Nat}
    {before after : List Char} {word : PlacedWord}
    (stands : StandsIn lines (start + 1) ahead word index before after) (lineText : List Char) :
    StandsIn (lineText :: lines) start (Text.words lineText ++ ahead) word (index + 1)
      before after where
  onLine := stands.onLine
  lineText := stands.lineText
  line := by
    rw [stands.line]
    omega
  column := stands.column
  run := stands.run
  ahead := by
    rw [stands.ahead, List.take_succ_cons, List.flatMap_cons, List.append_assoc]

theorem standsIn_of_ofLine_eq {lineText : List Char} {line : Nat} {word : PlacedWord}
    {earlier later : List PlacedWord} (split : ofLine lineText line = earlier ++ word :: later)
    (lines : List (List Char)) :
    ∃ before after,
      StandsIn (lineText :: lines) line (earlier.map text) word 0 before after := by
  rcases List.map_eq_append_iff.mp split with ⟨front, back, places, rfl, rest⟩
  rcases List.map_eq_cons_iff.mp rest with ⟨placed, behind, rfl, rfl, rfl⟩
  rcases Text.exists_run_of_placedWords_eq places with ⟨before, after, rfl, start, run, ahead⟩
  refine ⟨before, after, rfl, rfl, rfl, by rw [start], run, ?_⟩
  rw [List.take_zero, List.flatMap_nil, List.nil_append, ahead, List.map_map]
  rfl

/-- The words of numbered lines. -/
def ofLines (start : Nat) (lines : List (List Char)) : List PlacedWord :=
  ((lines.zipIdx start).map fun (lineText, line) => ofLine lineText line).flatten

theorem ofLines_cons (start : Nat) (lineText : List Char) (lines : List (List Char)) :
    ofLines start (lineText :: lines) = ofLine lineText start ++ ofLines (start + 1) lines := rfl

/-- Each word stands where it says, behind all the words that come before it. -/
theorem exists_standsIn {lines : List (List Char)} {start : Nat} {word : PlacedWord}
    {earlier later : List PlacedWord}
    (split : ofLines start lines = earlier ++ word :: later) :
    ∃ index before after, StandsIn lines start (earlier.map text) word index before after := by
  induction lines generalizing start earlier with
  | nil => simp [ofLines] at split
  | cons lineText lines induction =>
      -- A word of a later line has all the words of this one ahead of it.
      have further {front : List PlacedWord}
          (rest : ofLines (start + 1) lines = front ++ word :: later) :
          ∃ index before after, StandsIn (lineText :: lines) start
            ((ofLine lineText start ++ front).map text) word index before after := by
        rcases induction rest with ⟨index, before, after, stands⟩
        rw [List.map_append, map_text_ofLine]
        exact ⟨index + 1, before, after, stands.cons lineText⟩
      rw [ofLines_cons] at split
      rcases List.append_eq_append_iff.mp split with ⟨front, rfl, rest⟩ | ⟨back, own, rest⟩
      · exact further rest
      · cases back with
        | nil =>
            rw [List.append_nil] at own
            rw [← own, ← List.append_nil (ofLine lineText start)]
            exact further rest.symm
        | cons head back =>
            rcases List.cons.inj rest with ⟨rfl, _⟩
            rcases standsIn_of_ofLine_eq own lines with ⟨before, after, stands⟩
            exact ⟨0, before, after, stands⟩

theorem toToken_eq_error_iff {table : OpcodeTable} {filename : String} {word : PlacedWord}
    {error : CodecError} :
    word.toToken table filename = .error error ↔
      ∃ fault, classify table word.text = .error fault ∧
        { fault, location := some { filename, line := word.line, column := word.column },
          sourceLine := some (String.ofList word.lineText) } = error := by
  cases classified : classify table word.text <;> simp [toToken, classified]

end PlacedWord

/-! ## The mark -/

/-- Whether a diagnostic names the place between two texts of a line, and shows the
line with a mark below this place. -/
structure CodecError.Marks (error : CodecError) (filename : String) (line : Nat)
    (before after : List Char) : Prop where
  location : error.location = some { filename, line, column := before.length + 1 }
  sourceLine : error.sourceLine = some (String.ofList (before ++ after))
  shown : (Text.sourceLines error.text)[1]? = some ("    ".toList ++ (before ++ after))
  marked : (Text.sourceLines error.text)[2]? =
    some (List.replicate ("    ".toList ++ before).length ' ' ++ ['^'])

theorem Location.lineFeed_notMem_text {filename : String} (oneLine : '\n' ∉ filename.toList)
    (line column : Nat) :
    '\n' ∉ (Location.text { filename, line, column }).toList := by
  have numeral (number : Nat) : '\n' ∉ (toString (number : Int)).toList :=
    Text.lineFeed_notMem_repr number
  change '\n' ∉ (filename ++ ":" ++ toString (line : Int) ++ ":" ++ toString (column : Int)).toList
  simp only [String.toList_append, List.mem_append, not_or]
  exact ⟨⟨⟨⟨oneLine, by decide⟩, numeral line⟩, by decide⟩, numeral column⟩

/-- What a diagnostic with a source line shows in front of its hint. -/
def CodecError.report (fault : CodecFault) (location : Location) (sourceLine : String) :
    List String :=
  [location.text ++ ": " ++ ("error: " ++ fault.message), "    " ++ sourceLine,
    String.ofList (List.replicate (3 + location.column.toNat) ' ' ++ ['^'])]

theorem CodecError.exists_textLines_eq (fault : CodecFault) {location : Location}
    (positive : 0 < location.column) (sourceLine : String) :
    ∃ hinted, textLines { fault, location := some location, sourceLine := some sourceLine } =
      report fault location sourceLine ++ hinted := by
  simp only [textLines, excerpt, if_pos positive]
  exact ⟨_, rfl⟩

theorem CodecError.lineFeed_notMem_report {fault : CodecFault} {location : Location}
    {sourceLine : String} (place : '\n' ∉ location.text.toList)
    (message : '\n' ∉ fault.message.toList) (single : '\n' ∉ sourceLine.toList) :
    ∀ text ∈ report fault location sourceLine, '\n' ∉ text.toList := by
  simp only [report, List.forall_mem_cons, String.toList_append, List.mem_append, not_or,
    String.toList_ofList]
  refine ⟨⟨⟨place, by decide⟩, by decide, message⟩, ⟨by decide, single⟩, ⟨?_, by decide⟩, by simp⟩
  simp [List.mem_replicate]

theorem CodecError.marks_of_single {fault : CodecFault} {filename : String}
    {before after : List Char} (oneLine : '\n' ∉ filename.toList)
    (message : '\n' ∉ fault.message.toList) (single : '\n' ∉ before ++ after) (line : Nat) :
    Marks
      { fault, location := some { filename, line, column := before.length + 1 },
        sourceLine := some (String.ofList (before ++ after)) }
      filename line before after := by
  let location : Location := { filename, line, column := (before.length : Int) + 1 }
  have positive : 0 < location.column := by
    change 0 < (before.length : Int) + 1
    omega
  have place : '\n' ∉ location.text.toList :=
    Location.lineFeed_notMem_text oneLine line (before.length + 1)
  have noLineFeed := lineFeed_notMem_report place message
    (by rwa [String.toList_ofList (l := before ++ after)])
  rcases exists_textLines_eq fault positive (String.ofList (before ++ after)) with ⟨hinted, lines⟩
  refine ⟨rfl, rfl, ?_, ?_⟩
  · rw [text, lines, Text.getElem?_sourceLines_intercalate noLineFeed rfl, String.toList_append,
      String.toList_ofList (l := before ++ after)]
  · have indented : 3 + location.column.toNat = ("    ".toList ++ before).length := by
      change 3 + ((before.length : Int) + 1).toNat = (' ' :: ' ' :: ' ' :: ' ' :: before).length
      simp only [List.length_cons]
      omega
    rw [text, lines, Text.getElem?_sourceLines_intercalate noLineFeed rfl, String.toList_ofList,
      indented]

/-! ## The first bad word -/

/-- A source is refused at its first bad word: every word ahead of it has a meaning,
and an encoding. -/
theorem exists_standsIn_of_refused {table : OpcodeTable} {filename source : String}
    {error : CodecError} (refused : assembleWith table filename source = .error error)
    (isCodec : ∀ length, error.fault ≠ .pushLength length) :
    ∃ ahead word index before after fault,
      PlacedWord.StandsIn (Text.sourceLines source) 1 ahead word index before after ∧
      (∀ earlier ∈ ahead, ∃ meaning, classify table earlier = .ok meaning ∧ meaning.Fits) ∧
      classify table word.text = .error fault ∧
      error = {
        fault
        location := some { filename, line := word.line, column := word.column }
        sourceLine := some (String.ofList word.lineText) } := by
  rw [assembleWith, map_eq_error_iff, Token.encodableOfSource, mapM_eq_error_iff] at refused
  rcases refused with ⟨earlier, word, later, split, fine, stopped⟩
  rcases PlacedWord.exists_standsIn split with ⟨index, before, after, stands⟩
  have noToken := PlacedWord.toToken_of_toEncodable_eq_error stopped isCodec
  rcases PlacedWord.toToken_eq_error_iff.mp noToken with ⟨fault, noMeaning, same⟩
  refine ⟨_, word, index, before, after, fault, stands, ?_, noMeaning, same.symm⟩
  intro text member
  rcases List.mem_map.mp member with ⟨other, isEarlier, rfl⟩
  rcases fine other isEarlier with ⟨token, encodable⟩
  rcases PlacedWord.toEncodable_eq_ok_iff.mp encodable with ⟨read, fits⟩
  rcases PlacedWord.toToken_eq_ok_iff.mp read with ⟨meaning, classified, rfl⟩
  exact ⟨meaning, classified, fits⟩

/-- The diagnostic of a source that is refused marks the first word without a meaning
on the line that this word stands on. -/
theorem marks_first_bad_word {table : OpcodeTable} {filename source : String}
    {error : CodecError} (oneLine : '\n' ∉ filename.toList)
    (refused : assembleWith table filename source = .error error)
    (isCodec : ∀ length, error.fault ≠ .pushLength length) :
    ∃ index before word after,
      (Text.sourceLines source)[index]? = some (before ++ (word ++ after)) ∧
      Text.RunBetween before word after ∧
      (∀ earlier ∈ ((Text.sourceLines source).take index).flatMap Text.words ++ Text.words before,
        ∃ meaning, classify table earlier = .ok meaning ∧ meaning.Fits) ∧
      classify table word = .error error.fault ∧
      error.fault.word? = some (String.ofList word) ∧
      error.Marks filename (index + 1) before (word ++ after) := by
  rcases exists_standsIn_of_refused refused isCodec with
    ⟨ahead, word, index, before, after, fault, stands, fine, noMeaning, rfl⟩
  have about := word?_of_classify noMeaning
  have single : '\n' ∉ before ++ (word.text ++ after) :=
    Text.lineFeed_notMem_of_mem_sourceLines (List.mem_of_getElem? stands.onLine)
  have message : '\n' ∉ fault.message.toList := by
    refine CodecFault.lineFeed_notMem_message about ?_
    rw [String.toList_ofList]
    simp only [List.mem_append, not_or] at single
    exact single.2.1
  refine ⟨index, before, word.text, after, stands.onLine, stands.run, ?_, noMeaning, about, ?_⟩
  · rw [← stands.ahead]
    exact fine
  · have marks := CodecError.marks_of_single oneLine message single (index + 1)
    rw [stands.lineText, stands.line, stands.column, Nat.add_comm 1]
    exact marks

/-- A bad word behind a tab on the second line, and the same word once more behind
it. -/
theorem marks_first_bad_word_of_repeated_word :
    let source := "OP_DUP\n\t5G 5G"
    let error : CodecError :=
      { fault := .unrecognizedWord "5G",
        location := some { filename := "<asm>", line := 2, column := 2 },
        sourceLine := some "\t5G 5G" }
    '\n' ∉ "<asm>".toList ∧ assembleWith .standard "<asm>" source = .error error ∧
      (∀ length, error.fault ≠ .pushLength length) ∧
      ∃ index before word after,
        (Text.sourceLines source)[index]? = some (before ++ (word ++ after)) ∧
        error.fault.word? = some (String.ofList word) ∧
        error.Marks "<asm>" (index + 1) before (word ++ after) := by
  intro source error
  have oneLine : '\n' ∉ "<asm>".toList := by decide
  have refused : assembleWith .standard "<asm>" source = .error error := by decide +revert
  have isCodec : ∀ length, error.fault ≠ .pushLength length := by
    intro length
    exact CodecFault.noConfusion
  rcases marks_first_bad_word oneLine refused isCodec with
    ⟨index, before, word, after, onLine, _, _, _, about, marks⟩
  exact ⟨oneLine, refused, isCodec, index, before, word, after, onLine, about, marks⟩

end ScriptWorkbench
