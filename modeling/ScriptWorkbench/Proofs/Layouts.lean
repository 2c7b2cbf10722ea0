import Mathlib.Data.List.DropRight
import ScriptWorkbench.Proofs.WordRuns
import ScriptWorkbench.Proofs.WordTables

/-!
# Layouts of the same words

What a source means depends on its words alone, so it may be laid out in any
way. One layout of the words has each of them on a line of its own, and two
sources have that layout in common exactly if they have the words in common.
-/

namespace ScriptWorkbench

namespace Text

/-! ## Blanks at the ends of a text -/

/-- Whether no blank stands at the end of a text. -/
def EndsSolid (text : List Char) : Prop :=
  ∀ character, text.getLast? = some character → isBlank character = false

theorem EndsSolid.of_append (front : List Char) {rest : List Char}
    (solid : EndsSolid (front ++ rest)) : EndsSolid rest := by
  intro character found
  apply solid
  rw [List.getLast?_append, found]
  rfl

theorem words_dropWhile (text : List Char) : words (text.dropWhile isBlank) = words text := by
  induction text with
  | nil => rfl
  | cons character rest induction =>
      by_cases blank : isBlank character = true
      · rw [List.dropWhile_cons_of_pos blank, induction, words_cons_of_blank rest blank]
      · rw [List.dropWhile_cons_of_neg blank]

theorem words_rdropWhile (text : List Char) : words (text.rdropWhile isBlank) = words text := by
  induction text using List.reverseRecOn with
  | nil => rfl
  | append_singleton text character induction =>
      by_cases blank : isBlank character = true
      · rw [List.rdropWhile_concat_pos _ _ _ blank, induction, words_append_cons text [] blank,
          words_nil, List.append_nil]
      · rw [List.rdropWhile_concat_neg _ _ _ blank]

theorem strip_eq (text : List Char) :
    strip text = (text.dropWhile isBlank).rdropWhile isBlank := rfl

theorem words_strip (text : List Char) : words (strip text) = words text := by
  rw [strip_eq, words_rdropWhile, words_dropWhile]

theorem endsSolid_strip (text : List Char) : EndsSolid (strip text) := by
  intro character found
  rcases List.getLast?_eq_some_iff.mp found with ⟨front, split⟩
  have nonempty : strip text ≠ [] := by simp [split]
  have last := List.rdropWhile_last_not isBlank (text.dropWhile isBlank) nonempty
  simp only [← strip_eq, split, List.getLast_concat] at last
  simpa using last

/-- What is left starts as the text does behind its first blanks. -/
theorem dropWhile_strip (text : List Char) : (strip text).dropWhile isBlank = strip text := by
  rcases List.rdropWhile_prefix isBlank (text.dropWhile isBlank) with ⟨dropped, split⟩
  rw [← strip_eq] at split
  cases stripped : strip text with
  | nil => rfl
  | cons first rest =>
      have stopped := List.head?_dropWhile_not isBlank text
      rw [← split, stripped, List.cons_append, List.head?_cons] at stopped
      exact List.dropWhile_cons_of_neg (by simpa using stopped)

/-! ## Runs of blanks -/

theorem collapseBlanks_append {word : List Char}
    (isWord : ∀ character ∈ word, isBlank character = false) (rest : List Char) :
    collapseBlanks (word ++ rest) = word ++ collapseBlanks rest := by
  induction word with
  | nil => rfl
  | cons character word induction =>
      rcases List.forall_mem_cons.mp isWord with ⟨solid, others⟩
      rw [List.cons_append, collapseBlanks.eq_def]
      simp only [solid, Bool.false_eq_true, if_false, induction others, List.cons_append]

/-- One line feed is written for a blank and all those that follow it. -/
theorem collapseBlanks_cons_of_blank {character : Char} (blank : isBlank character = true)
    (rest : List Char) :
    collapseBlanks (character :: rest) = '\n' :: collapseBlanks (rest.dropWhile isBlank) := by
  induction rest generalizing character with
  | nil => simp [collapseBlanks, blank]
  | cons next rest induction =>
      rw [collapseBlanks.eq_def]
      simp only [blank, if_true]
      by_cases blankNext : isBlank next = true
      · rw [if_pos blankNext, induction blankNext, List.dropWhile_cons_of_pos blankNext]
      · rw [if_neg blankNext, List.dropWhile_cons_of_neg blankNext]

theorem words_eq_nil_iff {text : List Char} :
    words text = [] ↔ ∀ character ∈ text, isBlank character = true := by
  induction text using words_induction with
  | nil => simp
  | blank character rest blank induction =>
      rw [words_cons_of_blank rest blank, induction, List.forall_mem_cons]
      simp [blank]
  | word word rest isWord startsBlank _ =>
      rw [words_append_of_startsBlank isWord startsBlank]
      constructor
      · intro impossible
        cases impossible
      · intro blanks
        rcases List.exists_cons_of_ne_nil isWord.1 with ⟨first, others, rfl⟩
        have blank := blanks first (by simp)
        simp [isWord.2 first List.mem_cons_self] at blank

/-- Behind its first blanks, a text is collapsed to its words on lines of their
own, provided that no blank stands at its end. -/
theorem collapseBlanks_dropWhile {text : List Char} (solid : EndsSolid text) :
    collapseBlanks (text.dropWhile isBlank) = ['\n'].intercalate (words text) := by
  induction text using words_induction with
  | nil => rfl
  | blank character rest blank induction =>
      rw [List.dropWhile_cons_of_pos blank, words_cons_of_blank rest blank]
      exact induction (EndsSolid.of_append [character] solid)
  | word word rest isWord startsBlank induction =>
      have whole : (word ++ rest).dropWhile isBlank = word ++ rest := by
        rcases List.exists_cons_of_ne_nil isWord.1 with ⟨first, others, rfl⟩
        exact List.dropWhile_cons_of_neg (by simp [isWord.2 first List.mem_cons_self])
      rw [whole, collapseBlanks_append isWord.2, words_append_of_startsBlank isWord startsBlank]
      have restSolid := EndsSolid.of_append word solid
      cases rest with
      | nil => simp [collapseBlanks]
      | cons character rest =>
          have blank := startsBlank_cons.mp startsBlank
          have collapsed := induction restSolid
          rw [List.dropWhile_cons_of_pos blank] at collapsed
          -- The text does not end with the blank, so there is another word.
          have another : words (character :: rest) ≠ [] := by
            intro none
            rcases List.eq_nil_or_concat (character :: rest) with nothing | ⟨front, last, split⟩
            · cases nothing
            · have blankLast := words_eq_nil_iff.mp none last (by simp [split])
              rw [restSolid last (by simp [split])] at blankLast
              cases blankLast
          rcases List.exists_cons_of_ne_nil another with ⟨next, others, words⟩
          rw [collapseBlanks_cons_of_blank blank, collapsed, words, List.intercalate_cons_cons,
            List.append_assoc]
          rfl

/-! ## Normal layout -/

theorem toList_normalize (source : String) :
    (normalize source).toList = ['\n'].intercalate (words source.toList) := by
  rw [normalize, String.toList_ofList, ← dropWhile_strip,
    collapseBlanks_dropWhile (endsSolid_strip _), words_strip]

/-- The normal layout has each word on a line of its own. -/
theorem normalize_eq (source : String) :
    normalize source = "\n".intercalate (splitWords source) := by
  rw [← String.toList_inj, toList_normalize, String.toList_intercalate, splitWords,
    List.map_map]
  simp

theorem splitWords_normalize (source : String) :
    splitWords (normalize source) = splitWords source := by
  rw [splitWords, toList_normalize, words_intercalate_of_isWord fun _ => isWord_of_mem_words,
    splitWords]

theorem normalize_eq_normalize_iff {source other : String} :
    normalize source = normalize other ↔ splitWords source = splitWords other := by
  constructor
  · intro same
    rw [← splitWords_normalize source, same, splitWords_normalize]
  · intro same
    rw [normalize_eq, same, normalize_eq]

end Text

/-! ## Sources with the same words -/

/-- Whether two sources mean the same, with every table: they have the same code
and the same tokens at every program counter, or they are refused for the same
word. -/
structure MeansSame (filename source other : String) : Prop where
  code (table : OpcodeTable) (bytes : Bytes) :
    assembleWith table filename source = .ok bytes ↔
      assembleWith table filename other = .ok bytes
  fault (table : OpcodeTable) (error : CodecError)
    (refused : assembleWith table filename source = .error error) :
    ∃ otherError, assembleWith table filename other = .error otherError ∧
      otherError.fault = error.fault ∧
      ∃ word, FirstBad table (Text.words source.toList) word error.fault ∧
        FirstBad table (Text.words other.toList) word otherError.fault
  maps (bytes : Bytes) (accepted : assembleWith .standard filename source = .ok bytes) :
    ∃ map otherMap, OffsetMap.ofSource filename source = .ok map ∧
      OffsetMap.ofSource filename other = .ok otherMap ∧ map.AgreesOnTokens otherMap

theorem meansSame_of_splitWords_eq {source other : String} (filename : String)
    (same : Text.splitWords source = Text.splitWords other) :
    MeansSame filename source other := by
  have sameWords := Text.words_eq_of_splitWords_eq same
  constructor
  · intro table bytes
    rw [assembleWith_eq_ok_iff, assembleWith_eq_ok_iff, sameWords]
  · intro table error refused
    rcases exists_assembleWith_eq_error_iff.mp ⟨error, refused, rfl⟩ with ⟨word, bad⟩
    have badOther := bad
    rw [sameWords] at badOther
    rcases exists_assembleWith_eq_error_iff.mpr ⟨word, badOther⟩ with
      ⟨otherError, refusedOther, sameFault⟩
    refine ⟨otherError, refusedOther, sameFault, word, bad, ?_⟩
    rw [sameFault]
    exact badOther
  · intro bytes accepted
    rcases OffsetMap.exists_ofSource_of_assembleWith accepted with ⟨map, built⟩
    rcases OffsetMap.exists_agreesOnTokens built same with ⟨otherMap, builtOther, agrees⟩
    exact ⟨map, otherMap, built, builtOther, agrees⟩

/-- The words of a source decide what it means and what its normal layout is, which
has the same words on lines of their own. -/
theorem words_decide_meaning (filename source other : String) :
    (Text.splitWords source = Text.splitWords other → MeansSame filename source other) ∧
    (Text.normalize source = Text.normalize other ↔
      Text.splitWords source = Text.splitWords other) ∧
    Text.normalize source = "\n".intercalate (Text.splitWords source) ∧
    Text.normalize (Text.normalize source) = Text.normalize source ∧
    Text.splitWords (Text.normalize source) = Text.splitWords source ∧
    MeansSame filename (Text.normalize source) source := by
  have kept := Text.splitWords_normalize source
  exact ⟨meansSame_of_splitWords_eq filename, Text.normalize_eq_normalize_iff,
    Text.normalize_eq source, Text.normalize_eq_normalize_iff.mpr kept, kept,
    meansSame_of_splitWords_eq filename kept⟩

/-- An ideographic space, empty lines and a carriage return between two words, and
one plain space between them. -/
theorem words_decide_meaning_of_odd_blanks :
    let odd := " OP_DUP\u3000\n\n16\r"
    Text.splitWords odd = Text.splitWords "OP_DUP 16" ∧
      MeansSame "<asm>" odd "OP_DUP 16" ∧ Text.normalize odd = Text.normalize "OP_DUP 16" := by
  intro odd
  have laws := words_decide_meaning "<asm>" odd "OP_DUP 16"
  have same : Text.splitWords odd = Text.splitWords "OP_DUP 16" := by decide
  exact ⟨same, laws.1 same, laws.2.1.mpr same⟩

end ScriptWorkbench
