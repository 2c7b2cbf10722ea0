import ScriptWorkbench.Proofs.LineCodes
import ScriptWorkbench.Proofs.Sources

/-!
# Offset maps and words

What an offset map says about the words of its source. The table of tokens
hangs on the words alone, so another layout of the same words has the same
one. The lines of the tokens are those that the words stand on, and go with
the layout.
-/

namespace ScriptWorkbench

namespace Text

theorem words_eq_of_splitWords_eq {source other : String}
    (same : splitWords source = splitWords other) :
    words source.toList = words other.toList :=
  List.map_injective_iff.mpr (fun _ _ => String.ofList_injective) same

theorem length_splitWords (source : String) :
    (splitWords source).length = (words source.toList).length :=
  List.length_map ..

/-- Whether the word with an index stands on a line of a source. Words count
from 0 and lines from 1. -/
def StandsOn (source : String) (index line : Int) : Prop :=
  ∃ earlier text later, sourceLines source = earlier ++ text :: later ∧
    line = (earlier.length : Int) + 1 ∧
    ((earlier.flatMap words).length : Int) ≤ index ∧
    index < ((earlier.flatMap words).length : Int) + ((words text).length : Int)

end Text

theorem mean_of_linesOfSource {table : OpcodeTable} {filename source : String}
    {lines : List (List Token)} (read : Token.linesOfSource table filename source = .ok lines) :
    Mean table (Text.words source.toList) (lines.flatten.map Token.meaning) :=
  mean_of_ofSource (Token.ofSource_of_linesOfSource read)

namespace OffsetMap

variable {filename source other : String} {map : OffsetMap}

/-! ## The table of tokens -/

/-- Whether two maps give every program counter the same token of programs of
the same size. -/
structure AgreesOnTokens (map other : OffsetMap) : Prop where
  tokenTable : map.tokenTable = other.tokenTable
  tokenCount : map.tokenCount = other.tokenCount
  totalLength : map.totalLength = other.totalLength

theorem AgreesOnTokens.ofLines {left right : List (List Token)}
    (same : left.flatten.map Token.meaning = right.flatten.map Token.meaning) :
    AgreesOnTokens (ofLines left) (ofLines right) := by
  have lengths : left.flatten.map Token.encodedLength = right.flatten.map Token.encodedLength := by
    have encoded := congrArg (List.map Meaning.encodedLength) same
    rw [List.map_map, List.map_map] at encoded
    exact encoded
  have size : encodedSize left.flatten = encodedSize right.flatten := by
    rw [encodedSize_eq_sum, lengths, ← encodedSize_eq_sum]
  have count : left.flatten.length = right.flatten.length := by
    have lengths := congrArg List.length same
    rwa [List.length_map, List.length_map] at lengths
  have empty : left.flatten = [] ↔ right.flatten = [] := by
    rw [← List.length_eq_zero_iff, count, List.length_eq_zero_iff]
  rw [ofLines_eq, ofLines_eq]
  refine ⟨?_, ?_, ?_⟩
  · simp only [tokenEntries, endEntry, lengths, size, count, empty]
  · have lines := length_linesOfTokens 1 left
    rw [count, ← length_linesOfTokens 1 right] at lines
    exact lines
  · exact congrArg Int.ofNat size

/-- Another layout of the same words is mapped too, with the same tokens. -/
theorem exists_agreesOnTokens (built : ofSource filename source = .ok map)
    (same : Text.splitWords source = Text.splitWords other) :
    ∃ otherMap, ofSource filename other = .ok otherMap ∧ AgreesOnTokens map otherMap := by
  rcases map_eq_ok_iff.mp built with ⟨lines, encodable, rfl⟩
  rcases Token.encodableLines_eq_ok_iff.mp encodable with ⟨read, fits⟩
  have mean := mean_of_linesOfSource read
  rw [Text.words_eq_of_splitWords_eq same] at mean
  rcases exists_ofSource_of_mean mean filename with ⟨tokens, readOther, sameMeanings⟩
  rw [Token.ofSource_eq_map_flatten] at readOther
  rcases map_eq_ok_iff.mp readOther with ⟨otherLines, readLines, rfl⟩
  have otherFits : ∀ token ∈ otherLines.flatten, token.meaning.Fits := by
    rw [← List.forall_mem_map (f := Token.meaning), sameMeanings]
    exact List.forall_mem_map.mpr fits
  have otherEncodable := Token.encodableLines_eq_ok_iff.mpr ⟨readLines, otherFits⟩
  exact ⟨ofLines otherLines, map_eq_ok_iff.mpr ⟨otherLines, otherEncodable, rfl⟩,
    .ofLines sameMeanings.symm⟩

theorem tokenCount_of_ofSource (built : ofSource filename source = .ok map) :
    map.tokenCount = (Text.splitWords source).length := by
  rcases map_eq_ok_iff.mp built with ⟨lines, encodable, rfl⟩
  have read := Token.linesOfSource_of_encodableLines encodable
  have length := (mean_of_linesOfSource read).length_eq
  rw [Text.length_splitWords, length, List.length_map, tokenCount, ofLines_eq]
  exact length_linesOfTokens 1 lines

theorem mem_of_tokenIndexAt {table : List (Int × Int)} {offset index : Int}
    (found : tokenIndexAt table offset = some index) : (offset, index) ∈ table := by
  rcases List.lookup_eq_some_iff.mp found with ⟨before, after, split, _⟩
  rw [← List.mem_reverse, split]
  exact List.mem_append_right _ List.mem_cons_self

/-- The tokens that a map gives are tokens of its source. -/
theorem tokenAt_bounds (built : ofSource filename source = .ok map) {offset index : Int}
    (found : map.tokenAt offset = some index) :
    0 ≤ index ∧ index < ((Text.splitWords source).length : Int) := by
  rw [← tokenCount_of_ofSource built]
  rcases map_eq_ok_iff.mp built with ⟨lines, _, rfl⟩
  have member := mem_of_tokenIndexAt found
  rw [ofLines_eq] at member ⊢
  rw [tokenCount, length_linesOfTokens]
  rcases List.mem_append.mp member with entry | last
  · rcases List.mem_map.mp entry with ⟨⟨start, place⟩, placed, same⟩
    have bound := (List.mem_zipIdx placed).2.1
    rw [length_pieceStarts, List.length_map] at bound
    cases same
    omega
  · rw [endEntry] at last
    split at last
    · cases last
    · next someTokens =>
        have positive := List.length_pos_iff.mpr someTokens
        cases List.mem_singleton.mp last
        omega

/-! ## The lines of tokens -/

/-- The lines of tokens, told by any list of groups of the same sizes. -/
theorem getElem?_linesOfTokens {α : Type} {lines : List (List Token)} {groups : List (List α)}
    (sizes : List.Forall₂ (fun tokens group => tokens.length = group.length) lines groups)
    (start index : Nat) (line : Int) :
    (linesOfTokens start lines)[index]? = some line ↔
      ∃ earlier group later, groups = earlier ++ group :: later ∧
        line = ((start + earlier.length : Nat) : Int) ∧
        earlier.flatten.length ≤ index ∧ index < earlier.flatten.length + group.length := by
  induction sizes generalizing start index with
  | nil => simp [linesOfTokens]
  | @cons tokens group lines groups size _ induction =>
      rw [linesOfTokens, List.getElem?_append, List.length_replicate, List.getElem?_replicate]
      -- The token is on the first line exactly if there are no earlier groups.
      by_cases inside : index < tokens.length
      · rw [if_pos inside, if_pos inside, Option.some.injEq]
        constructor
        · rintro rfl
          exact ⟨[], group, groups, rfl, rfl, Nat.zero_le _, by rw [List.flatten_nil]; omega⟩
        · rintro ⟨earlier, found, later, split, rfl, lower, _⟩
          cases earlier with
          | nil => rfl
          | cons first others =>
              cases split
              rw [List.flatten_cons, List.length_append] at lower
              omega
      · rw [if_neg inside, induction]
        constructor
        · rintro ⟨earlier, found, later, rfl, rfl, lower, upper⟩
          refine ⟨group :: earlier, found, later, rfl, ?_, ?_, ?_⟩
          · rw [List.length_cons]
            omega
          · rw [List.flatten_cons, List.length_append]
            omega
          · rw [List.flatten_cons, List.length_append]
            omega
        · rintro ⟨earlier, found, later, split, rfl, lower, upper⟩
          cases earlier with
          | nil =>
              cases split
              simp only [List.flatten_nil, List.length_nil] at upper
              omega
          | cons first others =>
              cases split
              rw [List.flatten_cons, List.length_append] at lower upper
              rw [List.length_cons]
              exact ⟨others, found, later, rfl, by omega, by omega, by omega⟩

/-- Every line of a source has as many tokens as words. -/
theorem length_eq_of_linesOfSource {lines : List (List Token)}
    (read : Token.linesOfSource .standard filename source = .ok lines) :
    List.Forall₂ (fun tokens group => tokens.length = group.length) lines
      ((Text.sourceLines source).map Text.words) := by
  rw [← PlacedWord.map_text_of_mem_byLine, List.forall₂_map_right_iff]
  refine (mapM_eq_ok_iff.mp read).flip.imp fun tokens words readLine => ?_
  rw [List.length_map]
  exact (mapM_eq_ok_iff.mp readLine).length_eq.symm

/-- The line of a token is the one that its word stands on. -/
theorem lineOfToken_eq_some_iff (built : ofSource filename source = .ok map)
    {index line : Int} :
    map.lineOfToken index = some line ↔ Text.StandsOn source index line := by
  rcases map_eq_ok_iff.mp built with ⟨lines, encodable, rfl⟩
  have read := Token.linesOfSource_of_encodableLines encodable
  have table : (ofLines lines).tokenLines = linesOfTokens 1 lines := by rw [ofLines_eq]
  rw [lineOfToken, table]
  by_cases negative : index < 0
  · rw [if_neg (by omega)]
    constructor
    · intro none
      cases none
    · rintro ⟨earlier, text, later, _, _, lower, _⟩
      omega
  · rw [if_pos (by omega), getElem?_linesOfTokens (length_eq_of_linesOfSource read)]
    constructor
    · rintro ⟨earlier, group, later, split, rfl, lower, upper⟩
      rcases List.map_eq_append_iff.mp split with ⟨before, others, lines, rfl, rest⟩
      rcases List.map_eq_cons_iff.mp rest with ⟨text, after, rfl, rfl, rfl⟩
      rw [← List.flatMap_def] at lower upper
      rw [List.length_map]
      exact ⟨before, text, after, lines, by omega, by omega, by omega⟩
    · rintro ⟨before, text, after, lines, rfl, lower, upper⟩
      refine ⟨before.map Text.words, Text.words text, after.map Text.words, ?_, ?_, ?_, ?_⟩
      · rw [lines, List.map_append, List.map_cons]
      · rw [List.length_map]
        omega
      · rw [← List.flatMap_def]
        omega
      · rw [← List.flatMap_def]
        omega

/-- A word stands on one line. -/
theorem eq_of_standsOn (built : ofSource filename source = .ok map) {index line otherLine : Int}
    (stands : Text.StandsOn source index line)
    (standsOther : Text.StandsOn source index otherLine) : line = otherLine := by
  rw [← lineOfToken_eq_some_iff built] at stands standsOther
  rw [stands] at standsOther
  exact Option.some.inj standsOther

/-- Every word stands on a line. -/
theorem exists_standsOn (built : ofSource filename source = .ok map) {index : Int}
    (lower : 0 ≤ index) (upper : index < ((Text.splitWords source).length : Int)) :
    ∃ line, Text.StandsOn source index line := by
  rw [← tokenCount_of_ofSource built, tokenCount] at upper
  have inside : index.toNat < map.tokenLines.length := by omega
  refine ⟨map.tokenLines[index.toNat], (lineOfToken_eq_some_iff built).mp ?_⟩
  rw [lineOfToken, if_pos lower, List.getElem?_eq_getElem inside]

end OffsetMap

end ScriptWorkbench
