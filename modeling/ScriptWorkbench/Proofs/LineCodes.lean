import ScriptWorkbench.Proofs.EncodableTokens
import ScriptWorkbench.Proofs.OffsetTables

/-!
# The code of each line

A source assembles to the codes of its lines end to end. The line table of its
offset map holds where each of these codes starts.
-/

namespace ScriptWorkbench

theorem Token.ofSource_eq_map_flatten (table : OpcodeTable) (filename source : String) :
    Token.ofSource table filename source =
      (Token.linesOfSource table filename source).map List.flatten :=
  mapM_flatten _ _

theorem Token.ofSource_of_linesOfSource {table : OpcodeTable} {filename source : String}
    {lines : List (List Token)} (read : linesOfSource table filename source = .ok lines) :
    ofSource table filename source = .ok lines.flatten := by
  rw [ofSource_eq_map_flatten, read]
  rfl

/-- A source assembles to the code of its lines if its lines can be encoded. -/
theorem assembleWith_eq_ok_iff_encodableLines {table : OpcodeTable} {filename source : String}
    {bytes : Bytes} :
    assembleWith table filename source = .ok bytes ↔
      ∃ lines, Token.encodableLines table filename source = .ok lines ∧
        lines.flatten.flatMap Token.encode = bytes := by
  rw [assembleWith, map_eq_ok_iff]
  simp only [Token.encodableOfSource_eq_ok_iff, Token.encodableLines_eq_ok_iff]
  constructor
  · intro accepted
    rcases accepted with ⟨tokens, ⟨read, fits⟩, code⟩
    rw [Token.ofSource_eq_map_flatten] at read
    rcases map_eq_ok_iff.mp read with ⟨lines, readLines, rfl⟩
    exact ⟨lines, ⟨readLines, fits⟩, code⟩
  · intro encodable
    rcases encodable with ⟨lines, ⟨readLines, fits⟩, code⟩
    exact ⟨lines.flatten, ⟨Token.ofSource_of_linesOfSource readLines, fits⟩, code⟩

/-- The lines of a source that does not assemble cannot be encoded, for the same reason
unless a payload is too long. -/
theorem exists_encodableLines_eq_error {table : OpcodeTable} {filename source : String}
    {error : CodecError} (refused : assembleWith table filename source = .error error) :
    ∃ other, Token.encodableLines table filename source = .error other ∧
      ((∀ length, error.fault ≠ .pushLength length) → other = error) := by
  cases outcome : Token.encodableLines table filename source with
  | ok lines =>
      have accepted := assembleWith_eq_ok_iff_encodableLines.mpr ⟨lines, outcome, rfl⟩
      rw [refused] at accepted
      cases accepted
  | error other =>
      refine ⟨other, rfl, fun isCodec => ?_⟩
      have noTokens := Token.ofSource_of_encodableOfSource_eq_error
        (map_eq_error_iff.mp refused) isCodec
      rw [Token.ofSource_eq_map_flatten, map_eq_error_iff] at noTokens
      rw [Token.encodableLines, noTokens] at outcome
      cases outcome
      rfl

/-- The code of each line of a source. -/
def lineCodes (source : String) : Except CodecError (List Bytes) :=
  (Token.encodableLines .standard Token.sourceName source).map fun lines =>
    lines.map fun tokens => tokens.flatMap Token.encode

/-- The codes of the lines of tokens, end to end. -/
theorem flatten_map_flatMap_encode (lines : List (List Token)) :
    (lines.map fun tokens => tokens.flatMap Token.encode).flatten =
      lines.flatten.flatMap Token.encode := by
  simp only [List.flatMap_def, List.map_flatten, List.flatten_flatten, List.map_map,
    Function.comp_def]

theorem assemble_of_lineCodes {source : String} {codes : List Bytes}
    (coded : lineCodes source = .ok codes) : assemble source = .ok codes.flatten := by
  rcases map_eq_ok_iff.mp coded with ⟨lines, encodable, rfl⟩
  rw [flatten_map_flatMap_encode]
  exact assembleWith_eq_ok_iff_encodableLines.mpr ⟨lines, encodable, rfl⟩

/-- Whether the code of a line starts at an offset of the whole code. Lines
count from 1. -/
def CodeStartsAt (codes : List Bytes) (line offset : Int) : Prop :=
  ∃ earlier code later, codes = earlier ++ code :: later ∧
    line = (earlier.length : Int) + 1 ∧ offset = (earlier.flatten.length : Int)

/-- The starts of lines with the given codes. -/
def startsOfCodes (codes : List Bytes) : List Int :=
  (pieceStarts 0 (codes.map List.length)).map Int.ofNat

theorem codeStartsAt_of_getElem? {codes : List Bytes} {index : Nat} {offset : Int}
    (found : (startsOfCodes codes)[index]? = some offset) :
    CodeStartsAt codes ((index : Int) + 1) offset := by
  rw [startsOfCodes, List.getElem?_map, getElem?_pieceStarts, List.getElem?_map] at found
  simp only [Option.map_map, Option.map_eq_some_iff, Function.comp_apply, Nat.zero_add] at found
  rcases found with ⟨code, isCode, rfl⟩
  rcases List.getElem?_eq_some_iff.mp isCode with ⟨inside, rfl⟩
  refine ⟨codes.take index, codes[index], codes.drop (index + 1), ?_, ?_, ?_⟩
  · rw [List.getElem_cons_drop, List.take_append_drop]
  · rw [List.length_take_of_le (Nat.le_of_lt inside)]
  · rw [List.length_flatten, List.map_take]
    rfl

/-- What a table holds for the lines that it has is found in the given order; the
other lines are left out. -/
theorem forall₂_offsetsOfLines {α : Type} {table : List α} {relation : Int → α → Prop}
    (related : ∀ (index : Nat) (value : α), table[index]? = some value →
      relation ((index : Int) + 1) value) (lines : List Int) :
    List.Forall₂ relation
      (lines.filter fun line => 1 ≤ line ∧ line ≤ (table.length : Int))
      (offsetsOfLines table lines) := by
  induction lines with
  | nil => exact .nil
  | cons line lines induction =>
      by_cases inside : 1 ≤ line ∧ line ≤ (table.length : Int)
      · have below : (line - 1).toNat < table.length := by omega
        have found := List.getElem?_eq_getElem below
        have holds := related _ _ found
        have sameLine : ((line - 1).toNat : Int) + 1 = line := by omega
        rw [sameLine] at holds
        rw [List.filter_cons_of_pos (by simpa using inside), offsetsOfLines,
          List.filterMap_cons_some (by rw [if_pos inside.1, found])]
        exact .cons holds induction
      · have missing : (if 1 ≤ line then table[(line - 1).toNat]? else none) = none := by
          split
          · exact List.getElem?_eq_none (by omega)
          · rfl
        rw [List.filter_cons_of_neg (by simpa using inside), offsetsOfLines, List.filterMap_cons,
          missing]
        exact induction

/-- The lines that a source has are found at the starts of their codes. -/
theorem forall₂_codeStartsAt (codes : List Bytes) (lines : List Int) :
    List.Forall₂ (CodeStartsAt codes)
      (lines.filter fun line => 1 ≤ line ∧ line ≤ (codes.length : Int))
      (offsetsOfLines (startsOfCodes codes) lines) := by
  have size : codes.length = (startsOfCodes codes).length := by
    rw [startsOfCodes, List.length_map, length_pieceStarts, List.length_map]
  rw [size]
  exact forall₂_offsetsOfLines (fun _ _ found => codeStartsAt_of_getElem? found) lines

namespace OffsetMap

/-- An offset map describes the code of its source, line by line and as a
whole. -/
theorem exists_lineCodes_of_ofSource {source : String} {map : OffsetMap}
    (built : ofSource Token.sourceName source = .ok map) :
    ∃ codes, lineCodes source = .ok codes ∧ map.lineTable = startsOfCodes codes ∧
      map.totalLength = (codes.flatten.length : Int) := by
  rcases map_eq_ok_iff.mp built with ⟨lines, read, rfl⟩
  refine ⟨_, by rw [lineCodes, read]; rfl, ?_, ?_⟩
  · rw [ofLines_eq, startsOfCodes, List.map_map]
    simp only [Function.comp_def, length_flatMap_encode]
  · rw [flatten_map_flatMap_encode, ofLines_eq, length_flatMap_encode]

theorem exists_ofSource_of_assembleWith {filename source : String} {bytes : Bytes}
    (accepted : assembleWith .standard filename source = .ok bytes) :
    ∃ map, ofSource filename source = .ok map := by
  rcases assembleWith_eq_ok_iff_encodableLines.mp accepted with ⟨lines, encodable, _⟩
  exact ⟨ofLines lines, map_eq_ok_iff.mpr ⟨lines, encodable, rfl⟩⟩

end OffsetMap

end ScriptWorkbench
