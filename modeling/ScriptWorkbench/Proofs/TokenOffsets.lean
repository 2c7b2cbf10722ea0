import ScriptWorkbench.Proofs.TokenPositions
import ScriptWorkbench.Proofs.WordTables

/-!
# Token offsets

A token starts where the code of the earlier ones ends, and its code is all that
stands between its start and the next one. Since no code is empty, no two tokens
start at one offset. So an offset map finds each token by its own start, and the
last one by the end of the program too.
-/

namespace ScriptWorkbench

variable {tokens : List Token} {token : Token}

/-! ## Where tokens start -/

/-- The size of the tokens before the one with an index. Behind the last token
it is the size of the program. -/
def tokenStart (tokens : List Token) (index : Nat) : Nat := encodedSize (tokens.take index)

theorem tokenStart_succ {index : Nat} (found : tokens[index]? = some token) :
    tokenStart tokens (index + 1) = tokenStart tokens index + token.encodedLength := by
  rw [tokenStart, tokenStart, List.take_add_one, found, encodedSize_append]
  rfl

theorem tokenStart_length (tokens : List Token) :
    tokenStart tokens tokens.length = encodedSize tokens := by
  rw [tokenStart, List.take_length]

/-- Every token takes at least one byte, so each starts behind the earlier ones. -/
theorem tokenStart_lt {left right : Nat} (earlier : left < right)
    (inside : right ≤ tokens.length) : tokenStart tokens left < tokenStart tokens right := by
  induction right with
  | zero => omega
  | succ right induction =>
      have found := List.getElem?_eq_getElem (Nat.lt_of_succ_le inside)
      have next := tokenStart_succ found
      have positive : 0 < tokens[right].encodedLength := tokens[right].meaning.encodedLength_pos
      rcases Nat.lt_succ_iff_lt_or_eq.mp earlier with before | rfl
      · have smaller := induction before (Nat.le_of_succ_le inside)
        omega
      · omega

/-- The code between two neighbouring starts is that of one token. -/
theorem extract_flatMap_encode {index : Nat} (found : tokens[index]? = some token) :
    (tokens.flatMap Token.encode).extract (tokenStart tokens index)
      (tokenStart tokens (index + 1)) = token.encode := by
  rcases List.getElem?_eq_some_iff.mp found with ⟨inside, rfl⟩
  have split : tokens.flatMap Token.encode =
      (tokens.take index).flatMap Token.encode ++
        (tokens[index].encode ++ (tokens.drop (index + 1)).flatMap Token.encode) := by
    rw [← List.flatMap_cons, ← List.flatMap_append, List.getElem_cons_drop,
      List.take_append_drop]
  have start : tokenStart tokens index = ((tokens.take index).flatMap Token.encode).length := by
    rw [length_flatMap_encode, tokenStart]
  have size : tokenStart tokens (index + 1) - tokenStart tokens index =
      tokens[index].encode.length := by
    rw [tokenStart_succ found, Nat.add_sub_cancel_left, Token.encode, Meaning.length_encode,
      Token.encodedLength]
  rw [List.extract_eq_take_drop, size, start, split, List.drop_left, List.take_left]

/-! ## Finding tokens -/

/-- Whether an offset stands for a token: the token starts there, or it is the
last one and the program ends there. -/
def StandsFor (tokens : List Token) (offset index : Int) : Prop :=
  (∃ place : Nat, place < tokens.length ∧ offset = (tokenStart tokens place : Int) ∧
    index = (place : Int)) ∨
  (tokens ≠ [] ∧ offset = (tokenStart tokens tokens.length : Int) ∧
    index = (tokens.length : Int) - 1)

theorem place_eq_of_tokenStart_eq {left right : Nat} (insideLeft : left ≤ tokens.length)
    (insideRight : right ≤ tokens.length)
    (same : tokenStart tokens left = tokenStart tokens right) : left = right := by
  rcases Nat.lt_trichotomy left right with before | equal | after
  · have smaller := tokenStart_lt before insideRight
    omega
  · exact equal
  · have smaller := tokenStart_lt after insideLeft
    omega

theorem eq_of_standsFor {offset left right : Int} (standsLeft : StandsFor tokens offset left)
    (standsRight : StandsFor tokens offset right) : left = right := by
  rcases standsLeft with ⟨first, inside, rfl, rfl⟩ | ⟨_, rfl, rfl⟩
  · rcases standsRight with ⟨second, insideOther, same, rfl⟩ | ⟨_, same, rfl⟩
    · have places := place_eq_of_tokenStart_eq (Nat.le_of_lt inside) (Nat.le_of_lt insideOther)
        (Int.ofNat_inj.mp same)
      rw [places]
    · have places := place_eq_of_tokenStart_eq (Nat.le_of_lt inside) (Nat.le_refl _)
        (Int.ofNat_inj.mp same)
      omega
  · rcases standsRight with ⟨second, insideOther, same, rfl⟩ | ⟨_, _, rfl⟩
    · have places := place_eq_of_tokenStart_eq (Nat.le_refl _) (Nat.le_of_lt insideOther)
        (Int.ofNat_inj.mp same)
      omega
    · rfl

namespace OffsetMap

/-- In a table that gives no offset two tokens, an entry is found if it is
there. -/
theorem tokenIndexAt_eq_some_iff {table : List (Int × Int)}
    (single : ∀ offset left right, (offset, left) ∈ table → (offset, right) ∈ table → left = right)
    {offset index : Int} :
    tokenIndexAt table offset = some index ↔ (offset, index) ∈ table := by
  constructor
  · exact mem_of_tokenIndexAt
  · intro member
    cases found : tokenIndexAt table offset with
    | none =>
        have absent := List.lookup_eq_none_iff.mp found _ (List.mem_reverse.mpr member)
        simp at absent
    | some other => rw [single offset other index (mem_of_tokenIndexAt found) member]

theorem mem_tokenEntries_iff {offset index : Int} :
    (offset, index) ∈ tokenEntries 0 0 tokens ↔
      ∃ place : Nat, place < tokens.length ∧ offset = (tokenStart tokens place : Int) ∧
        index = (place : Int) := by
  have starts (place start : Nat) :
      (start, place) ∈ (pieceStarts 0 (tokens.map Token.encodedLength)).zipIdx 0 ↔
        place < tokens.length ∧ tokenStart tokens place = start := by
    rw [List.mk_mem_zipIdx_iff_getElem?, getElem?_pieceStarts, List.getElem?_map, Nat.zero_add,
      ← List.map_take, ← encodedSize_eq_sum, ← tokenStart]
    by_cases inside : place < tokens.length
    · simp [inside]
    · simp [inside]
  rw [tokenEntries, List.mem_map]
  constructor
  · rintro ⟨⟨start, place⟩, placed, same⟩
    rcases (starts place start).mp placed with ⟨inside, rfl⟩
    cases same
    exact ⟨place, inside, rfl, rfl⟩
  · rintro ⟨place, inside, rfl, rfl⟩
    exact ⟨(tokenStart tokens place, place), (starts place _).mpr ⟨inside, rfl⟩, rfl⟩

theorem mem_endEntry_iff {offset index : Int} :
    (offset, index) ∈ endEntry tokens ↔
      tokens ≠ [] ∧ offset = (tokenStart tokens tokens.length : Int) ∧
        index = (tokens.length : Int) - 1 := by
  rw [endEntry, tokenStart_length]
  by_cases empty : tokens = []
  · simp [empty]
  · simp [empty]

theorem mem_tokenTable_ofLines_iff {lines : List (List Token)} {offset index : Int} :
    (offset, index) ∈ (ofLines lines).tokenTable ↔ StandsFor lines.flatten offset index := by
  rw [ofLines_eq, List.mem_append, mem_tokenEntries_iff, mem_endEntry_iff, StandsFor]

/-- An offset map gives an offset the token that it stands for, and no token to
any other offset. -/
theorem tokenAt_ofLines_eq_some_iff {lines : List (List Token)} {offset index : Int} :
    (ofLines lines).tokenAt offset = some index ↔ StandsFor lines.flatten offset index := by
  rw [tokenAt, tokenIndexAt_eq_some_iff, mem_tokenTable_ofLines_iff]
  intro offset left right entry other
  exact eq_of_standsFor (mem_tokenTable_ofLines_iff.mp entry)
    (mem_tokenTable_ofLines_iff.mp other)

/-! ## The lines of tokens -/

/-- The lines that are counted while a map is built are those that the tokens
carry. -/
theorem linesOfTokens_eq_map_line {lines : List (List Token)} {start : Nat}
    (numbered : ∀ index group, lines[index]? = some group →
      ∀ token ∈ group, token.line = start + index) :
    linesOfTokens start lines = lines.flatten.map fun token => (token.line : Int) := by
  induction lines generalizing start with
  | nil => rfl
  | cons tokens lines induction =>
      have counted : (tokens.map fun token => (token.line : Int)) =
          List.replicate tokens.length (start : Int) := by
        rw [List.map_eq_replicate_iff]
        intro token member
        rw [numbered 0 tokens rfl token member, Nat.add_zero]
      have others : ∀ index group, lines[index]? = some group →
          ∀ token ∈ group, token.line = start + 1 + index := by
        intro index group found token member
        rw [numbered (index + 1) group found token member]
        omega
      rw [linesOfTokens, induction others, List.flatten_cons, List.map_append, counted]

theorem tokenLines_ofLines {filename source : String} {lines : List (List Token)}
    (read : Token.linesOfSource .standard filename source = .ok lines) :
    (ofLines lines).tokenLines = lines.flatten.map fun token => (token.line : Int) := by
  have counted : linesOfTokens 1 lines = lines.flatten.map fun token => (token.line : Int) := by
    apply linesOfTokens_eq_map_line
    intro index group found token member
    rw [Token.line_of_linesOfSource read found member, Nat.add_comm]
  rw [ofLines_eq, counted]

theorem lineOfToken_ofLines_eq_some_iff {filename source : String} {lines : List (List Token)}
    (read : Token.linesOfSource .standard filename source = .ok lines) {index line : Int} :
    (ofLines lines).lineOfToken index = some line ↔
      ∃ (place : Nat) (token : Token), lines.flatten[place]? = some token ∧
        index = (place : Int) ∧ line = (token.line : Int) := by
  rw [lineOfToken, tokenLines_ofLines read, List.getElem?_map]
  by_cases negative : index < 0
  · rw [if_neg (by omega)]
    constructor
    · intro none
      cases none
    · rintro ⟨place, token, _, rfl, _⟩
      omega
  · rw [if_pos (by omega), Option.map_eq_some_iff]
    constructor
    · rintro ⟨token, found, rfl⟩
      exact ⟨index.toNat, token, found, by omega, rfl⟩
    · rintro ⟨place, token, found, rfl, rfl⟩
      exact ⟨token, found, rfl⟩

/-! ## The whole map -/

theorem tokenTable_ofLines (lines : List (List Token)) :
    (ofLines lines).tokenTable =
      (startsOfTokens lines.flatten).map fun (start, index) => ((start : Int), (index : Int)) := by
  rw [ofLines_eq, startsOfTokens]
  by_cases empty : lines.flatten = []
  · simp [empty, tokenEntries, endEntry]
  · have positive := List.length_pos_iff.mpr empty
    have last : ((lines.flatten.length - 1 : Nat) : Int) = (lines.flatten.length : Int) - 1 := by
      omega
    simp only [List.isEmpty_iff, empty, if_false, List.map_append, List.map_cons, List.map_nil,
      last, tokenEntries, endEntry]

/-- Whether an offset map says where the tokens of a program stand, in its code
and in its source. -/
structure Locates (map : OffsetMap) (tokens : List Token) (code : Bytes) : Prop where
  tokenCount : map.tokenCount = tokens.length
  totalLength : map.totalLength = (code.length : Int)
  size : tokenStart tokens tokens.length = code.length
  piece : ∀ (index : Nat) (token : Token), tokens[index]? = some token →
    code.extract (tokenStart tokens index) (tokenStart tokens (index + 1)) = token.encode
  increasing : ∀ left right : Nat, left < right → right ≤ tokens.length →
    tokenStart tokens left < tokenStart tokens right
  tokenAt : ∀ offset index : Int,
    map.tokenAt offset = some index ↔ StandsFor tokens offset index
  lineOfToken : ∀ index line : Int, map.lineOfToken index = some line ↔
    ∃ (place : Nat) (token : Token), tokens[place]? = some token ∧
      index = (place : Int) ∧ line = (token.line : Int)

theorem locates_ofLines {filename source : String} {lines : List (List Token)}
    (read : Token.linesOfSource .standard filename source = .ok lines) :
    (ofLines lines).Locates lines.flatten (lines.flatten.flatMap Token.encode) where
  tokenCount := by
    rw [tokenCount, ofLines_eq, length_linesOfTokens]
  totalLength := by
    rw [ofLines_eq, length_flatMap_encode]
  size := by
    rw [tokenStart_length, length_flatMap_encode]
  piece _ _ found := extract_flatMap_encode found
  increasing _ _ earlier inside := tokenStart_lt earlier inside
  tokenAt _ _ := tokenAt_ofLines_eq_some_iff
  lineOfToken _ _ := lineOfToken_ofLines_eq_some_iff read

end OffsetMap

/-- The offset map of a source that assembles locates each of its tokens, and
its two tables are those that are found each by itself. A source that does not
assemble has neither, for the same reason, unless a payload is too long: the
tables are of a source that is read to its end first. -/
theorem offset_map_locates_tokens (source : String) :
    (∀ code, assemble source = .ok code →
      ∃ (tokens : List Token) (map : OffsetMap) (starts : List Nat) (entries : List (Nat × Nat)),
        Token.ofSource .standard Token.sourceName source = .ok tokens ∧
        OffsetMap.ofSource Token.sourceName source = .ok map ∧ map.Locates tokens code ∧
        lineStarts source = .ok starts ∧
        map.lineTable = starts.map Int.ofNat ∧
        tokenStarts source = .ok entries ∧
        map.tokenTable = entries.map fun (start, index) => ((start : Int), (index : Int))) ∧
    ∀ error, assemble source = .error error →
      ∃ other, OffsetMap.ofSource Token.sourceName source = .error other ∧
        lineStarts source = .error other ∧ tokenStarts source = .error other ∧
        ((∀ length, error.fault ≠ .pushLength length) → other = error) := by
  constructor
  · intro code accepted
    rcases assembleWith_eq_ok_iff_encodableLines.mp accepted with ⟨lines, encodable, rfl⟩
    have readLines := Token.linesOfSource_of_encodableLines encodable
    have mapped : OffsetMap.ofSource Token.sourceName source = .ok (OffsetMap.ofLines lines) :=
      map_eq_ok_iff.mpr ⟨lines, encodable, rfl⟩
    have startsOfLines : lineStarts source = .ok (pieceStarts 0 (lines.map encodedSize)) :=
      map_eq_ok_iff.mpr ⟨lines, encodable, rfl⟩
    have startsOfAll : tokenStarts source = .ok (startsOfTokens lines.flatten) :=
      map_eq_ok_iff.mpr ⟨lines, encodable, rfl⟩
    refine ⟨_, _, _, _, Token.ofSource_of_linesOfSource readLines, mapped,
      OffsetMap.locates_ofLines readLines, startsOfLines, ?_, startsOfAll,
      OffsetMap.tokenTable_ofLines lines⟩
    rw [OffsetMap.ofLines_eq]
  · intro error refused
    rcases exists_encodableLines_eq_error refused with ⟨other, unencodable, sameReason⟩
    exact ⟨other, map_eq_error_iff.mpr unencodable, map_eq_error_iff.mpr unencodable,
      map_eq_error_iff.mpr unencodable, sameReason⟩

/-- Two tokens on one line and one on the third, and a word without a meaning. -/
theorem offset_map_locates_tokens_of_three_lines :
    let source := "OP_DUP <0011>\n\n16"
    let tokens : List Token :=
      [{ meaning := .opcode 0x76, text := "OP_DUP", line := 1, column := 1, filename := "<asm>" },
        { meaning := .data [0x00, 0x11], text := "<0011>", line := 1, column := 8,
          filename := "<asm>" },
        { meaning := .smallInteger 0x60, text := "16", line := 3, column := 1,
          filename := "<asm>" }]
    Token.ofSource .standard Token.sourceName source = .ok tokens ∧
      (∃ map, OffsetMap.ofSource Token.sourceName source = .ok map ∧ map.tokenAt 1 = some 1 ∧
        map.tokenAt 2 = none ∧ map.tokenAt 5 = some 2 ∧ map.lineOfToken 2 = some 3) ∧
      ∃ error, assemble "OP_DUP\n5G" = .error error ∧
        OffsetMap.ofSource Token.sourceName "OP_DUP\n5G" = .error error := by
  intro source tokens
  have own : Token.ofSource .standard Token.sourceName source = .ok tokens := by decide +revert
  refine ⟨own, ?_, ?_⟩
  · have accepted : assemble source = .ok [0x76, 0x02, 0x00, 0x11, 0x60] := by decide +revert
    rcases (offset_map_locates_tokens source).1 _ accepted with
      ⟨others, map, _, _, read, mapped, locates, _⟩
    rw [own, Except.ok.injEq] at read
    subst read
    have elsewhere : ∀ place < 3, (2 : Int) ≠ (tokenStart tokens place : Int) := by decide
    refine ⟨map, mapped, ?_, ?_, ?_, ?_⟩
    · exact (locates.tokenAt 1 1).mpr (.inl ⟨1, by decide, by decide, rfl⟩)
    · rw [Option.eq_none_iff_forall_ne_some]
      intro index found
      rcases (locates.tokenAt 2 index).mp found with ⟨place, inside, same, _⟩ | ⟨_, same, _⟩
      · exact elsewhere place inside same
      · revert same
        decide
    · exact (locates.tokenAt 5 2).mpr (.inr ⟨by decide, by decide, by decide⟩)
    · exact (locates.lineOfToken 2 3).mpr ⟨2, _, rfl, rfl, rfl⟩
  · have refused : ∃ error, assemble "OP_DUP\n5G" = .error error ∧
        ∀ length, error.fault ≠ .pushLength length :=
      ⟨_, rfl, fun _ => CodecFault.noConfusion⟩
    rcases refused with ⟨error, refused, isCodec⟩
    rcases (offset_map_locates_tokens "OP_DUP\n5G").2 error refused with
      ⟨other, notMapped, _, _, sameReason⟩
    rw [sameReason isCodec] at notMapped
    exact ⟨error, refused, notMapped⟩

end ScriptWorkbench
