import ScriptWorkbench.Proofs.TokenOffsets

/-!
# The next token of a line

A line of a source leads to the first token that stands on it or further down. The
line table holds where this token starts, so a breakpoint stops there, whether its
line has tokens or not. Looking a line up among the tokens finds the same place for
a line that has tokens, and nothing for any other.
-/

namespace ScriptWorkbench

/-! ## The order of starts -/

theorem le_of_mem_pieceStarts {start place : Nat} {sizes : List Nat}
    (member : place ∈ pieceStarts start sizes) : start ≤ place := by
  induction sizes generalizing start with
  | nil => cases member
  | cons size sizes induction =>
      rcases List.mem_cons.mp member with rfl | later
      · exact Nat.le_refl _
      · exact Nat.le_of_add_right_le (induction later)

theorem pairwise_pieceStarts (start : Nat) (sizes : List Nat) :
    (pieceStarts start sizes).Pairwise (· ≤ ·) := by
  induction sizes generalizing start with
  | nil => exact .nil
  | cons size sizes induction =>
      refine .cons ?_ (induction (start + size))
      intro place member
      exact Nat.le_of_add_right_le (le_of_mem_pieceStarts member)

/-! ## Tokens on lines -/

/-- Whether an offset of a program is the start of its first token that stands on a
line or further down, or the end of the program if there is no such token. -/
inductive NextTokenStartsAt (tokens : List Token) (line : Int) : Int → Prop
  | token {earlier later : List Token} {token : Token}
      (split : tokens = earlier ++ token :: later)
      (above : ∀ other ∈ earlier, (other.line : Int) < line) (reached : line ≤ token.line) :
      NextTokenStartsAt tokens line ((earlier.flatMap Token.encode).length : Int)
  | ending (above : ∀ other ∈ tokens, (other.line : Int) < line) :
      NextTokenStartsAt tokens line ((tokens.flatMap Token.encode).length : Int)

/-- Whether the tokens of each line carry its number. -/
def Numbered (lines : List (List Token)) : Prop :=
  ∀ index group, lines[index]? = some group → ∀ token ∈ group, token.line = index + 1

namespace Numbered

variable {lines before behind : List (List Token)} {token : Token}

theorem line_le (numbered : Numbered (before ++ behind)) (member : token ∈ before.flatten) :
    token.line ≤ before.length := by
  rcases List.mem_flatten.mp member with ⟨group, isGroup, inGroup⟩
  rcases List.mem_iff_getElem?.mp isGroup with ⟨index, found⟩
  have inside := (List.getElem?_eq_some_iff.mp found).1
  rw [numbered index group (by rw [List.getElem?_append_left inside, found]) token inGroup]
  exact inside

theorem lt_line (numbered : Numbered (before ++ behind)) (member : token ∈ behind.flatten) :
    before.length < token.line := by
  rcases List.mem_flatten.mp member with ⟨group, isGroup, inGroup⟩
  rcases List.mem_iff_getElem?.mp isGroup with ⟨index, found⟩
  have place : (before ++ behind)[before.length + index]? = some group := by
    rw [List.getElem?_append_right (Nat.le_add_right _ _), Nat.add_sub_cancel_left, found]
  rw [numbered _ group place token inGroup]
  omega

/-- Behind the lines above it, a line leads to the first token that is left. -/
theorem nextTokenStartsAt (numbered : Numbered (before ++ behind)) :
    NextTokenStartsAt (before ++ behind).flatten ((before.length : Int) + 1)
      (encodedSize before.flatten : Int) := by
  have above : ∀ other ∈ before.flatten, (other.line : Int) < (before.length : Int) + 1 := by
    intro other member
    have bound := numbered.line_le member
    omega
  rw [← length_flatMap_encode, List.flatten_append]
  -- Lines without tokens leave nothing in the flat list, so its head is the next token.
  cases rest : behind.flatten with
  | nil =>
      rw [List.append_nil]
      exact .ending above
  | cons token later =>
      have isBelow : token ∈ behind.flatten := by
        rw [rest]
        exact List.mem_cons_self
      have bound := numbered.lt_line isBelow
      exact .token rfl above (by omega)

/-- The first of the tokens that stand on a line. -/
theorem exists_first (numbered : Numbered lines) (member : token ∈ lines.flatten) :
    ∃ before first more behind, lines = before ++ (first :: more) :: behind ∧
      token.line = before.length + 1 := by
  rcases List.mem_flatten.mp member with ⟨group, isGroup, inGroup⟩
  rcases List.append_of_mem isGroup with ⟨before, behind, rfl⟩
  cases group with
  | nil => cases inGroup
  | cons first more =>
      have place :
          (before ++ (first :: more) :: behind)[before.length]? = some (first :: more) := by
        rw [List.getElem?_append_right (Nat.le_refl _), Nat.sub_self, List.getElem?_cons_zero]
      exact ⟨before, first, more, behind, rfl, numbered _ _ place token inGroup⟩

end Numbered

theorem Token.numbered_of_linesOfSource {table : OpcodeTable} {filename source : String}
    {lines : List (List Token)} (read : linesOfSource table filename source = .ok lines) :
    Numbered lines := fun _ _ found _ member => line_of_linesOfSource read found member

/-! ## Looking lines up -/

/-- A value is first found where it stands behind others. -/
theorem idxOf?_append_cons {before after : List Int} {value : Int} (absent : value ∉ before) :
    (before ++ value :: after).idxOf? value = some before.length := by
  induction before with
  | nil => simp [List.idxOf?_cons]
  | cons first before induction =>
      rw [List.mem_cons, not_or] at absent
      rw [List.cons_append, List.idxOf?_cons, induction absent.2]
      simp [Ne.symm absent.1]

theorem tokenStart_append (left right : List Token) :
    tokenStart (left ++ right) left.length = encodedSize left := by
  rw [tokenStart, List.take_left]

namespace OffsetMap

variable {filename source : String} {lines before behind : List (List Token)}

/-- The entries of a token start where the token does, or behind it. -/
theorem min?_offsets_ofLines {place : Nat} (inside : place < lines.flatten.length) :
    (((ofLines lines).tokenTable.filter fun entry => entry.2 == (place : Int)).map Prod.fst).min? =
      some (tokenStart lines.flatten place : Int) := by
  have entries (offset : Int) : offset ∈
      ((ofLines lines).tokenTable.filter fun entry => entry.2 == (place : Int)).map Prod.fst ↔
        StandsFor lines.flatten offset place := by
    simp [← mem_tokenTable_ofLines_iff]
  rw [List.min?_eq_some_iff]
  simp only [entries]
  refine ⟨.inl ⟨place, inside, rfl, rfl⟩, ?_⟩
  intro offset stands
  rcases stands with ⟨other, _, rfl, same⟩ | ⟨_, rfl, _⟩
  · have samePlace := Int.ofNat_inj.mp same
    subst samePlace
    exact Int.le_refl _
  -- The end of the program stands for the last token too.
  · exact Int.ofNat_le.mpr (Nat.le_of_lt (tokenStart_lt inside (Nat.le_refl _)))

/-- A line that has tokens is found where the code of the lines above it ends. -/
theorem firstTokenOffset_ofLines {first : Token} {more : List Token}
    (read : Token.linesOfSource .standard filename source =
      .ok (before ++ (first :: more) :: behind)) :
    (ofLines (before ++ (first :: more) :: behind)).firstTokenOffset ((before.length : Int) + 1) =
      some (encodedSize before.flatten : Int) := by
  have numbered := Token.numbered_of_linesOfSource read
  have flat : (before ++ (first :: more) :: behind).flatten =
      before.flatten ++ first :: (more ++ behind.flatten) := by
    rw [List.flatten_append, List.flatten_cons, List.cons_append]
  have own : (first.line : Int) = (before.length : Int) + 1 := by
    have bounds := numbered before.length (first :: more) (by simp) first List.mem_cons_self
    omega
  have absent : (before.length : Int) + 1 ∉
      before.flatten.map fun token => (token.line : Int) := by
    intro member
    rcases List.mem_map.mp member with ⟨token, isAbove, same⟩
    have bound := numbered.line_le isAbove
    omega
  have place : (ofLines (before ++ (first :: more) :: behind)).tokenLines.idxOf?
      ((before.length : Int) + 1) = some before.flatten.length := by
    rw [tokenLines_ofLines read, flat, List.map_append, List.map_cons, own,
      idxOf?_append_cons absent, List.length_map]
  have inside : before.flatten.length < (before ++ (first :: more) :: behind).flatten.length := by
    rw [flat, List.length_append, List.length_cons]
    omega
  rw [firstTokenOffset, place, Option.bind_some, min?_offsets_ofLines inside, flat,
    tokenStart_append]

/-! ## The whole line table -/

theorem getElem?_lineTable_ofLines (before : List (List Token)) (group : List Token)
    (behind : List (List Token)) :
    (ofLines (before ++ group :: behind)).lineTable[before.length]? =
      some (encodedSize before.flatten : Int) := by
  rw [ofLines_eq, List.getElem?_map, getElem?_pieceStarts]
  simp [encodedSize_flatten]

/-- Whether the line table of an offset map leads each line of a source to the next one
of its tokens, and agrees with looking the lines up among the tokens. -/
structure LeadsToTokens (map : OffsetMap) (source : String) (tokens : List Token) : Prop where
  lineCount : map.lineTable.length = (Text.sourceLines source).length
  increasing : map.lineTable.Pairwise (· ≤ ·)
  next (index : Nat) (offset : Int) (found : map.lineTable[index]? = some offset) :
    NextTokenStartsAt tokens ((index : Int) + 1) offset
  breakpoints (lines : List Int) :
    List.Forall₂ (NextTokenStartsAt tokens)
      (lines.filter fun line => 1 ≤ line ∧ line ≤ ((Text.sourceLines source).length : Int))
      (map.breakpointOffsets lines)
  /-- The least of a token's offsets is asked for only if there are any. -/
  searched (line : Int) (index : Nat) (found : map.tokenLines.idxOf? line = some index) :
    ∃ entry ∈ map.tokenTable, entry.2 = (index : Int)
  first (line : Int) (token : Token) (member : token ∈ tokens)
    (onLine : (token.line : Int) = line) :
    ∃ offset, map.lineTable[(line - 1).toNat]? = some offset ∧
      map.firstTokenOffset line = some offset
  unmapped (line : Int) (empty : ∀ token ∈ tokens, (token.line : Int) ≠ line) :
    map.firstTokenOffset line = none

theorem nextTokenStartsAt_of_lineTable (numbered : Numbered lines) {index : Nat} {offset : Int}
    (found : (ofLines lines).lineTable[index]? = some offset) :
    NextTokenStartsAt lines.flatten ((index : Int) + 1) offset := by
  have inside : index < lines.length := by
    have bound := (List.getElem?_eq_some_iff.mp found).1
    rwa [ofLines_eq, List.length_map, length_pieceStarts, List.length_map] at bound
  have split : lines.take index ++ lines[index] :: lines.drop (index + 1) = lines := by
    rw [List.getElem_cons_drop, List.take_append_drop]
  have distance : (lines.take index).length = index := List.length_take_of_le (Nat.le_of_lt inside)
  have entry := getElem?_lineTable_ofLines (lines.take index) lines[index] (lines.drop (index + 1))
  have counted : Numbered (lines.take index ++ lines[index] :: lines.drop (index + 1)) := by
    rwa [split]
  have leads := counted.nextTokenStartsAt
  rw [split, distance] at entry leads
  rw [found, Option.some.injEq] at entry
  rw [entry]
  exact leads

theorem leadsToTokens_ofLines
    (read : Token.linesOfSource .standard filename source = .ok lines) :
    (ofLines lines).LeadsToTokens source lines.flatten := by
  have numbered := Token.numbered_of_linesOfSource read
  have lineCount : (ofLines lines).lineTable.length = (Text.sourceLines source).length := by
    rw [← (Token.reconstructs read).lineCount, ofLines_eq, List.length_map, length_pieceStarts,
      List.length_map]
  have next (index : Nat) (offset : Int)
      (found : (ofLines lines).lineTable[index]? = some offset) :
      NextTokenStartsAt lines.flatten ((index : Int) + 1) offset :=
    nextTokenStartsAt_of_lineTable numbered found
  refine ⟨lineCount, ?_, next, ?_, ?_, ?_, ?_⟩
  · rw [ofLines_eq, List.pairwise_map]
    exact (pairwise_pieceStarts 0 _).imp Int.ofNat_le.mpr
  · intro asked
    rw [← lineCount]
    exact forall₂_offsetsOfLines next asked
  · intro line index found
    rcases List.idxOf?_eq_some_iff.mp found with ⟨inside, _⟩
    rw [tokenLines_ofLines read, List.length_map] at inside
    exact ⟨_, mem_tokenTable_ofLines_iff.mpr (.inl ⟨index, inside, rfl, rfl⟩), rfl⟩
  · intro line token member onLine
    rcases numbered.exists_first member with ⟨before, first, more, behind, rfl, place⟩
    have index : (line - 1).toNat = before.length := by omega
    have same : line = (before.length : Int) + 1 := by omega
    refine ⟨(encodedSize before.flatten : Int), ?_, ?_⟩
    · rw [index, getElem?_lineTable_ofLines]
    · rw [same, firstTokenOffset_ofLines read]
  · intro line empty
    have absent : (ofLines lines).tokenLines.idxOf? line = none := by
      rw [List.idxOf?_eq_none_iff, tokenLines_ofLines read]
      intro member
      rcases List.mem_map.mp member with ⟨token, isToken, same⟩
      exact empty token isToken same
    rw [firstTokenOffset, absent, Option.bind_none]

end OffsetMap

/-- The offset map of a source that assembles leads each of its lines to the next token,
breakpoints included, and finds the first token of a line at the same place. -/
theorem breakpoints_land_on_next_token {filename source : String} {code : Bytes}
    (accepted : assembleWith .standard filename source = .ok code) :
    ∃ tokens map, Token.ofSource .standard filename source = .ok tokens ∧
      OffsetMap.ofSource filename source = .ok map ∧
      tokens.flatMap Token.encode = code ∧ map.totalLength = (code.length : Int) ∧
      map.LeadsToTokens source tokens := by
  rcases assembleWith_eq_ok_iff_encodableLines.mp accepted with ⟨lines, encodable, rfl⟩
  have read := Token.linesOfSource_of_encodableLines encodable
  exact ⟨lines.flatten, OffsetMap.ofLines lines, Token.ofSource_of_linesOfSource read,
    map_eq_ok_iff.mpr ⟨lines, encodable, rfl⟩, rfl,
    (OffsetMap.locates_ofLines read).totalLength, OffsetMap.leadsToTokens_ofLines read⟩

/-- An empty line between lines with tokens, an empty last line, and breakpoints in
any order, one of them outside the source. -/
theorem breakpoints_land_on_next_token_of_empty_lines :
    let source := "OP_DUP <0011>\n\n16\n"
    assembleWith .standard "<asm>" source = .ok [0x76, 0x02, 0x00, 0x11, 0x60] ∧
      ∃ tokens map, Token.ofSource .standard "<asm>" source = .ok tokens ∧
        OffsetMap.ofSource "<asm>" source = .ok map ∧ map.LeadsToTokens source tokens ∧
        List.Forall₂ (NextTokenStartsAt tokens) [4, 2, 2] (map.breakpointOffsets [4, 2, 9, 2]) := by
  intro source
  have inside : ([4, 2, 9, 2] : List Int).filter
      (fun line => 1 ≤ line ∧ line ≤ ((Text.sourceLines source).length : Int)) = [4, 2, 2] := by
    decide +revert
  have accepted : assembleWith .standard "<asm>" source = .ok [0x76, 0x02, 0x00, 0x11, 0x60] := by
    decide +revert
  rcases breakpoints_land_on_next_token accepted with ⟨tokens, map, read, built, _, _, leads⟩
  have landed := leads.breakpoints [4, 2, 9, 2]
  rw [inside] at landed
  exact ⟨accepted, tokens, map, read, built, leads, landed⟩

end ScriptWorkbench
