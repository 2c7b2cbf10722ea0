import ScriptWorkbench.Proofs.Diagnostics

/-!
# Sources below each other

Lines that are put in front of a source move its words down, with any error at
one of them, but change nothing else. So a source with another one below it has
the code of both in a row, and the lines of the lower one start behind the code of
the upper one.
-/

namespace ScriptWorkbench

/-! ## Moving words and errors down -/

/-- The same word, some lines further down. -/
def PlacedWord.moveDown (lines : Nat) (word : PlacedWord) : PlacedWord :=
  { word with line := word.line + lines }

def Token.moveDown (lines : Nat) (token : Token) : Token :=
  { token with line := token.line + lines }

def Location.moveDown (lines : Nat) (location : Location) : Location :=
  { location with line := location.line + lines }

def CodecError.moveDown (lines : Nat) (error : CodecError) : CodecError :=
  { error with location := error.location.map (Location.moveDown lines) }

theorem PlacedWord.toToken_moveDown (table : OpcodeTable) (filename : String) (lines : Nat)
    (word : PlacedWord) :
    (word.moveDown lines).toToken table filename =
      ((word.toToken table filename).map (Token.moveDown lines)).mapError
        (CodecError.moveDown lines) := by
  cases classified : classify table word.text with
  | ok meaning => simp [toToken, moveDown, classified, Except.map, Except.mapError, Token.moveDown]
  | error fault =>
      simp [toToken, moveDown, classified, Except.map, Except.mapError, CodecError.moveDown,
        Location.moveDown]

theorem PlacedWord.toEncodable_moveDown (table : OpcodeTable) (filename : String) (lines : Nat)
    (word : PlacedWord) :
    (word.moveDown lines).toEncodable table filename =
      ((word.toEncodable table filename).map (Token.moveDown lines)).mapError
        (CodecError.moveDown lines) := by
  rw [toEncodable, toEncodable, toToken_moveDown]
  cases word.toToken table filename with
  | error error => rfl
  | ok token =>
      change (token.moveDown lines).encodable =
        (token.encodable.map (Token.moveDown lines)).mapError (CodecError.moveDown lines)
      cases checked : token.meaning.encodable <;>
        simp [Token.encodable, Token.moveDown, checked, Except.map, Except.mapError,
          CodecError.moveDown]

theorem encode_moveDown (lines : Nat) (tokens : List Token) :
    (tokens.map (Token.moveDown lines)).flatMap Token.encode = tokens.flatMap Token.encode := by
  rw [List.flatMap_map]
  rfl

/-! ## Lines below other lines -/

namespace Text

theorem sourceLines_append (upper lower : String) :
    sourceLines (upper ++ "\n" ++ lower) = sourceLines upper ++ sourceLines lower := by
  have characters : (upper ++ "\n" ++ lower).toList = upper.toList ++ '\n' :: lower.toList := by
    simp [String.toList_append]
  rw [sourceLines, characters, List.splitOn_append_cons_self, sourceLines, sourceLines]

theorem length_sourceLines (source : String) :
    (sourceLines source).length = 1 + source.toList.count '\n' := by
  rw [sourceLines]
  induction source.toList with
  | nil => rfl
  | cons character rest induction =>
      rw [List.splitOn_cons_eq_if_modifyHead]
      split
      · next lineFeed =>
          rw [List.length_cons, induction, List.count_cons, if_pos lineFeed, Nat.add_assoc]
      · next noLineFeed =>
          rw [List.length_modifyHead, induction, List.count_cons, if_neg noLineFeed, Nat.add_zero]

end Text

theorem PlacedWord.ofLine_add (lineText : List Char) (line lines : Nat) :
    ofLine lineText (line + lines) = (ofLine lineText line).map (moveDown lines) := by
  rw [ofLine, ofLine, List.map_map]
  rfl

theorem PlacedWord.byLine_append (upper lower : String) :
    byLine (upper ++ "\n" ++ lower) =
      byLine upper ++
        (byLine lower).map (List.map (moveDown (Text.sourceLines upper).length)) := by
  have numbered : (Text.sourceLines lower).zipIdx (1 + (Text.sourceLines upper).length) =
      ((Text.sourceLines lower).zipIdx 1).map
        (Prod.map id (· + (Text.sourceLines upper).length)) := by
    rw [Nat.add_comm, List.map_snd_add_zipIdx_eq_zipIdx]
  rw [byLine, Text.sourceLines_append, List.zipIdx_append, List.map_append, numbered, List.map_map,
    byLine, byLine, List.map_map]
  congr 1
  apply List.map_congr_left
  intro entry _
  exact ofLine_add entry.1 entry.2 _

variable {table : OpcodeTable} {filename upper lower : String}

/-- What is read of a source is read of it below another one too, further down. -/
theorem linesOfSource_append (table : OpcodeTable) (filename upper lower : String) :
    Token.linesOfSource table filename (upper ++ "\n" ++ lower) = do
      let lines ← Token.linesOfSource table filename upper
      let others ← ((Token.linesOfSource table filename lower).map
        (List.map (List.map (Token.moveDown (Text.sourceLines upper).length)))).mapError
          (CodecError.moveDown (Text.sourceLines upper).length)
      return lines ++ others := by
  have moved (words : List PlacedWord) := mapM_map_eq
    (PlacedWord.toToken_moveDown table filename (Text.sourceLines upper).length) words
  rw [Token.linesOfSource, PlacedWord.byLine_append, List.mapM_append, mapM_map_eq moved]
  rfl

theorem encodableOfSource_append (table : OpcodeTable) (filename upper lower : String) :
    Token.encodableOfSource table filename (upper ++ "\n" ++ lower) = do
      let tokens ← Token.encodableOfSource table filename upper
      let others ← ((Token.encodableOfSource table filename lower).map
        (List.map (Token.moveDown (Text.sourceLines upper).length))).mapError
          (CodecError.moveDown (Text.sourceLines upper).length)
      return tokens ++ others := by
  have moved := mapM_map_eq (PlacedWord.toEncodable_moveDown table filename
    (Text.sourceLines upper).length)
  rw [Token.encodableOfSource, PlacedWord.byLine_append, List.flatten_append, List.mapM_append,
    ← List.map_flatten, moved]
  rfl

theorem assembleWith_append (table : OpcodeTable) (filename upper lower : String) :
    assembleWith table filename (upper ++ "\n" ++ lower) = do
      let code ← assembleWith table filename upper
      let more ← (assembleWith table filename lower).mapError
        (CodecError.moveDown (Text.sourceLines upper).length)
      return code ++ more := by
  rw [assembleWith, assembleWith, assembleWith, encodableOfSource_append]
  cases Token.encodableOfSource table filename upper with
  | error error => rfl
  | ok tokens =>
      cases Token.encodableOfSource table filename lower with
      | error error => rfl
      | ok others =>
          have code : (tokens ++ others.map (Token.moveDown
              (Text.sourceLines upper).length)).flatMap Token.encode =
                tokens.flatMap Token.encode ++ others.flatMap Token.encode := by
            rw [List.flatMap_append, encode_moveDown]
          exact congrArg Except.ok code

/-! ## Line tables below each other -/

theorem encodedSize_moveDown (lines : Nat) (tokens : List Token) :
    encodedSize (tokens.map (Token.moveDown lines)) = encodedSize tokens := by
  rw [← length_flatMap_encode, encode_moveDown, length_flatMap_encode]

/-- Lines behind others start as much later as the code of these is long. -/
theorem OffsetMap.lineTable_append (lines others : List (List Token)) (distance : Nat) :
    (ofLines (lines ++ others.map (List.map (Token.moveDown distance)))).lineTable =
      (ofLines lines).lineTable ++
        (ofLines others).lineTable.map (· + (encodedSize lines.flatten : Int)) := by
  have sizes : (others.map (List.map (Token.moveDown distance))).map encodedSize =
      others.map encodedSize := by
    rw [List.map_map]
    exact List.map_congr_left fun tokens _ => encodedSize_moveDown distance tokens
  simp only [ofLines_eq, List.map_append, sizes, pieceStarts_append, pieceStarts_add,
    encodedSize_flatten, List.map_map]
  rfl

/-- Lines that can be encoded can be encoded below others too. -/
theorem encodableLines_append {lines others : List (List Token)}
    (encodable : Token.encodableLines table filename upper = .ok lines)
    (encodableBelow : Token.encodableLines table filename lower = .ok others) :
    Token.encodableLines table filename (upper ++ "\n" ++ lower) =
      .ok (lines ++ others.map (List.map (Token.moveDown (Text.sourceLines upper).length))) := by
  rcases Token.encodableLines_eq_ok_iff.mp encodable with ⟨read, fits⟩
  rcases Token.encodableLines_eq_ok_iff.mp encodableBelow with ⟨readBelow, fitsBelow⟩
  refine Token.encodableLines_eq_ok_iff.mpr ⟨?_, ?_⟩
  · rw [linesOfSource_append, read, readBelow]
    rfl
  · rw [List.flatten_append, List.forall_mem_append, ← List.map_flatten, List.forall_mem_map]
    exact ⟨fits, fitsBelow⟩

theorem exists_ofSource_append {code : Bytes}
    (accepted : assembleWith .standard filename upper = .ok code) {more : Bytes}
    (acceptedBelow : assembleWith .standard filename lower = .ok more) :
    ∃ map mapBelow whole, OffsetMap.ofSource filename upper = .ok map ∧
      OffsetMap.ofSource filename lower = .ok mapBelow ∧
      OffsetMap.ofSource filename (upper ++ "\n" ++ lower) = .ok whole ∧
      whole.lineTable = map.lineTable ++ mapBelow.lineTable.map (· + (code.length : Int)) := by
  rcases assembleWith_eq_ok_iff_encodableLines.mp accepted with ⟨lines, encodable, rfl⟩
  rcases assembleWith_eq_ok_iff_encodableLines.mp acceptedBelow with
    ⟨others, encodableBelow, rfl⟩
  have encodableWhole := encodableLines_append encodable encodableBelow
  refine ⟨_, _, _, map_eq_ok_iff.mpr ⟨lines, encodable, rfl⟩,
    map_eq_ok_iff.mpr ⟨others, encodableBelow, rfl⟩,
    map_eq_ok_iff.mpr ⟨_, encodableWhole, rfl⟩, ?_⟩
  rw [OffsetMap.lineTable_append, length_flatMap_encode]

/-! ## The three outcomes -/

theorem exists_location_of_refused {source : String} {error : CodecError}
    (refused : assembleWith table filename source = .error error)
    (isCodec : ∀ length, error.fault ≠ .pushLength length) :
    ∃ line column : Nat, error.location = some { filename, line, column } := by
  rcases exists_standsIn_of_refused refused isCodec with ⟨_, word, _, _, _, _, _, _, _, rfl⟩
  exact ⟨word.line, word.column, rfl⟩

/-- A payload that is too long is found behind the reading of its word, and its place is
not told. -/
theorem location_of_pushLength {source : String} {error : CodecError} {length : PushLengthError}
    (refused : assembleWith table filename source = .error error)
    (isLength : error.fault = .pushLength length) : error.location = none := by
  rw [assembleWith, map_eq_error_iff, Token.encodableOfSource, mapM_eq_error_iff] at refused
  rcases refused with ⟨_, word, _, _, _, stopped⟩
  rw [PlacedWord.toEncodable, bind_eq_error_iff] at stopped
  rcases stopped with noToken | ⟨token, _, unencodable⟩
  · rcases PlacedWord.toToken_eq_error_iff.mp noToken with ⟨fault, noMeaning, rfl⟩
    have about := word?_of_classify noMeaning
    cases isLength
    cases about
  · rcases Token.encodable_eq_error_iff.mp unencodable with ⟨payload, _, _, rfl⟩
    rfl

/-- A source below another one adds its code to the code of that one. The error of the
upper source is the error of both. The error of the lower one is moved down by the
lines of the upper one, of which there is one more than line feeds. Only a payload that
is too long has no place that could move. -/
theorem assembles_below (table : OpcodeTable) (filename upper lower : String) :
    (∀ code more, assembleWith table filename upper = .ok code →
      assembleWith table filename lower = .ok more →
      assembleWith table filename (upper ++ "\n" ++ lower) = .ok (code ++ more)) ∧
    (∀ error, assembleWith table filename upper = .error error →
      assembleWith table filename (upper ++ "\n" ++ lower) = .error error) ∧
    (∀ code error, assembleWith table filename upper = .ok code →
      assembleWith table filename lower = .error error →
      (∀ length, error.fault ≠ .pushLength length) →
      ∃ line column : Nat, error.location = some { filename, line, column } ∧
        assembleWith table filename (upper ++ "\n" ++ lower) =
          .error { error with
            location := some {
              filename
              line := line + (1 + upper.toList.count '\n' : Nat)
              column } }) ∧
    (∀ code error length, assembleWith table filename upper = .ok code →
      assembleWith table filename lower = .error error → error.fault = .pushLength length →
      assembleWith table filename (upper ++ "\n" ++ lower) = .error error) ∧
    ∀ code more, assembleWith .standard filename upper = .ok code →
      assembleWith .standard filename lower = .ok more →
      ∃ map mapBelow whole, OffsetMap.ofSource filename upper = .ok map ∧
        OffsetMap.ofSource filename lower = .ok mapBelow ∧
        OffsetMap.ofSource filename (upper ++ "\n" ++ lower) = .ok whole ∧
        whole.lineTable =
          map.lineTable ++ mapBelow.lineTable.map (· + (code.length : Int)) := by
  have both := assembleWith_append table filename upper lower
  refine ⟨?_, ?_, ?_, ?_, ?_⟩
  · intro code more accepted acceptedBelow
    rw [both, accepted, acceptedBelow]
    rfl
  · intro error refused
    rw [both, refused]
    rfl
  · intro code error accepted refusedBelow isCodec
    rcases exists_location_of_refused refusedBelow isCodec with ⟨line, column, location⟩
    refine ⟨line, column, location, ?_⟩
    rw [both, accepted, refusedBelow, ← Text.length_sourceLines]
    change Except.error (error.moveDown _) = _
    rw [CodecError.moveDown, location]
    rfl
  · intro code error length accepted refusedBelow isLength
    have noPlace := location_of_pushLength refusedBelow isLength
    rw [both, accepted, refusedBelow]
    change Except.error (error.moveDown _) = _
    rw [CodecError.moveDown, noPlace, Option.map_none, ← noPlace]
  · intro code more accepted acceptedBelow
    exact exists_ofSource_append accepted acceptedBelow

/-- Below two lines, the second of them empty, a line that assembles and one that does
not. -/
theorem assembles_below_of_empty_line :
    let upper := "OP_DUP <0011>\n"
    let error : CodecError :=
      { fault := .oddLengthHex "abc",
        location := some { filename := "<asm>", line := 2, column := 4 },
        sourceLine := some "16 abc" }
    let moved : CodecError :=
      { fault := .oddLengthHex "abc",
        location := some { filename := "<asm>", line := 4, column := 4 },
        sourceLine := some "16 abc" }
    assembleWith .standard "<asm>" upper = .ok [0x76, 0x02, 0x00, 0x11] ∧
      assembleWith .standard "<asm>" "16" = .ok [0x60] ∧
      assembleWith .standard "<asm>" "\n16 abc" = .error error ∧
      assembleWith .standard "<asm>" (upper ++ "\n" ++ "16") =
        .ok [0x76, 0x02, 0x00, 0x11, 0x60] ∧
      assembleWith .standard "<asm>" (upper ++ "\n" ++ "\n16 abc") = .error moved ∧
      assembleWith .standard "<asm>" ("\n16 abc" ++ "\n" ++ upper) = .error error ∧
      ∃ whole, OffsetMap.ofSource "<asm>" (upper ++ "\n" ++ "16") = .ok whole := by
  intro upper error moved
  have place : ((2 : Nat) : Int) + (1 + upper.toList.count '\n' : Nat) = 4 := by decide +revert
  have accepted : assembleWith .standard "<asm>" upper = .ok [0x76, 0x02, 0x00, 0x11] := by
    decide +revert
  have acceptedBelow : assembleWith .standard "<asm>" "16" = .ok [0x60] := by decide
  have refused : assembleWith .standard "<asm>" "\n16 abc" = .error error := by decide +revert
  have isCodec : ∀ length, error.fault ≠ .pushLength length := by
    intro length
    exact CodecFault.noConfusion
  have laws := assembles_below .standard "<asm>" upper
  rcases (laws "\n16 abc").2.2.1 _ _ accepted refused isCodec with
    ⟨line, column, location, below⟩
  rcases (laws "16").2.2.2.2 _ _ accepted acceptedBelow with ⟨_, _, whole, _, _, built, _⟩
  cases location
  rw [place] at below
  exact ⟨accepted, acceptedBelow, refused, (laws "16").1 _ _ accepted acceptedBelow, below,
    (assembles_below .standard "<asm>" "\n16 abc" upper).2.1 error refused, whole, built⟩

end ScriptWorkbench
