import ScriptWorkbench.Command.Assembler
import ScriptWorkbench.Command.Disassembler
import ScriptWorkbench.Proofs.AcceptedWords
import ScriptWorkbench.Proofs.HexText
import ScriptWorkbench.Proofs.Refusals
import ScriptWorkbench.Proofs.SeenReports

/-!
# The assembler and the disassembler on the command line

Script text in canonical words is printed by two commands: by the assembler at once,
and by the disassembler from the hex that the assembler prints. The same is seen of
both, whether there is a result or not, and canonical words are printed again as they
stand.

The commands are taken up where their settings have been read. How settings are spelled
on the command line plays no part, and of the console no more than that it shows plain
ASCII text as it stands.
-/

namespace ScriptWorkbench

/-! ## Errors of script text -/

theorem faultOutside_ne_pushLength (table : OpcodeTable) (word : List Char)
    (length : PushLengthError) : faultOutside table word ≠ .pushLength length := by
  unfold faultOutside OpcodeTable.unknownOpcode
  dsimp only
  split_ifs <;> exact CodecFault.noConfusion

theorem fault_ne_pushLength_of_assembleWith {table : OpcodeTable} {filename source : String}
    {error : CodecError} (fits : ∀ word ∈ Text.words source.toList, PayloadFits word)
    (refused : assembleWith table filename source = .error error) (length : PushLengthError) :
    error.fault ≠ .pushLength length := by
  rcases exists_firstOutside fits refused with ⟨word, _, fault⟩
  rw [fault]
  exact faultOutside_ne_pushLength table word length

/-- Only a payload that is too long makes an error of another kind. -/
theorem Failure.ofCodecError_eq {error : CodecError}
    (isCodec : ∀ length, error.fault ≠ .pushLength length) : ofCodecError error = .codec error := by
  unfold ofCodecError
  split
  · rename_i length fault
    exact absurd fault (isCodec length)
  · rfl

/-! ## What the commands report -/

/-- The report on a text that is made, or cannot be. -/
def Report.ofText : Except CodecError String → Report
  | .ok text => { entries := [.output text] }
  | .error error => .ofFailure false [] "" (.codec error)

namespace AssemblerCommand

/-- The settings for script text that is given directly, in a notation. -/
def Settings.ofExpression (source : String) (format : OutputFormat) : Settings where
  origins := [.expression source]
  format
  destination := none
  verbose := false

variable {source : String} {bytes : Bytes}

theorem execute_ofExpression_of_error {error : CodecError}
    (fits : ∀ word ∈ Text.words source.toList, PayloadFits word)
    (refused : assembleWith .standard "<expr>" source = .error error)
    (invocation : Invocation) (format : OutputFormat) :
    execute invocation (.ofExpression source format) = .ofText (.error error) := by
  have isCodec := Failure.ofCodecError_eq (fault_ne_pushLength_of_assembleWith fits refused)
  have made : assembleTo format "<expr>" source = .error error := by
    rw [assembleTo, refused]
    rfl
  simp only [execute, Settings.ofExpression, assembleOrigin, readOrigin, made, isCodec]
  rfl

theorem execute_ofExpression_hex
    (assembled : assembleWith .standard "<expr>" source = .ok bytes) (invocation : Invocation) :
    execute invocation (.ofExpression source .hex) = .ofText (.ok (Hex.encode bytes)) := by
  have made : assembleTo .hex "<expr>" source = .ok (bytes, Hex.encode bytes) := by
    rw [assembleTo, assembled]
    rfl
  simp only [execute, Settings.ofExpression, assembleOrigin, readOrigin, made]
  rfl

theorem execute_ofExpression_canonical
    (assembled : assembleWith .standard "<expr>" source = .ok bytes) (invocation : Invocation) :
    execute invocation (.ofExpression source .canonical) = .ofText (canonicalSource bytes) := by
  have made : assembleTo .canonical "<expr>" source =
      (canonicalSource bytes).map fun text => (bytes, text) := by
    rw [assembleTo, assembled]
    rfl
  simp only [execute, Settings.ofExpression, assembleOrigin, readOrigin, made]
  cases disassembled : disassemble bytes with
  | error error =>
      have canonical := canonicalSource_eq_error_iff.mpr disassembled
      have isCodec :=
        Failure.ofCodecError_eq (fault_ne_pushLength_of_disassembleWith disassembled)
      simp only [canonical, Except.map, isCodec]
      rfl
  | ok instructions =>
      have canonical := canonicalSource_eq_ok_iff.mpr ⟨instructions, disassembled, rfl⟩
      simp only [canonical, Except.map]
      rfl

/-- Canonical words are reported again. -/
theorem execute_ofExpression_sourceOf {instructions : List Instruction}
    (disassembled : disassemble bytes = .ok instructions) (invocation : Invocation) :
    execute invocation (.ofExpression (Instruction.sourceOf instructions) .canonical) =
      .ofText (canonicalSource bytes) := by
  have canonical : canonicalSource bytes = .ok (Instruction.sourceOf instructions) :=
    canonicalSource_eq_ok_iff.mpr ⟨instructions, disassembled, rfl⟩
  have readable := (disassembleWith_eq_ok_iff.mp disassembled).forall_readable
  have assembled := Instruction.assembleWith_sourceOf OpcodeTable.standard_isSpelled readable
  have sameWords := canonicalTokens_of_canonicalSource canonical (assembled Token.sourceName)
  rw [execute_ofExpression_canonical (assembled "<expr>"), canonicalSource, sameWords,
    ← canonicalSource]

end AssemblerCommand

namespace DisassemblerCommand

/-- The settings for hex text that is given directly, with a word on each line. -/
def Settings.ofHex (hexText : String) : Settings where
  file := none
  hexText := some hexText
  binary := false
  style := .word
  destination := none
  verbose := false

theorem execute_ofHex_encode (invocation : Invocation) (bytes : Bytes) :
    execute invocation (.ofHex (Hex.encode bytes)) = .ofText (canonicalSource bytes) := by
  have read : readBytecode invocation (.ofHex (Hex.encode bytes)) = .ok ("<hex>", bytes) := by
    have parsed : parseHex (Hex.encode bytes) = .ok bytes := by
      unfold parseHex
      rw [Hex.parse_encode]
    change (parseHex (Hex.encode bytes) >>= fun bytes => pure ("<hex>", bytes)) = _
    rw [parsed]
    rfl
  have executed : execute invocation (.ofHex (Hex.encode bytes)) =
      disassembleInput invocation (.ofHex (Hex.encode bytes)) := by
    simp [execute, Settings.ofHex]
  rw [executed]
  simp only [disassembleInput, read, canonicalSource, canonicalTokens, disassemble,
    Instruction.bytecodeName]
  cases disassembleWith .standard "<hex>" bytes with
  | error error => rfl
  | ok instructions => rfl

end DisassemblerCommand

/-! ## What is seen -/

theorem Text.mem_of_mem_intercalate {character : Char} {between : List Char}
    {texts : List (List Char)} (member : character ∈ between.intercalate texts) :
    character ∈ between ∨ ∃ text ∈ texts, character ∈ text := by
  induction texts with
  | nil => cases member
  | cons text texts induction =>
      cases texts with
      | nil =>
          rw [List.intercalate_singleton] at member
          exact .inr ⟨text, List.mem_cons_self, member⟩
      | cons other others =>
          rw [List.intercalate_cons_cons, List.mem_append, List.mem_append] at member
          rcases member with (own | separates) | behind
          · exact .inr ⟨text, List.mem_cons_self, own⟩
          · exact .inl separates
          · rcases induction behind with separates | ⟨later, isLater, within⟩
            · exact .inl separates
            · exact .inr ⟨later, List.mem_cons_of_mem text isLater, within⟩

/-- Canonical script text is plain: words that can be seen, between line feeds. -/
theorem isPlainAscii_sourceOf {instructions : List Instruction} {bytes : Bytes}
    (disassembled : disassemble bytes = .ok instructions) :
    Text.IsPlainAscii (Instruction.sourceOf instructions).toList := by
  rw [Instruction.sourceOf, String.toList_intercalate, List.map_map]
  intro character member
  rcases Text.mem_of_mem_intercalate member with separates | ⟨word, member, within⟩
  · exact .inr (List.mem_singleton.mp separates)
  · rcases List.mem_map.mp member with ⟨instruction, listed, rfl⟩
    have readable := (disassembleWith_eq_ok_iff.mp disassembled).forall_readable
    rcases readable instruction listed with ⟨start, own⟩
    have visible := own.isVisible_token OpcodeTable.standard_isSpelled
    exact Text.isPlainAscii_of_isVisible visible character within

theorem Hex.isPlainAscii_encode (bytes : Bytes) : Text.IsPlainAscii (encode bytes).toList := by
  rw [toList_encode]
  intro character member
  have digit := mem_lowerDigits_of_mem_encode member
  exact Text.isPlainAscii_of_isVisible isVisible_lowerDigits character digit

namespace Report

variable {console : Console}

theorem seenOn_ofText_ok (ascii : console.ShowsAscii) {text : String}
    (isPlain : Text.IsPlainAscii text.toList) :
    (ofText (.ok text)).seenOn console = { entries := [.output text] } := by
  have shown := ascii text isPlain
  simp [ofText, seenOn, Console.show?, shown]

theorem seenOn_ofText_error (console : Console) (error : CodecError) :
    (ofText (.error error)).seenOn console =
      { exitCode := .codecError, entries := [.notice (console.error error.text)] } := by
  rfl

/-- The canonical text of bytecode is seen, or the fault of the bytecode. -/
theorem seenOn_ofText_canonicalSource (ascii : console.ShowsAscii) (bytes : Bytes) :
    let seen := (ofText (canonicalSource bytes)).seenOn console
    (∃ error, disassemble bytes = .error error ∧
      seen = { exitCode := .codecError, entries := [.notice (console.error error.text)] }) ∨
    ∃ instructions, disassemble bytes = .ok instructions ∧
      seen = { entries := [.output (Instruction.sourceOf instructions)] } := by
  intro seen
  cases disassembled : disassemble bytes with
  | error error =>
      have canonical := canonicalSource_eq_error_iff.mpr disassembled
      have same : seen = (ofText (.error error)).seenOn console := by rw [← canonical]
      exact .inl ⟨error, rfl, same.trans (seenOn_ofText_error console error)⟩
  | ok instructions =>
      have canonical := canonicalSource_eq_ok_iff.mpr ⟨instructions, disassembled, rfl⟩
      have same : seen = (ofText (.ok (Instruction.sourceOf instructions))).seenOn console := by
        rw [← canonical]
      exact .inr ⟨instructions, rfl,
        same.trans (seenOn_ofText_ok ascii (isPlainAscii_sourceOf disassembled))⟩

end Report

/-! ## Agreement -/

/-- In canonical words the assembler prints what the disassembler makes of the printed
hex: both give the one text, or both the one fault of a push that is cut short. Text
that does not assemble fails alike in both notations. Canonical words that are
assembled are printed again. Where the commands run has no say in it. -/
theorem assembler_and_disassembler_agree {console : Console} (ascii : console.ShowsAscii)
    (here there : Invocation) {source : String}
    (fits : ∀ word ∈ Text.words source.toList, PayloadFits word) :
    let inHex := (AssemblerCommand.execute here (.ofExpression source .hex)).seenOn console
    let inWords := (AssemblerCommand.execute here (.ofExpression source .canonical)).seenOn console
    (∃ error, assembleWith .standard "<expr>" source = .error error ∧
      inHex = { exitCode := .codecError, entries := [.notice (console.error error.text)] } ∧
      inWords = inHex) ∨
    ∃ bytes, assembleWith .standard "<expr>" source = .ok bytes ∧
      inHex = { entries := [.output (Hex.encode bytes)] } ∧
      (DisassemblerCommand.execute there (.ofHex (Hex.encode bytes))).seenOn console = inWords ∧
      ((∃ error, disassemble bytes = .error error ∧
          inWords =
            { exitCode := .codecError, entries := [.notice (console.error error.text)] }) ∨
        ∃ instructions, disassemble bytes = .ok instructions ∧
          inWords = { entries := [.output (Instruction.sourceOf instructions)] } ∧
          (AssemblerCommand.execute there
            (.ofExpression (Instruction.sourceOf instructions) .canonical)).seenOn console =
              inWords) := by
  intro inHex inWords
  cases assembled : assembleWith .standard "<expr>" source with
  | error error =>
      have refuses := AssemblerCommand.execute_ofExpression_of_error fits assembled here
      have seen := Report.seenOn_ofText_error console error
      refine .inl ⟨error, rfl, ?_, ?_⟩
      · rw [← seen, ← refuses .hex]
      · exact congrArg (Report.seenOn console) ((refuses .canonical).trans (refuses .hex).symm)
  | ok bytes =>
      have printsHex : inHex = { entries := [.output (Hex.encode bytes)] } := by
        rw [← Report.seenOn_ofText_ok ascii (Hex.isPlainAscii_encode bytes),
          ← AssemblerCommand.execute_ofExpression_hex assembled here]
      have printsWords : inWords = (Report.ofText (canonicalSource bytes)).seenOn console := by
        rw [← AssemblerCommand.execute_ofExpression_canonical assembled here]
      refine .inr ⟨bytes, rfl, printsHex, ?_, ?_⟩
      · rw [printsWords, DisassemblerCommand.execute_ofHex_encode]
      · rcases Report.seenOn_ofText_canonicalSource ascii bytes with
          ⟨error, refused, seen⟩ | ⟨instructions, disassembled, seen⟩
        · exact .inl ⟨error, refused, printsWords.trans seen⟩
        · refine .inr ⟨instructions, disassembled, printsWords.trans seen, ?_⟩
          rw [printsWords, AssemblerCommand.execute_ofExpression_sourceOf disassembled]

/-- Words that are not canonical, in a file. -/
theorem assembler_and_disassembler_agree_of_respelled_word :
    let source := "OP_FALSE 16"
    let invocation : Invocation := { arguments := [] }
    let inWords : Report := { entries := [.output "0\n16"] }
    Console.redirected.ShowsAscii ∧ (∀ word ∈ Text.words source.toList, PayloadFits word) ∧
      (DisassemblerCommand.execute invocation (.ofHex "0060")).seenOn .redirected = inWords ∧
      (AssemblerCommand.execute invocation (.ofExpression "0\n16" .canonical)).seenOn
        .redirected = inWords := by
  intro source invocation inWords
  have ascii := Console.showsAscii_ofTerminals false false
  have fits := payloadFits_of_mem_words source (by decide)
  have assembles : assembleWith .standard "<expr>" source = .ok [0x00, 0x60] := by decide +kernel
  refine ⟨ascii, fits, ?_⟩
  rcases assembler_and_disassembler_agree ascii invocation invocation fits with
    ⟨error, refused, _⟩ | ⟨bytes, assembled, _, agrees, outcome⟩
  · rw [assembles] at refused
    cases refused
  · rw [assembles] at assembled
    cases assembled
    rcases outcome with ⟨error, refused, _⟩ | ⟨instructions, disassembled, seen, again⟩
    · have disassembles : ∃ instructions, disassemble [0x00, 0x60] = .ok instructions := ⟨_, rfl⟩
      rcases disassembles with ⟨instructions, disassembled⟩
      rw [disassembled] at refused
      cases refused
    · cases disassembled
      exact ⟨agrees.trans seen, again.trans seen⟩

/-- A push without its length field assembles, but does not disassemble. -/
example :
    let invocation : Invocation := { arguments := [] }
    AssemblerCommand.execute invocation (.ofExpression "OP_PUSHDATA1" .hex) =
        { entries := [.output "4c"] } ∧
      (AssemblerCommand.execute invocation (.ofExpression "OP_PUSHDATA1" .canonical)).exitCode =
        .codecError := by
  decide +kernel

end ScriptWorkbench
