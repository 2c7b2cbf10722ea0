import ScriptWorkbench.Proofs.Sources
import ScriptWorkbench.Proofs.WordGrammar
import ScriptWorkbench.Proofs.WordRuns

/-!
# What the assembler accepts

The words that the assembler accepts, described by their spelling alone, with
the code of each one. Any other word is refused, and what it resembles decides
what it is reported as.
-/

namespace ScriptWorkbench

/-! ## The grammar of script text -/

/-- A word that the assembler knows. -/
inductive InGrammar (table : OpcodeTable) : List Char → Prop
  | data {digits : List Char} (nonempty : digits ≠ []) (even : digits.length % 2 = 0)
      (isDigit : ∀ character ∈ digits, Hex.isDigit character = true) :
      InGrammar table ('<' :: (digits ++ ['>']))
  | minusOne : InGrammar table "-1".toList
  | number {number : Nat} (small : number ≤ 16) : InGrammar table (toString number).toList
  | mnemonic {word : List Char} (spelled : isMnemonic word = true)
      (declared : String.ofList word ∈ table.names) : InGrammar table word
  | bareHex {word : List Char} (noNumber : ∀ number ≤ 16, word ≠ (toString number).toList)
      (even : word.length % 2 = 0)
      (isDigit : ∀ character ∈ word, Hex.isDigit character = true) : InGrammar table word

/-- The code of a word. Whether a push can hold the payload is not asked. -/
inductive Encodes (table : OpcodeTable) : List Char → Bytes → Prop
  | data {digits : List Char} {payload : Bytes} (nonempty : digits ≠ [])
      (spells : Hex.Spells digits payload) :
      Encodes table ('<' :: (digits ++ ['>'])) (encodePush payload)
  | minusOne : Encodes table "-1".toList [0x4F]
  | zero : Encodes table "0".toList [0x00]
  | number {number : Nat} (positive : 1 ≤ number) (small : number ≤ 16) :
      Encodes table (toString number).toList [0x50 + UInt8.ofNat number]
  | mnemonic {word : List Char} {byte : UInt8} (spelled : isMnemonic word = true)
      (declared : (String.ofList word, byte) ∈ table.declarations) : Encodes table word [byte]
  | bareHex {word : List Char} {payload : Bytes}
      (noNumber : ∀ number ≤ 16, word ≠ (toString number).toList)
      (spells : Hex.Spells word payload) : Encodes table word (encodePush payload)

/-- Whether a word of two characters or more stands between angle brackets. -/
def InBrackets (word : List Char) : Prop :=
  2 ≤ word.length ∧ word.head? = some '<' ∧ word.getLast? = some '>'

instance (word : List Char) : Decidable (InBrackets word) :=
  inferInstanceAs (Decidable (_ ∧ _ ∧ _))

/-- What a word outside the grammar is reported as. -/
def faultOutside (table : OpcodeTable) (word : List Char) : CodecFault :=
  let text := String.ofList word
  if InBrackets word then .invalidHexData text
  else if isMnemonic word then table.unknownOpcode text
  else if word.all Hex.isDigit then .oddLengthHex text
  else .unrecognizedWord text

/-- Whether digits, with or without brackets around them, write the bytes. -/
inductive Holds : List Char → Bytes → Prop
  | bracketed {digits : List Char} {payload : Bytes} (spells : Hex.Spells digits payload) :
      Holds ('<' :: (digits ++ ['>'])) payload
  | bare {digits : List Char} {payload : Bytes} (spells : Hex.Spells digits payload) :
      Holds digits payload

/-- Whether a push can hold the bytes of a word, if the word is data. -/
def PayloadFits (word : List Char) : Prop :=
  ∀ payload, Holds word payload → payload.length ≤ PushForm.greatestLength

theorem payloadFits_of_length_le {word : List Char}
    (short : word.length ≤ PushForm.greatestLength) : PayloadFits word := by
  intro payload holds
  cases holds with
  | bracketed spells =>
      have length := spells.length_eq
      rw [List.length_cons, List.length_append] at short
      omega
  | bare spells =>
      have length := spells.length_eq
      omega

/-- A source that is not longer than a payload can be holds no payload that is. -/
theorem payloadFits_of_mem_words (source : String)
    (short : source.toList.length ≤ PushForm.greatestLength) :
    ∀ word ∈ Text.words source.toList, PayloadFits word := by
  intro word member
  rcases Text.mem_words_iff.mp member with ⟨before, after, split, _⟩
  rw [split, List.length_append, List.length_append] at short
  exact payloadFits_of_length_le (by omega)

variable {table : OpcodeTable} {word : List Char}

/-! ## Small integers -/

namespace SmallInteger

/-- The numerals are those of -1, 0 and the numbers up to 16. -/
theorem numerals_cases : ∀ entry ∈ numerals, entry = ("-1", 0x4F) ∨ entry = ("0", 0x00) ∨
    ∃ number ∈ List.range' 1 16, entry = (toString number, 0x50 + UInt8.ofNat number) := by
  decide

theorem opcode?_number {number : Nat} (positive : 1 ≤ number) (small : number ≤ 16) :
    opcode? (toString number) = some (0x50 + UInt8.ofNat number) := by
  rw [opcode?_toString positive small, oneOpcode]
  cases number with
  | zero => cases positive
  | succ number =>
      rw [Nat.add_sub_cancel, UInt8.ofNat_add, UInt8.add_comm (UInt8.ofNat number),
        ← UInt8.add_assoc]
      rfl

theorem isSome_opcode?_number {number : Nat} (small : number ≤ 16) :
    (opcode? (toString number)).isSome = true := by
  rcases Nat.eq_zero_or_pos number with rfl | positive
  · rfl
  · rw [opcode?_number positive small]
    rfl

theorem opcode?_cases {text : String} {opcode : UInt8} (found : opcode? text = some opcode) :
    (text = "-1" ∧ opcode = 0x4F) ∨ (text = "0" ∧ opcode = 0x00) ∨
      ∃ number, 1 ≤ number ∧ number ≤ 16 ∧ text = toString number ∧
        opcode = 0x50 + UInt8.ofNat number := by
  have numeral := numerals_cases _ (mem_numerals_of_opcode? found)
  simp only [Prod.mk.injEq] at numeral
  rcases numeral with minusOne | zero | ⟨number, member, same⟩
  · exact .inl minusOne
  · exact .inr (.inl zero)
  · have bounds := List.mem_range'_1.mp member
    exact .inr (.inr ⟨number, bounds.1, by omega, same⟩)

/-- Hex digits are no numeral if they are not one of the numbers up to 16. -/
theorem opcode?_eq_none_iff_of_isDigit
    (digits : ∀ character ∈ word, Hex.isDigit character = true) :
    opcode? (String.ofList word) = none ↔ ∀ number ≤ 16, word ≠ (toString number).toList := by
  constructor
  · intro none number small same
    have some := isSome_opcode?_number small
    rw [same, String.ofList_toList] at none
    rw [none] at some
    cases some
  · intro noNumber
    cases found : opcode? (String.ofList word) with
    | none => rfl
    | some opcode =>
        rcases opcode?_cases found with ⟨same, _⟩ | ⟨same, _⟩ | ⟨number, _, small, same, _⟩
        · rw [← String.toList_ofList (l := word), same] at digits
          exact absurd (digits '-' (by decide)) (by decide)
        · rw [← String.toList_ofList (l := word), same] at noNumber
          exact absurd rfl (noNumber 0 (Nat.zero_le _))
        · rw [← String.toList_ofList (l := word), same] at noNumber
          exact absurd rfl (noNumber number small)

end SmallInteger

/-! ## Words of the grammar -/

/-- The words of the grammar are those that have a code. -/
theorem exists_encodes_iff : (∃ code, Encodes table word code) ↔ InGrammar table word := by
  constructor
  · intro encodes
    rcases encodes with ⟨code, encodes⟩
    cases encodes with
    | data nonempty spells =>
        rcases Hex.exists_spells_iff.mp ⟨_, spells⟩ with ⟨even, isDigit⟩
        exact .data nonempty even isDigit
    | minusOne => exact .minusOne
    | zero => exact @InGrammar.number table 0 (Nat.zero_le _)
    | number _ small => exact .number small
    | mnemonic spelled declared => exact .mnemonic spelled (List.mem_map.mpr ⟨_, declared, rfl⟩)
    | bareHex noNumber spells =>
        rcases Hex.exists_spells_iff.mp ⟨_, spells⟩ with ⟨even, isDigit⟩
        exact .bareHex noNumber even isDigit
  · intro inGrammar
    cases inGrammar with
    | data nonempty even isDigit =>
        rcases Hex.exists_spells_iff.mpr ⟨even, isDigit⟩ with ⟨payload, spells⟩
        exact ⟨_, .data nonempty spells⟩
    | minusOne => exact ⟨_, .minusOne⟩
    | @number number small =>
        rcases Nat.eq_zero_or_pos number with rfl | positive
        · exact ⟨_, .zero⟩
        · exact ⟨_, .number positive small⟩
    | mnemonic spelled declared =>
        rcases List.mem_map.mp declared with ⟨⟨name, byte⟩, member, rfl⟩
        exact ⟨_, .mnemonic spelled member⟩
    | bareHex noNumber even isDigit =>
        rcases Hex.exists_spells_iff.mpr ⟨even, isDigit⟩ with ⟨payload, spells⟩
        exact ⟨_, .bareHex noNumber spells⟩

theorem Means.encodes {meaning : Meaning} (means : Means table word meaning) :
    Encodes table word meaning.encode := by
  cases means with
  | data read nonempty =>
      have spells := Hex.decode?_eq_some_iff.mp read
      exact .data (mt spells.eq_nil_iff.mp nonempty) spells
  | @smallInteger _ opcode numeral =>
      rw [← String.toList_ofList (l := word)]
      rcases SmallInteger.opcode?_cases numeral with
        ⟨same, rfl⟩ | ⟨same, rfl⟩ | ⟨number, positive, small, same, rfl⟩
      · rw [same]
        exact .minusOne
      · rw [same]
        exact .zero
      · rw [same]
        exact .number positive small
  | opcode mnemonic declared =>
      exact .mnemonic mnemonic (OpcodeTable.byteOf?_eq_some_iff.mp declared)
  | bareHex noNumeral digits read =>
      have isDigit := List.all_eq_true.mp digits
      exact .bareHex ((SmallInteger.opcode?_eq_none_iff_of_isDigit isDigit).mp noNumeral)
        (Hex.decode?_eq_some_iff.mp read)

theorem Encodes.exists_means {code : Bytes} (encodes : Encodes table word code) :
    ∃ meaning, Means table word meaning ∧ meaning.encode = code := by
  cases encodes with
  | @data digits payload nonempty spells =>
      have someBytes := mt spells.eq_nil_iff.mpr nonempty
      exact ⟨.data payload, .data (Hex.decode?_eq_some_iff.mpr spells) someBytes, rfl⟩
  | minusOne => exact ⟨.smallInteger 0x4F, .smallInteger rfl, rfl⟩
  | zero => exact ⟨.smallInteger 0x00, .smallInteger rfl, rfl⟩
  | @number number positive small =>
      have numeral := SmallInteger.opcode?_number positive small
      exact ⟨.smallInteger _, .smallInteger (by rw [String.ofList_toList, numeral]), rfl⟩
  | @mnemonic _ byte spelled declared =>
      exact ⟨.opcode byte, .opcode spelled (OpcodeTable.byteOf?_eq_some_iff.mpr declared), rfl⟩
  | @bareHex _ payload noNumber spells =>
      have isDigit := (Hex.exists_spells_iff.mp ⟨_, spells⟩).2
      exact ⟨.bareHex payload,
        .bareHex ((SmallInteger.opcode?_eq_none_iff_of_isDigit isDigit).mpr noNumber)
          (List.all_eq_true.mpr isDigit) (Hex.decode?_eq_some_iff.mpr spells), rfl⟩

theorem classifies_as_code_iff {code : Bytes} :
    (∃ meaning, classify table word = .ok meaning ∧ meaning.encode = code) ↔
      Encodes table word code := by
  simp only [classify_eq_ok_iff]
  constructor
  · intro means
    rcases means with ⟨meaning, means, rfl⟩
    exact means.encodes
  · intro encodes
    exact encodes.exists_means

theorem exists_classify_eq_ok_iff :
    (∃ meaning, classify table word = .ok meaning) ↔ InGrammar table word := by
  rw [← exists_encodes_iff]
  constructor
  · intro classified
    rcases classified with ⟨meaning, classified⟩
    exact ⟨_, classifies_as_code_iff.mp ⟨meaning, classified, rfl⟩⟩
  · intro encodes
    rcases encodes with ⟨code, encodes⟩
    rcases classifies_as_code_iff.mpr encodes with ⟨meaning, classified, _⟩
    exact ⟨meaning, classified⟩

/-- A push can hold what a word means if it can hold the bytes of the word. -/
theorem Means.fits {meaning : Meaning} (means : Means table word meaning)
    (fits : PayloadFits word) : meaning.Fits := by
  intro payload isPush
  cases means with
  | data read nonempty =>
      cases isPush
      exact fits payload (.bracketed (Hex.decode?_eq_some_iff.mp read))
  | smallInteger | opcode => cases isPush
  | bareHex noNumeral digits read =>
      cases isPush
      exact fits payload (.bare (Hex.decode?_eq_some_iff.mp read))

/-! ## Words outside the grammar -/

theorem inBrackets_iff : InBrackets word ↔ ∃ digits, bracketed? word = some digits := by
  simp only [bracketed?_eq_some_iff]
  constructor
  · intro brackets
    rcases brackets with ⟨long, first, last⟩
    cases word with
    | nil => cases first
    | cons character rest =>
        cases first
        rcases List.eq_nil_or_concat rest with rfl | ⟨inner, closing, rfl⟩
        · exact absurd long (by decide)
        · rw [List.concat_eq_append, ← List.cons_append, List.getLast?_concat] at last
          cases last
          exact ⟨inner, by rw [List.concat_eq_append]⟩
  · intro brackets
    rcases brackets with ⟨digits, rfl⟩
    refine ⟨?_, rfl, ?_⟩
    · rw [List.length_cons, List.length_append, List.length_singleton]
      omega
    · rw [← List.cons_append, List.getLast?_concat]

/-- The fault of a word tells what it resembles. -/
theorem fault_eq_faultOutside {fault : CodecFault}
    (refused : classify table word = .error fault) : fault = faultOutside table word := by
  have outside (noBrackets : bracketed? word = none) : ¬InBrackets word := by
    rw [inBrackets_iff, noBrackets]
    simp
  cases refused_of_classify refused with
  | @brackets digits brackets => rw [faultOutside, if_pos (inBrackets_iff.mpr ⟨digits, brackets⟩)]
  | mnemonic noBrackets mnemonic => rw [faultOutside, if_neg (outside noBrackets), if_pos mnemonic]
  | digits noBrackets _ noMnemonic digits =>
      simp [faultOutside, outside noBrackets, noMnemonic, digits]
  | other noBrackets _ noMnemonic noDigits =>
      simp [faultOutside, outside noBrackets, noMnemonic, noDigits]

theorem classify_eq_error_iff {fault : CodecFault} :
    classify table word = .error fault ↔
      ¬InGrammar table word ∧ fault = faultOutside table word := by
  rw [← exists_classify_eq_ok_iff]
  constructor
  · intro refused
    refine ⟨?_, fault_eq_faultOutside refused⟩
    rw [refused]
    simp
  · intro refused
    rcases refused with ⟨noMeaning, rfl⟩
    cases classified : classify table word with
    | ok meaning => exact absurd ⟨meaning, classified⟩ noMeaning
    | error fault => rw [fault_eq_faultOutside classified]

/-- With every payload in a push, a word is refused for being outside the grammar. -/
theorem encodableMeaning_eq_error_iff {fault : CodecFault} (fits : PayloadFits word) :
    encodableMeaning table word = .error fault ↔
      ¬InGrammar table word ∧ fault = faultOutside table word := by
  rw [← classify_eq_error_iff]
  cases classified : classify table word with
  | error other => simp [encodableMeaning, classified, Bind.bind, Except.bind]
  | ok meaning =>
      have encodable : encodableMeaning table word = .ok meaning :=
        encodableMeaning_eq_ok_iff.mpr ⟨classified, (means_of_classify classified).fits fits⟩
      simp [encodable]

/-! ## Sources -/

variable {filename source : String}

theorem assembleWith_eq_ok_iff_encodes {bytes : Bytes}
    (fits : ∀ word ∈ Text.words source.toList, PayloadFits word) :
    assembleWith table filename source = .ok bytes ↔
      ∃ codes, List.Forall₂ (Encodes table) (Text.words source.toList) codes ∧
        codes.flatten = bytes := by
  rw [assembleWith_eq_ok_iff]
  constructor
  · intro means
    rcases means with ⟨meanings, mean, _, rfl⟩
    refine ⟨meanings.map Meaning.encode, ?_, (List.flatMap_def ..).symm⟩
    rw [List.forall₂_map_right_iff]
    exact mean.imp fun word meaning classified => (classify_eq_ok_iff.mp classified).encodes
  · intro encodes
    rcases encodes with ⟨codes, encodes, rfl⟩
    generalize Text.words source.toList = words at fits encodes
    induction encodes with
    | nil => exact ⟨[], .nil, by simp, rfl⟩
    | @cons word code words codes encodes _ induction =>
        rcases List.forall_mem_cons.mp fits with ⟨wordFits, othersFit⟩
        rcases induction othersFit with ⟨meanings, mean, meaningsFit, same⟩
        rcases encodes.exists_means with ⟨meaning, means, rfl⟩
        refine ⟨meaning :: meanings, .cons (classify_of_means means) mean,
          List.forall_mem_cons.mpr ⟨means.fits wordFits, meaningsFit⟩, ?_⟩
        rw [List.flatMap_cons, same, List.flatten_cons]

/-- Whether a word is the first run of a source that is outside the grammar. -/
def FirstOutside (table : OpcodeTable) (source : String) (word : List Char) : Prop :=
  ∃ before after, source.toList = before ++ (word ++ after) ∧
    Text.RunBetween before word after ∧
    (∀ earlier ∈ Text.words before, InGrammar table earlier) ∧ ¬InGrammar table word

theorem FirstOutside.exists_run (first : FirstOutside table source word) :
    ∃ before after, source.toList = before ++ (word ++ after) ∧
      Text.RunBetween before word after ∧ ¬InGrammar table word := by
  rcases first with ⟨before, after, same, run, _, outside⟩
  exact ⟨before, after, same, run, outside⟩

/-- The first bad word of a source is its first run outside the grammar. -/
theorem FirstBad.firstOutside {fault : CodecFault}
    (fits : ∀ word ∈ Text.words source.toList, PayloadFits word)
    (bad : FirstBad table (Text.words source.toList) word fault) :
    FirstOutside table source word ∧ fault = faultOutside table word := by
  rcases bad with ⟨earlier, later, split, fine, refused⟩
  rw [split] at fits
  rcases Text.exists_runBetween split with ⟨before, after, same, run, rfl, _⟩
  have wordFits : PayloadFits word := fits word (by simp)
  rcases (encodableMeaning_eq_error_iff wordFits).mp refused with ⟨outside, isFault⟩
  refine ⟨⟨before, after, same, run, ?_, outside⟩, isFault⟩
  intro other member
  rcases fine other member with ⟨meaning, encodable⟩
  exact exists_classify_eq_ok_iff.mp ⟨meaning, (encodableMeaning_eq_ok_iff.mp encodable).1⟩

theorem exists_firstOutside {error : CodecError}
    (fits : ∀ word ∈ Text.words source.toList, PayloadFits word)
    (refused : assembleWith table filename source = .error error) :
    ∃ word, FirstOutside table source word ∧ error.fault = faultOutside table word := by
  rcases exists_assembleWith_eq_error_iff.mp ⟨error, refused, rfl⟩ with ⟨word, bad⟩
  exact ⟨word, bad.firstOutside fits⟩

/-- The assembler accepts a source if each run of characters that are not blank
is in the grammar, and writes the codes of these words in order. Otherwise it
reports the first run outside the grammar, as what the run resembles. -/
theorem assembles_words_of_grammar (table : OpcodeTable) (filename source : String)
    (fits : ∀ word ∈ Text.words source.toList, PayloadFits word) :
    ((∃ bytes, assembleWith table filename source = .ok bytes) ↔
      ∀ before word after, source.toList = before ++ (word ++ after) →
        Text.RunBetween before word after → InGrammar table word) ∧
    (∀ bytes, assembleWith table filename source = .ok bytes ↔
      ∃ codes, List.Forall₂ (Encodes table) (Text.words source.toList) codes ∧
        codes.flatten = bytes) ∧
    ∀ error, assembleWith table filename source = .error error →
      ∃ word, FirstOutside table source word ∧ error.fault = faultOutside table word := by
  refine ⟨⟨?_, ?_⟩, fun bytes => assembleWith_eq_ok_iff_encodes fits,
    fun error => exists_firstOutside fits⟩
  · intro accepted before word after same run
    rcases accepted with ⟨bytes, accepted⟩
    rcases (assembleWith_eq_ok_iff_encodes fits).mp accepted with ⟨codes, encodes, _⟩
    have member := Text.mem_words_iff.mpr ⟨before, after, same, run⟩
    exact exists_encodes_iff.mp (exists_forall₂_iff.mp ⟨codes, encodes⟩ word member)
  · intro inGrammar
    cases outcome : assembleWith table filename source with
    | ok bytes => exact ⟨bytes, rfl⟩
    | error error =>
        rcases exists_firstOutside fits outcome with ⟨word, first, _⟩
        rcases first.exists_run with ⟨before, after, same, run, outside⟩
        exact absurd (inGrammar before word after same run) outside

/-- A number, digits that are not one, data and a mnemonic are accepted. A word
with one bracket is refused. -/
theorem assembles_words_of_grammar_of_near_numbers :
    let accepted := "10 17\n<00FF> OP_DUP"
    let refused := "00 <00 -2"
    let error : CodecError :=
      { fault := .unrecognizedWord "<00",
        location := some { filename := "<asm>", line := 1, column := 4 },
        sourceLine := some refused }
    (∀ word ∈ Text.words accepted.toList, PayloadFits word) ∧
      (∀ word ∈ Text.words refused.toList, PayloadFits word) ∧
      (∃ codes, List.Forall₂ (Encodes .standard) (Text.words accepted.toList) codes ∧
        codes.flatten = [0x5A, 0x01, 0x17, 0x02, 0x00, 0xFF, 0x76]) ∧
      ∃ word, FirstOutside .standard refused word ∧
        error.fault = faultOutside .standard word := by
  intro accepted refused error
  have acceptedFits := payloadFits_of_mem_words accepted (by decide)
  have refusedFits := payloadFits_of_mem_words refused (by decide)
  have acceptedCode := (assembles_words_of_grammar .standard "<asm>" accepted acceptedFits).2.1
  have refusedFault := (assembles_words_of_grammar .standard "<asm>" refused refusedFits).2.2
  exact ⟨acceptedFits, refusedFits, (acceptedCode _).mp (by decide),
    refusedFault error (by decide)⟩

end ScriptWorkbench
