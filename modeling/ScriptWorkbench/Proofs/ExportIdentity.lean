import Mathlib.Tactic.TFAE
import ScriptWorkbench.Export
import ScriptWorkbench.Proofs.CanonicalForm
import ScriptWorkbench.Proofs.WordGrammar

/-!
# What exports tell apart

The list notation of bytecode is the same exactly if its canonical words are, and these
are the same exactly if they assemble to the same. The initializer notation is the same
for the same bytes only. Both notations put a comma and a space between their items, so
it takes items that are not empty and have no comma to tell them apart.
-/

namespace ScriptWorkbench

/-! ## Items between commas -/

/-- Whether a text can be an item of a notation. -/
def IsItem (text : List Char) : Prop := text ≠ [] ∧ ',' ∉ text

instance (text : List Char) : Decidable (IsItem text) :=
  inferInstanceAs (Decidable (text ≠ [] ∧ ',' ∉ text))

theorem intercalate_commas (item : List Char) (items : List (List Char)) :
    [',', ' '].intercalate (item :: items) =
      [','].intercalate (item :: items.map fun other => ' ' :: other) := by
  induction items generalizing item with
  | nil => rfl
  | cons next items induction =>
      have spaced : ∀ others : List (List Char), [','].intercalate ((' ' :: next) :: others) =
          ' ' :: [','].intercalate (next :: others) := by
        intro others
        cases others <;> simp
      rw [List.intercalate_cons_cons, induction, List.map_cons, List.intercalate_cons_cons, spaced]
      simp

/-- A comma splits the items, all of them but the first with the space in front. -/
theorem splitOn_intercalate_commas {item : List Char} {items : List (List Char)}
    (isItem : ∀ text ∈ item :: items, IsItem text) :
    ([',', ' '].intercalate (item :: items)).splitOn ',' =
      item :: items.map fun other => ' ' :: other := by
  rw [intercalate_commas]
  refine List.splitOn_intercalate ',' ?_ (List.cons_ne_nil _ _)
  rw [List.forall_mem_cons] at isItem ⊢
  refine ⟨isItem.1.2, ?_⟩
  rw [List.forall_mem_map]
  intro other member
  simpa using (isItem.2 other member).2

theorem eq_of_intercalate_commas_eq {left right : List (List Char)}
    (leftItems : ∀ text ∈ left, IsItem text) (rightItems : ∀ text ∈ right, IsItem text)
    (same : [',', ' '].intercalate left = [',', ' '].intercalate right) : left = right := by
  have noItems : ∀ {item : List Char} {items : List (List Char)}, IsItem item →
      [',', ' '].intercalate (item :: items) ≠ [] := by
    intro item items isItem
    cases items <;> simp [isItem.1]
  cases left with
  | nil =>
      cases right with
      | nil => rfl
      | cons item items =>
          exact absurd same.symm (noItems (rightItems item List.mem_cons_self))
  | cons item items =>
      cases right with
      | nil => exact absurd same (noItems (leftItems item List.mem_cons_self))
      | cons other others =>
          have pieces := congrArg (List.splitOn ',') same
          rw [splitOn_intercalate_commas leftItems, splitOn_intercalate_commas rightItems] at pieces
          rcases List.cons.inj pieces with ⟨rfl, spaced⟩
          have spaceInjective : Function.Injective fun text : List Char => ' ' :: text :=
            fun _ _ equal => (List.cons.inj equal).2
          rw [(List.map_injective_iff.mpr spaceInjective) spaced]

/-! ## The list notation -/

/-- Whether a word can be told from its item in the list notation. A word like a number
in `0x` form cannot. -/
structure IsListable (word : List Char) : Prop where
  isItem : IsItem word
  noNumber : ¬['0', 'x'] <+: word

instance (word : List Char) : Decidable (IsListable word) :=
  decidable_of_iff (IsItem word ∧ ¬['0', 'x'] <+: word)
    ⟨fun holds => ⟨holds.1, holds.2⟩, fun listable => ⟨listable.isItem, listable.noNumber⟩⟩

theorem toList_listItem_of_brackets {word : String} {digits : List Char}
    (brackets : bracketed? word.toList = some digits) :
    (listItem word).toList = '0' :: 'x' :: digits := by
  simp [listItem, brackets]

theorem listItem_of_noBrackets {word : String} (noBrackets : bracketed? word.toList = none) :
    listItem word = word := by
  simp [listItem, noBrackets]

/-- The word that an item of the list notation stands for. -/
def wordOfItem : List Char → List Char
  | '0' :: 'x' :: digits => '<' :: (digits ++ ['>'])
  | word => word

theorem wordOfItem_listItem {word : String} (listable : IsListable word.toList) :
    wordOfItem (listItem word).toList = word.toList := by
  cases brackets : bracketed? word.toList with
  | some digits =>
      rw [toList_listItem_of_brackets brackets, bracketed?_eq_some_iff.mp brackets]
      rfl
  | none =>
      rw [listItem_of_noBrackets brackets]
      unfold wordOfItem
      split
      · next digits spelled => exact absurd ⟨digits, spelled.symm⟩ listable.noNumber
      · rfl

theorem isItem_listItem {word : String} (listable : IsListable word.toList) :
    IsItem (listItem word).toList := by
  cases brackets : bracketed? word.toList with
  | some digits =>
      have noComma := listable.isItem.2
      rw [bracketed?_eq_some_iff.mp brackets, List.mem_cons, List.mem_append, not_or,
        not_or] at noComma
      rw [toList_listItem_of_brackets brackets]
      exact ⟨List.cons_ne_nil _ _, by simpa using noComma.2.1⟩
  | none =>
      rw [listItem_of_noBrackets brackets]
      exact listable.isItem

theorem toList_listLiteral (words : List String) :
    (listLiteral words).toList =
      '[' :: ([',', ' '].intercalate (words.map fun word => (listItem word).toList) ++ [']']) := by
  simp [listLiteral, Function.comp_def]

theorem map_wordOfItem_map_listItem {words : List String}
    (listable : ∀ word ∈ words, IsListable word.toList) :
    (words.map fun word => (listItem word).toList).map wordOfItem = words.map String.toList := by
  rw [List.map_map]
  exact List.map_congr_left fun word member => wordOfItem_listItem (listable word member)

theorem eq_of_listLiteral_eq {left right : List String}
    (leftListable : ∀ word ∈ left, IsListable word.toList)
    (rightListable : ∀ word ∈ right, IsListable word.toList)
    (same : listLiteral left = listLiteral right) : left = right := by
  have areItems : ∀ words : List String, (∀ word ∈ words, IsListable word.toList) →
      ∀ text ∈ words.map fun word => (listItem word).toList, IsItem text := by
    intro words listable
    rw [List.forall_mem_map]
    exact fun word member => isItem_listItem (listable word member)
  have characters := congrArg String.toList same
  rw [toList_listLiteral, toList_listLiteral, List.cons.injEq, List.append_left_inj] at characters
  have sameItems := eq_of_intercalate_commas_eq (areItems left leftListable)
    (areItems right rightListable) characters.2
  have sameWords := congrArg (List.map wordOfItem) sameItems
  rw [map_wordOfItem_map_listItem leftListable,
    map_wordOfItem_map_listItem rightListable] at sameWords
  exact (List.map_injective_iff.mpr fun _ _ => String.toList_inj.mp) sameWords

/-! ## Canonical words in a list -/

theorem isListable_of_isMnemonic {word : List Char} (mnemonic : isMnemonic word = true) :
    IsListable word := by
  rcases isMnemonic_eq_true_iff.mp mnemonic with ⟨rest, rfl, _, characters⟩
  have noComma : ',' ∉ rest := by
    intro member
    have codes := toNat_of_isMnemonicCharacter (characters ',' member)
    revert codes
    decide
  exact ⟨⟨List.cons_ne_nil _ _, by simpa using noComma⟩, by simp⟩

theorem comma_notMem_encode (bytes : Bytes) : ',' ∉ bytes.flatMap Hex.encodeByte := by
  intro member
  have digit := Hex.mem_lowerDigits_of_mem_encode member
  revert digit
  decide

theorem isListable_payloadToken (payload : Bytes) : IsListable (payloadToken payload).toList := by
  by_cases empty : payload = []
  · subst empty
    decide
  · have noComma := comma_notMem_encode payload
    have spelled : (payloadToken payload).toList =
        '<' :: (payload.flatMap Hex.encodeByte ++ ['>']) := by
      simp [payloadToken, empty]
    rw [spelled]
    exact ⟨⟨List.cons_ne_nil _ _, by simpa using noComma⟩, by simp⟩

theorem SmallInteger.isListable_of_numerals : ∀ entry ∈ numerals, IsListable entry.1.toList :=
  List.forall_iff_forall_mem.mp (by decide)

theorem Instruction.Readable.isListable_token {table : OpcodeTable} {offset : Nat}
    {instruction : Instruction} (spelled : table.IsSpelled)
    (readable : Readable table offset instruction) : IsListable instruction.token.toList := by
  rcases readable.token_cases spelled with ⟨payload, written⟩ | ⟨entry, member, written⟩ | mnemonic
  · rw [written]
    exact isListable_payloadToken payload
  · rw [written]
    exact SmallInteger.isListable_of_numerals entry member
  · exact isListable_of_isMnemonic mnemonic

/-- What bytecode that disassembles is shown as: its list notation, its canonical words,
and the bytecode that these assemble to. -/
structure IsShownAs (bytes : Bytes) (list : String) (words : List String) (code : Bytes) :
    Prop where
  list : listExport bytes = .ok list
  words : canonicalTokens bytes = .ok words
  code : ∃ source, canonicalSource bytes = .ok source ∧ assemble source = .ok code

theorem exists_isShownAs {bytes : Bytes} {instructions : List Instruction}
    (disassembled : disassemble bytes = .ok instructions) :
    ∃ list words code, IsShownAs bytes list words code := by
  have words : canonicalTokens bytes = .ok (instructions.map Instruction.token) :=
    map_eq_ok_iff.mpr ⟨instructions, disassembled, rfl⟩
  have canonical : canonicalSource bytes = .ok (Instruction.sourceOf instructions) :=
    canonicalSource_eq_ok_iff.mpr ⟨instructions, disassembled, rfl⟩
  exact ⟨_, _, _, {
    list := map_eq_ok_iff.mpr ⟨_, words, rfl⟩
    words
    code := ⟨_, canonical, assemble_of_canonicalSource canonical disassembled⟩ }⟩

namespace IsShownAs

variable {bytes other code otherCode : Bytes} {list otherList : String}
  {words otherWords : List String}

theorem list_eq (shown : IsShownAs bytes list words code) : list = listLiteral words := by
  have listed := shown.list
  rw [listExport, shown.words] at listed
  exact (Except.ok.inj listed).symm

theorem isListable (shown : IsShownAs bytes list words code) :
    ∀ word ∈ words, IsListable word.toList := by
  rcases map_eq_ok_iff.mp shown.words with ⟨instructions, disassembled, rfl⟩
  have readable := (disassembleWith_eq_ok_iff.mp disassembled).forall_readable
  rw [List.forall_mem_map]
  intro instruction member
  rcases readable instruction member with ⟨start, own⟩
  exact own.isListable_token OpcodeTable.standard_isSpelled

theorem canonicalTokens_code (shown : IsShownAs bytes list words code) :
    canonicalTokens code = .ok words := by
  rcases shown.code with ⟨source, canonical, accepted⟩
  rw [canonicalTokens_of_canonicalSource canonical accepted, shown.words]

theorem list_eq_iff (shown : IsShownAs bytes list words code)
    (otherShown : IsShownAs other otherList otherWords otherCode) :
    list = otherList ↔ words = otherWords := by
  rw [shown.list_eq, otherShown.list_eq]
  constructor
  · exact eq_of_listLiteral_eq shown.isListable otherShown.isListable
  · intro sameWords
    rw [sameWords]

theorem words_eq_iff (shown : IsShownAs bytes list words code)
    (otherShown : IsShownAs other otherList otherWords otherCode) :
    words = otherWords ↔ code = otherCode := by
  constructor
  · intro sameWords
    subst sameWords
    rcases shown.code with ⟨source, canonical, accepted⟩
    rcases otherShown.code with ⟨otherSource, otherCanonical, otherAccepted⟩
    rw [canonicalSource, shown.words] at canonical
    rw [canonicalSource, otherShown.words, canonical] at otherCanonical
    cases otherCanonical
    exact Except.ok.inj (accepted.symm.trans otherAccepted)
  · intro sameCode
    subst sameCode
    exact Except.ok.inj (shown.canonicalTokens_code.symm.trans otherShown.canonicalTokens_code)

end IsShownAs

/-! ## The initializer notation -/

/-- Two columns hold the digits of a byte, with a zero in front of a single one. -/
theorem toList_hexadecimal_toNat (byte : UInt8) :
    (Text.hexadecimal 2 byte.toNat).toList = Hex.encodeByte byte := by
  rcases Hex.div_lt_and_mod_lt byte with ⟨highSmall, lowSmall⟩
  rw [Text.hexadecimal, Text.padLeft, String.toList_ofList, String.toList_ofList, Hex.encodeByte]
  by_cases small : byte.toNat < 16
  · rw [Nat.toDigits_of_lt_base small, Nat.div_eq_of_lt small, Nat.mod_eq_of_lt small]
    rfl
  · rw [Nat.toDigits_of_base_le (by decide) (Nat.le_of_not_lt small),
      Nat.toDigits_of_lt_base highSmall]
    rfl

theorem Hex.encodeByte_injective : Function.Injective encodeByte := by
  intro byte other same
  have reads := congrArg decode? same
  rw [← List.append_nil (encodeByte byte), ← List.append_nil (encodeByte other),
    decode?_encodeByte_append, decode?_encodeByte_append] at reads
  exact (List.cons.inj (Option.some.inj reads)).1

/-- The item of a byte in the initializer notation. -/
def initializerItem (byte : UInt8) : List Char := '0' :: 'x' :: Hex.encodeByte byte

theorem initializerItem_injective : Function.Injective initializerItem := by
  intro byte other same
  exact Hex.encodeByte_injective (List.cons.inj (List.cons.inj same).2).2

theorem isItem_initializerItem (byte : UInt8) : IsItem (initializerItem byte) := by
  have noComma := comma_notMem_encode [byte]
  rw [List.flatMap_singleton] at noComma
  exact ⟨List.cons_ne_nil _ _, by simpa [initializerItem] using noComma⟩

theorem toList_initializerExport {bytes : Bytes} (nonempty : bytes ≠ []) :
    (initializerExport bytes).toList =
      '\x7b' :: ([',', ' '].intercalate (bytes.map initializerItem) ++ ['\x7d']) := by
  unfold initializerExport
  split
  · next empty => exact absurd rfl nonempty
  · have items : String.toList ∘ (fun byte : UInt8 => "0x" ++ Text.hexadecimal 2 byte.toNat) =
        initializerItem := by
      funext byte
      simp [initializerItem, toList_hexadecimal_toNat]
    simp only [String.toList_append, String.toList_intercalate, List.map_map, items]
    rfl

theorem initializerExport_eq_empty_iff {bytes : Bytes} :
    initializerExport bytes = "" ↔ bytes = [] := by
  constructor
  · intro shownEmpty
    by_contra nonempty
    have characters := toList_initializerExport nonempty
    rw [shownEmpty] at characters
    cases characters
  · intro empty
    rw [empty]
    rfl

theorem initializerExport_injective : Function.Injective initializerExport := by
  intro first second same
  by_cases empty : first = []
  · rw [initializerExport_eq_empty_iff.mpr empty, eq_comm, initializerExport_eq_empty_iff] at same
    rw [empty, same]
  · have otherNonempty : second ≠ [] := by
      rwa [ne_eq, ← initializerExport_eq_empty_iff, ← same, initializerExport_eq_empty_iff]
    have characters := congrArg String.toList same
    rw [toList_initializerExport empty, toList_initializerExport otherNonempty, List.cons.injEq,
      List.append_left_inj] at characters
    have areItems : ∀ bytes : Bytes, ∀ text ∈ bytes.map initializerItem, IsItem text := by
      intro bytes
      rw [List.forall_mem_map]
      exact fun byte _ => isItem_initializerItem byte
    have items := eq_of_intercalate_commas_eq (areItems first) (areItems second) characters.2
    exact (List.map_injective_iff.mpr initializerItem_injective) items

/-! ## Identity -/

/-- Bytecode that disassembles has a list notation, canonical words and bytecode that
these assemble to, and two programs agree in all three or in none. The initializer
notation tells any two byte strings apart. -/
theorem exports_identify_programs (first second : Bytes) :
    (∀ {instructions others : List Instruction}, disassemble first = .ok instructions →
      disassemble second = .ok others →
      ∃ firstList firstWords firstCode secondList secondWords secondCode,
        IsShownAs first firstList firstWords firstCode ∧
        IsShownAs second secondList secondWords secondCode ∧
        [firstList = secondList, firstWords = secondWords, firstCode = secondCode].TFAE) ∧
    (initializerExport first = initializerExport second ↔ first = second) := by
  refine ⟨?_, initializerExport_injective.eq_iff⟩
  intro instructions others disassembled otherDisassembled
  rcases exists_isShownAs disassembled with ⟨firstList, firstWords, firstCode, shown⟩
  rcases exists_isShownAs otherDisassembled with
    ⟨secondList, secondWords, secondCode, otherShown⟩
  refine ⟨_, _, _, _, _, _, shown, otherShown, ?_⟩
  tfae_have 1 ↔ 2 := shown.list_eq_iff otherShown
  tfae_have 2 ↔ 3 := shown.words_eq_iff otherShown
  tfae_finish

/-- A push with a length field that it does not need, and the same push without one, are
one program in the list notation and two in the initializer notation. -/
theorem exports_identify_programs_of_wide_push :
    let wide : List Instruction := [.pushed .pushData1 0 0x4C [0x01] [0x07]]
    let short : List Instruction := [.pushed .inline 0 0x01 [] [0x07]]
    disassemble [0x4C, 0x01, 0x07] = .ok wide ∧ disassemble [0x01, 0x07] = .ok short ∧
      (∃ list words code otherCode, IsShownAs [0x4C, 0x01, 0x07] list words code ∧
        IsShownAs [0x01, 0x07] list words otherCode ∧ code = otherCode) ∧
      initializerExport [0x4C, 0x01, 0x07] ≠ initializerExport [0x01, 0x07] := by
  intro wide short
  have wideRead : disassemble [0x4C, 0x01, 0x07] = .ok wide := by rfl
  have shortRead : disassemble [0x01, 0x07] = .ok short := by rfl
  have sameWords : canonicalTokens [0x4C, 0x01, 0x07] = canonicalTokens [0x01, 0x07] := by rfl
  rcases exports_identify_programs [0x4C, 0x01, 0x07] [0x01, 0x07] with ⟨identify, bytes⟩
  rcases identify wideRead shortRead with
    ⟨list, words, code, otherList, otherWords, otherCode, shown, otherShown, equivalents⟩
  rw [shown.words, otherShown.words, Except.ok.injEq] at sameWords
  cases (equivalents.out 1 0).mp sameWords
  cases sameWords
  exact ⟨wideRead, shortRead,
    ⟨list, words, code, otherCode, shown, otherShown, (equivalents.out 1 2).mp rfl⟩,
    fun same => absurd (bytes.mp same) (by decide)⟩

end ScriptWorkbench
