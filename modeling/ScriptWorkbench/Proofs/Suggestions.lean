import ScriptWorkbench.Proofs.CanonicalForm
import ScriptWorkbench.Proofs.EditDistance

/-!
# Suggested mnemonics

A word that is no mnemonic of a table is an error that suggests mnemonics of the table:
those that are the word in capitals, or about as long and at most two edits away from
it. So a slip of one character always has a suggestion.
-/

namespace ScriptWorkbench

/-! ## Capitals -/

theorem Text.upperCharacter_eq_self {character : Char} (code : character.toNat ≤ 0x60) :
    upperCharacter character = [character] := by
  have notSmall : ¬ 'a'.val ≤ character.val := by
    intro small
    have bound := UInt32.le_iff_toNat_le.mp small
    exact absurd (Nat.le_trans bound code) (by decide)
  have upper : character.toUpper = character := dif_neg fun small => notSmall small.1
  rw [upperCharacter, if_pos (Nat.lt_of_le_of_lt code (by decide)), upper]

theorem Text.upperCharacters_eq_self {text : List Char}
    (codes : ∀ character ∈ text, character.toNat ≤ 0x60) : upperCharacters text = text := by
  induction text with
  | nil => rfl
  | cons character text induction =>
      rcases List.forall_mem_cons.mp codes with ⟨own, others⟩
      rw [upperCharacters, List.flatMap_cons, upperCharacter_eq_self own, ← upperCharacters,
        induction others]
      rfl

/-- Mnemonics are in capitals. -/
theorem upper_of_isMnemonic {word : String} (mnemonic : isMnemonic word.toList = true) :
    Text.upper word = word := by
  have codes : ∀ character ∈ word.toList, character.toNat ≤ 0x60 := by
    rcases isMnemonic_eq_true_iff.mp mnemonic with ⟨rest, spelled, _, characters⟩
    rw [spelled]
    simp only [List.forall_mem_cons]
    refine ⟨by decide, by decide, by decide, fun character member => ?_⟩
    have bounds := toNat_of_isMnemonicCharacter (characters character member)
    omega
  rw [Text.upper, Text.upperCharacters_eq_self codes, String.ofList_toList]

namespace OpcodeTable

/-! ## Near mnemonics -/

/-- Whether a mnemonic is near enough to a word to be suggested for it: it is the word in
capitals, or differs from the word in length by at most one and is reached from the word
in capitals with at most two edits. -/
def IsNear (word mnemonic : String) : Prop :=
  mnemonic = Text.upper word ∨
    (mnemonic.length ≤ word.length + 1 ∧ word.length ≤ mnemonic.length + 1) ∧
      ∃ count ≤ 2, Text.Edits count (Text.upper word).toList mnemonic.toList

theorem resembles_eq_true_iff {word mnemonic : String} :
    resembles word mnemonic = true ↔ IsNear word mnemonic := by
  simp only [resembles, IsNear, Bool.or_eq_true, Bool.and_eq_true, decide_eq_true_eq,
    Text.editDistance_le_iff]

instance (word mnemonic : String) : Decidable (IsNear word mnemonic) :=
  decidable_of_iff _ resembles_eq_true_iff

theorem similar_eq (table : OpcodeTable) (word : String) :
    table.similar word = (table.names.filter fun name => decide (IsNear word name)).take 3 := by
  have sameTest : resembles word = fun name => decide (IsNear word name) := by
    funext name
    rw [Bool.eq_iff_iff, resembles_eq_true_iff, decide_eq_true_eq]
  rw [similar, sameTest]

variable {table : OpcodeTable} {word name : String}

theorem similar_ne_nil (declared : name ∈ table.names) (near : IsNear word name) :
    table.similar word ≠ [] := by
  have listed : name ∈ table.names.filter fun name => decide (IsNear word name) :=
    List.mem_filter.mpr ⟨declared, decide_eq_true near⟩
  intro none
  rw [similar_eq, List.take_eq_nil_iff] at none
  rcases none with impossible | none
  · cases impossible
  · rw [none] at listed
    cases listed

/-- A mnemonic with a slip of one character is near to what was meant. -/
theorem isNear_of_isEdit (mnemonic : isMnemonic word.toList = true)
    (edit : Text.IsEdit word.toList name.toList) : IsNear word name := by
  have lengths := edit.length_le
  rw [String.length_toList, String.length_toList] at lengths
  refine .inr ⟨⟨lengths.2, lengths.1⟩, 1, by decide, ?_⟩
  rw [upper_of_isMnemonic mnemonic]
  exact .step edit (.none name.toList)

theorem toToken_of_notMem_names {placed : PlacedWord} (mnemonic : isMnemonic placed.text = true)
    (undeclared : String.ofList placed.text ∉ table.names) (filename : String) :
    placed.toToken table filename =
      .error {
        fault := .unknownOpcode (String.ofList placed.text)
          (table.similar (String.ofList placed.text))
        location := some { filename, line := placed.line, column := placed.column }
        sourceLine := some (String.ofList placed.lineText) } := by
  have noNumeral : SmallInteger.opcode? (String.ofList placed.text) = none :=
    SmallInteger.opcode?_of_isMnemonic (by rwa [String.toList_ofList])
  simp only [PlacedWord.toToken, classify, bracketed?_of_isMnemonic mnemonic, noNumeral, mnemonic,
    if_true, byteOf?_eq_none_iff.mpr undeclared, unknownOpcode]

/-- The distance of words is the least number of edits between them. The mnemonics
suggested for a word are the first three, in order, that are the word in capitals, or
differ from the word in length by at most one and from the word in capitals by at most
two edits. So a word that is spelled like a mnemonic and is one edit away from one that
is declared is refused with suggestions. -/
theorem suggests_mnemonics_within_two_edits (table : OpcodeTable) :
    Text.CountsEdits Text.editDistance ∧
    (∀ word, table.similar word =
      (table.names.filter fun name => decide (IsNear word name)).take 3) ∧
    ∀ (filename : String) (placed : PlacedWord), isMnemonic placed.text = true →
      String.ofList placed.text ∉ table.names →
      ∀ name ∈ table.names, Text.IsEdit placed.text name.toList →
      table.similar (String.ofList placed.text) ≠ [] ∧
      table.byteOf (String.ofList placed.text) =
        .error {
          fault := .unknownOpcode (String.ofList placed.text)
            (table.similar (String.ofList placed.text)) } ∧
      placed.toToken table filename =
        .error {
          fault := .unknownOpcode (String.ofList placed.text)
            (table.similar (String.ofList placed.text))
          location := some { filename, line := placed.line, column := placed.column }
          sourceLine := some (String.ofList placed.lineText) } := by
  refine ⟨Text.countsEdits_editDistance, table.similar_eq, ?_⟩
  intro filename placed mnemonic undeclared name declared edit
  have near : IsNear (String.ofList placed.text) name := by
    apply isNear_of_isEdit
    · rwa [String.toList_ofList]
    · rwa [String.toList_ofList]
  exact ⟨similar_ne_nil declared near, byteOf_of_notMem_names undeclared,
    toToken_of_notMem_names mnemonic undeclared filename⟩

/-- A character too many. -/
theorem suggests_mnemonics_within_two_edits_of_extra_character :
    let word := "OP_DUPP"
    isMnemonic word.toList = true ∧ word ∉ OpcodeTable.standard.names ∧
      "OP_DUP" ∈ OpcodeTable.standard.names ∧ Text.IsEdit word.toList "OP_DUP".toList ∧
      OpcodeTable.standard.similar word ≠ [] ∧
      OpcodeTable.standard.byteOf word =
        .error { fault := .unknownOpcode word (OpcodeTable.standard.similar word) } := by
  intro word
  have mnemonic : isMnemonic word.toList = true := by decide
  have undeclared : word ∉ OpcodeTable.standard.names := by decide +kernel
  have declared : "OP_DUP" ∈ OpcodeTable.standard.names := by decide +kernel
  have spelled : word.toList = "OP_DUP".toList ++ ['P'] := by decide
  have edit : Text.IsEdit word.toList "OP_DUP".toList := by
    rw [spelled]
    simpa only [List.append_nil] using Text.IsEdit.delete "OP_DUP".toList 'P' []
  rcases suggests_mnemonics_within_two_edits .standard with ⟨_, _, suggests⟩
  have refused := suggests "<asm>" ⟨word.toList, 1, 1, word.toList⟩ mnemonic
  simp only [String.ofList_toList] at refused
  rcases refused undeclared "OP_DUP" declared edit with ⟨nonempty, unknown, _⟩
  exact ⟨mnemonic, undeclared, declared, edit, nonempty, unknown⟩

/-- Mnemonics one and two edits away, in the order of the table. -/
example : OpcodeTable.standard.similar "OP_NOP3" = ["OP_NOP", "OP_NIP", "OP_NOT"] := by
  decide +kernel

end OpcodeTable

end ScriptWorkbench
