import ScriptWorkbench.Proofs.HexDigits
import ScriptWorkbench.Proofs.PushSizes
import ScriptWorkbench.Proofs.Scanning
import ScriptWorkbench.Proofs.TableLookup
import ScriptWorkbench.Proofs.Words

/-!
# Canonical words

Each instruction that is read has a canonical word, and the word has a
meaning. Reading the word gives that meaning back, provided that the mnemonics
of the opcode table are spelled like mnemonics.
-/

namespace ScriptWorkbench

/-- Whether every mnemonic of a table can be read as one. -/
def OpcodeTable.IsSpelled (table : OpcodeTable) : Prop :=
  ∀ name ∈ table.names, isMnemonic name.toList = true

theorem OpcodeTable.standard_isSpelled : OpcodeTable.standard.IsSpelled := by
  have all : OpcodeTable.standard.names.all (fun name => isMnemonic name.toList) = true := by
    decide +kernel
  exact List.all_eq_true.mp all

/-! ## Classes of words -/

theorem bracketed?_append (digits : List Char) :
    bracketed? ('<' :: (digits ++ ['>'])) = some digits := by
  simp [bracketed?]

theorem isMnemonic_eq_true_iff {word : List Char} :
    isMnemonic word = true ↔
      ∃ rest, word = 'O' :: 'P' :: '_' :: rest ∧ rest ≠ [] ∧
        ∀ character ∈ rest, isMnemonicCharacter character = true := by
  constructor
  · intro mnemonic
    unfold isMnemonic at mnemonic
    split at mnemonic
    · next rest =>
        rw [Bool.and_eq_true, List.all_eq_true] at mnemonic
        exact ⟨rest, rfl, by simpa using mnemonic.1, mnemonic.2⟩
    · cases mnemonic
  · rintro ⟨rest, rfl, nonempty, characters⟩
    simp only [isMnemonic, Bool.and_eq_true, List.all_eq_true]
    exact ⟨by simpa using nonempty, characters⟩

theorem bracketed?_of_isMnemonic {word : List Char} (mnemonic : isMnemonic word = true) :
    bracketed? word = none := by
  rcases isMnemonic_eq_true_iff.mp mnemonic with ⟨rest, rfl, _⟩
  rfl

namespace SmallInteger

theorem numeral?_eq_some_iff {word : String} {opcode : UInt8} :
    numeral? opcode = some word ↔ opcode? word = some opcode :=
  opcode?_eq_some_iff.symm

theorem mem_numerals_of_opcode? {word : String} {opcode : UInt8}
    (found : opcode? word = some opcode) : (word, opcode) ∈ numerals := by
  rcases List.lookup_eq_some_iff.mp found with ⟨before, after, split, _⟩
  rw [split]
  exact List.mem_append_right _ (List.mem_cons_self ..)

/-- No numeral is spelled like a mnemonic or stands in brackets. -/
theorem forms_of_numerals : ∀ entry ∈ numerals,
    isMnemonic entry.1.toList = false ∧ bracketed? entry.1.toList = none ∧
      PushForm.ofOpcode? entry.2 = none ∧ Text.IsWord entry.1.toList := by
  decide

theorem opcode?_of_isMnemonic {word : String} (mnemonic : isMnemonic word.toList = true) :
    opcode? word = none := by
  cases found : opcode? word with
  | none => rfl
  | some opcode =>
      have noMnemonic := (forms_of_numerals _ (mem_numerals_of_opcode? found)).1
      simp [mnemonic] at noMnemonic

end SmallInteger

/-! ## Reading the words of instructions -/

theorem classify_payloadToken (table : OpcodeTable) {payload : Bytes}
    (nonempty : payload ≠ []) :
    classify table (payloadToken payload).toList = .ok (.data payload) := by
  rcases List.exists_cons_of_ne_nil nonempty with ⟨byte, bytes, rfl⟩
  have spelled : (payloadToken (byte :: bytes)).toList =
      '<' :: ((byte :: bytes).flatMap Hex.encodeByte ++ ['>']) := by
    simp [payloadToken]
  simp only [classify, spelled, bracketed?_append, Hex.decode?_flatMap_encodeByte]

theorem classify_numeral (table : OpcodeTable) {word : String} {opcode : UInt8}
    (found : SmallInteger.opcode? word = some opcode) :
    classify table word.toList = .ok (.smallInteger opcode) := by
  have forms := SmallInteger.forms_of_numerals _ (SmallInteger.mem_numerals_of_opcode? found)
  simp only [classify, String.ofList_toList, forms.2.1, found]

theorem classify_mnemonic {table : OpcodeTable} {word : String} {byte : UInt8}
    (mnemonic : isMnemonic word.toList = true) (found : table.byteOf? word = some byte) :
    classify table word.toList = .ok (.opcode byte) := by
  simp only [classify, String.ofList_toList, bracketed?_of_isMnemonic mnemonic,
    SmallInteger.opcode?_of_isMnemonic mnemonic, mnemonic, if_true, found]

end ScriptWorkbench
