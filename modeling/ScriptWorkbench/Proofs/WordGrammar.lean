import ScriptWorkbench.Proofs.CanonicalWords

/-!
# The grammar of words

The meanings that a word can have, apart from the order in which the forms of
words are tried. No two forms share a word.
-/

namespace ScriptWorkbench

/-- The forms of a word, each with what the word then means. -/
inductive Means (table : OpcodeTable) : List Char → Meaning → Prop
  | data {digits : List Char} {payload : Bytes} (read : Hex.decode? digits = some payload)
      (nonempty : payload ≠ []) :
      Means table ('<' :: (digits ++ ['>'])) (.data payload)
  | smallInteger {word : List Char} {opcode : UInt8}
      (numeral : SmallInteger.opcode? (String.ofList word) = some opcode) :
      Means table word (.smallInteger opcode)
  | opcode {word : List Char} {byte : UInt8} (mnemonic : isMnemonic word = true)
      (declared : table.byteOf? (String.ofList word) = some byte) :
      Means table word (.opcode byte)
  | bareHex {word : List Char} {payload : Bytes}
      (noNumeral : SmallInteger.opcode? (String.ofList word) = none)
      (digits : word.all Hex.isDigit = true) (read : Hex.decode? word = some payload) :
      Means table word (.bareHex payload)

theorem bracketed?_eq_some_iff {word digits : List Char} :
    bracketed? word = some digits ↔ word = '<' :: (digits ++ ['>']) := by
  constructor
  · intro brackets
    unfold bracketed? at brackets
    split at brackets
    · next rest =>
        split at brackets
        · next inner reversed =>
            cases brackets
            rw [← List.reverse_reverse rest, reversed, List.reverse_cons]
        · cases brackets
    · cases brackets
  · rintro rfl
    exact bracketed?_append digits

/-- A word of hex digits alone has no brackets and is not spelled like a
mnemonic. -/
theorem forms_of_all_isDigit {word : List Char} (digits : word.all Hex.isDigit = true) :
    bracketed? word = none ∧ isMnemonic word = false := by
  cases word with
  | nil => exact ⟨rfl, rfl⟩
  | cons first rest =>
      have digit : Hex.isDigit first = true :=
        List.all_eq_true.mp digits first List.mem_cons_self
      constructor
      · cases brackets : bracketed? (first :: rest) with
        | none => rfl
        | some inner =>
            cases (List.cons.inj (bracketed?_eq_some_iff.mp brackets)).1
            cases digit
      · rw [← Bool.not_eq_true]
        intro mnemonic
        rcases isMnemonic_eq_true_iff.mp mnemonic with ⟨others, split, _⟩
        cases split
        cases digit

variable {table : OpcodeTable} {word : List Char} {meaning : Meaning}

/-- The first form that a word has gives its only meaning. -/
theorem means_of_classify (classified : classify table word = .ok meaning) :
    Means table word meaning := by
  unfold classify at classified
  simp only at classified
  split at classified
  · next digits brackets =>
      split at classified
      · next byte rest read =>
          cases classified
          rw [bracketed?_eq_some_iff.mp brackets]
          exact .data read (List.cons_ne_nil _ _)
      · cases classified
  · split at classified
    · next opcode numeral =>
        cases classified
        exact .smallInteger numeral
    · next noNumeral =>
        split at classified
        · next mnemonic =>
            split at classified
            · next byte declared =>
                cases classified
                exact .opcode mnemonic declared
            · cases classified
        · split at classified
          · next digits =>
              split at classified
              · next payload read =>
                  cases classified
                  exact .bareHex noNumeral digits read
              · cases classified
          · cases classified

/-- No other form comes before the one that a word has. -/
theorem classify_of_means (means : Means table word meaning) :
    classify table word = .ok meaning := by
  cases means with
  | @data digits payload read nonempty =>
      rcases List.exists_cons_of_ne_nil nonempty with ⟨byte, bytes, rfl⟩
      simp only [classify, bracketed?_append, read]
  | smallInteger numeral =>
      have classified := classify_numeral table numeral
      rwa [String.toList_ofList] at classified
  | opcode mnemonic declared =>
      rw [← String.toList_ofList (l := word)] at mnemonic ⊢
      exact classify_mnemonic mnemonic declared
  | bareHex noNumeral digits read =>
      rcases forms_of_all_isDigit digits with ⟨noBrackets, noMnemonic⟩
      simp only [classify, noBrackets, noNumeral, noMnemonic, digits, read, Bool.false_eq_true,
        if_false, if_true]

theorem classify_eq_ok_iff : classify table word = .ok meaning ↔ Means table word meaning :=
  ⟨means_of_classify, classify_of_means⟩

/-! ## Words without a meaning -/

/-- The forms of a word that has no meaning, each with the fault of the word. -/
inductive Refused (table : OpcodeTable) (word : List Char) : CodecFault → Prop
  | brackets {digits : List Char} (brackets : bracketed? word = some digits)
      (unread : ∀ byte rest, Hex.decode? digits ≠ some (byte :: rest)) :
      Refused table word (.invalidHexData (String.ofList word))
  | mnemonic (noBrackets : bracketed? word = none) (mnemonic : isMnemonic word = true)
      (undeclared : table.byteOf? (String.ofList word) = none) :
      Refused table word (table.unknownOpcode (String.ofList word))
  | digits (noBrackets : bracketed? word = none)
      (noNumeral : SmallInteger.opcode? (String.ofList word) = none)
      (noMnemonic : isMnemonic word = false) (digits : word.all Hex.isDigit = true)
      (unread : Hex.decode? word = none) :
      Refused table word (.oddLengthHex (String.ofList word))
  | other (noBrackets : bracketed? word = none)
      (noNumeral : SmallInteger.opcode? (String.ofList word) = none)
      (noMnemonic : isMnemonic word = false) (noDigits : word.all Hex.isDigit = false) :
      Refused table word (.unrecognizedWord (String.ofList word))

/-- A word is refused for the first form that it has, or as having none. -/
theorem refused_of_classify {fault : CodecFault}
    (classified : classify table word = .error fault) : Refused table word fault := by
  unfold classify at classified
  simp only at classified
  split at classified
  · next digits brackets =>
      split at classified
      · cases classified
      · next unread =>
          cases classified
          exact .brackets brackets unread
  · next noBrackets =>
      split at classified
      · cases classified
      · next noNumeral =>
          split at classified
          · next mnemonic =>
              split at classified
              · cases classified
              · next undeclared =>
                  cases classified
                  exact .mnemonic noBrackets mnemonic undeclared
          · next noMnemonic =>
              rw [Bool.not_eq_true] at noMnemonic
              split at classified
              · next digits =>
                  split at classified
                  · cases classified
                  · next unread =>
                      cases classified
                      exact .digits noBrackets noNumeral noMnemonic digits unread
              · next noDigits =>
                  rw [Bool.not_eq_true] at noDigits
                  cases classified
                  exact .other noBrackets noNumeral noMnemonic noDigits

end ScriptWorkbench
