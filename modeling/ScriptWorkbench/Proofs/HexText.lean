import Mathlib.Logic.Relation
import Mathlib.Tactic.Common
import ScriptWorkbench.Proofs.HexDigits

/-!
# Hex that is read

Hex text is read exactly if it has digits alone between its blanks, two for each
byte. Letter case is removed before the digits are looked at, by the full mappings
of Unicode, but no other character becomes a digit or a blank by that. So neither
blanks nor letter case have a say in what a text reads as.
-/

namespace ScriptWorkbench

namespace Text

/-! ## Lower-case forms -/

/-- The forms that a character may have in lower-case text. -/
inductive LowersTo : Char → List Char → Prop
  | sigma : LowersTo 'Σ' ['σ']
  | finalSigma : LowersTo 'Σ' ['ς']
  | other {character : Char} (noSigma : character ≠ 'Σ') :
      LowersTo character (lowerCharacter character)

theorem exists_lowersTo (before : List Char) (character : Char) (rest : List Char) :
    ∃ form, LowersTo character form ∧
      lowerAfter before (character :: rest) = form ++ lowerAfter (character :: before) rest := by
  by_cases isSigma : character = 'Σ'
  · subst isSigma
    by_cases final : (startsCased before && !startsCased rest) = true
    · exact ⟨['ς'], .finalSigma, by rw [lowerAfter, if_pos rfl, if_pos final]⟩
    · exact ⟨['σ'], .sigma, by rw [lowerAfter, if_pos rfl, if_neg final]⟩
  · exact ⟨_, .other isSigma, by rw [lowerAfter, if_neg isSigma]⟩

/-- A property of the characters of some codes, few enough to be tested. -/
theorem holds_of_code (property : Char → Prop) {codes : List Nat}
    (each : ∀ code ∈ codes, property (Char.ofNat code)) {character : Char}
    (member : character.toNat ∈ codes) : property character := by
  have own := each character.toNat member
  rwa [Char.ofNat_toNat] at own

/-- The code points of the blanks. -/
def blankCodes : List Nat :=
  List.range' 0x09 5 ++ List.range' 0x1C 5 ++ [0x85, 0xA0, 0x1680] ++ List.range' 0x2000 11 ++
    [0x2028, 0x2029, 0x202F, 0x205F, 0x3000]

theorem isBlank_eq_true_iff {character : Char} :
    isBlank character = true ↔ character.toNat ∈ blankCodes := by
  simp only [isBlank, blankCodes, Bool.or_eq_true, Bool.and_eq_true, decide_eq_true_eq,
    List.contains_eq_mem, List.mem_append, List.mem_range'_1, List.mem_cons, List.not_mem_nil,
    or_false]
  omega

theorem lowersTo_of_isBlank {character : Char} {form : List Char}
    (blank : isBlank character = true) (lowers : LowersTo character form) :
    form = [character] := by
  cases lowers with
  | sigma => cases blank
  | finalSigma => cases blank
  | other =>
      exact holds_of_code (fun character => lowerCharacter character = [character])
        (by decide +kernel) (isBlank_eq_true_iff.mp blank)

end Text

namespace Hex

/-! ## Digits and letter case -/

theorem isDigit_eq_false_of_lt {character : Char} (above : 0x66 < character.toNat) :
    isDigit character = false := by
  rw [← Bool.not_eq_true]
  intro digit
  have codes := codes_of_isDigit digit
  omega

/-- Whether a character has no place in hex text. -/
def IsForeign (character : Char) : Prop :=
  isDigit character = false ∧ Text.isBlank character = false

instance (character : Char) : Decidable (IsForeign character) := inferInstanceAs (Decidable (_ ∧ _))

/-- Each run of the lower-case mappings leads behind the digits and past the
blanks. -/
theorem lowerRuns_avoid : ∀ run ∈ Text.lowerRuns, 0x66 < run.first + run.shift ∧
    ∀ code ∈ Text.blankCodes, run.last + run.shift < (code : Int) ∨
      (code : Int) < run.first + run.shift := by
  decide +kernel

theorem isForeign_image {run : Text.CaseRun} (member : run ∈ Text.lowerRuns) {code : Nat}
    (covered : run.covers code = true) : IsForeign (run.image code) := by
  have avoids := lowerRuns_avoid run member
  simp only [Text.CaseRun.covers, Bool.and_eq_true, decide_eq_true_eq] at covered
  rw [Text.CaseRun.image]
  by_cases valid : (code + run.shift).toNat.isValidChar
  · have value : (Char.ofNat (code + run.shift).toNat).toNat = (code + run.shift).toNat := by
      rw [Char.ofNat, dif_pos valid]
      rfl
    constructor
    · apply isDigit_eq_false_of_lt
      omega
    · rw [← Bool.not_eq_true, Text.isBlank_eq_true_iff, value]
      intro blank
      have past := avoids.2 _ blank
      omega
  · rw [Char.ofNat, dif_neg valid]
    decide

theorem isForeign_mapByRuns {character : Char} (foreign : IsForeign character) :
    IsForeign (Text.mapByRuns Text.lowerRuns character) := by
  rw [Text.mapByRuns]
  cases found : Text.lowerRuns.find? (·.covers character.toNat) with
  | none => exact foreign
  | some run =>
      have covered : run.covers character.toNat = true := by simpa using List.find?_some found
      exact isForeign_image (List.mem_of_find?_eq_some found) covered

/-- A foreign character stays foreign in lower case. -/
theorem isForeign_of_lowersTo {character : Char} {form : List Char}
    (foreign : IsForeign character) (lowers : Text.LowersTo character form) :
    ∃ first others, form = first :: others ∧ IsForeign first := by
  cases lowers with
  | sigma => exact ⟨_, _, rfl, by decide⟩
  | finalSigma => exact ⟨_, _, rfl, by decide⟩
  | other =>
      by_cases ascii : character.toNat < 0x80
      · have lowered := Text.holds_of_code
          (fun character => IsForeign character → IsForeign character.toLower)
          (by decide +kernel) (List.mem_range.mpr ascii)
        rw [Text.lowerCharacter, if_pos ascii]
        exact ⟨_, _, rfl, lowered foreign⟩
      · by_cases dotted : character = '\u0130'
        · rw [Text.lowerCharacter, if_neg ascii, if_pos dotted]
          exact ⟨_, _, rfl, by decide⟩
        · rw [Text.lowerCharacter, if_neg ascii, if_neg dotted]
          exact ⟨_, _, rfl, isForeign_mapByRuns foreign⟩

/-- What a digit is in lower case: one character, which is the written digit of the
same value. -/
structure IsLowered (digit lowered : Char) : Prop where
  lowersTo : ∀ form, Text.LowersTo digit form → form = [lowered]
  solid : Text.isBlank digit = false
  isDigit_lowered : isDigit lowered = true
  solid_lowered : Text.isBlank lowered = false
  toLower_lowered : lowered.toLower = lowered
  digitValue_lowered : digitValue lowered = digitValue digit
  digitChar_digitValue : Nat.digitChar (digitValue digit) = lowered

theorem isLowered_toLower {digit : Char} (isDigit : isDigit digit = true) :
    IsLowered digit digit.toLower := by
  have codes := codes_of_isDigit isDigit
  have ascii : digit.toNat < 0x80 := by omega
  have own := Text.holds_of_code (fun digit => Hex.isDigit digit = true →
      Text.isBlank digit = false ∧ Hex.isDigit digit.toLower = true ∧
      Text.isBlank digit.toLower = false ∧ digit.toLower.toLower = digit.toLower ∧
      digitValue digit.toLower = digitValue digit ∧
      Nat.digitChar (digitValue digit) = digit.toLower)
    (by decide +kernel) (List.mem_range.mpr ascii)
  rcases own isDigit with ⟨solid, isDigitLowered, solidLowered, again, value, written⟩
  refine ⟨fun form lowers => ?_, solid, isDigitLowered, solidLowered, again, value, written⟩
  cases lowers with
  | sigma => cases isDigit
  | finalSigma => cases isDigit
  | other => rw [Text.lowerCharacter, if_pos ascii]

/-! ## The digits of a text -/

/-- The digits of a text in lower case, if blanks are all that stands between
them. -/
def digits? : List Char → Option (List Char)
  | [] => some []
  | character :: rest =>
    if Text.isBlank character then digits? rest
    else if isDigit character then (digits? rest).map (character.toLower :: ·)
    else none

/-- What is left of a text without its blanks. -/
def solid (text : List Char) : List Char := text.filter fun character => !Text.isBlank character

theorem digits?_append (before after : List Char) :
    digits? (before ++ after) = (digits? before).bind fun front =>
      (digits? after).map (front ++ ·) := by
  induction before with
  | nil => simp [digits?]
  | cons character before induction =>
      rw [List.cons_append, digits?, digits?, induction]
      by_cases blank : Text.isBlank character = true
      · rw [if_pos blank, if_pos blank]
      · rw [if_neg blank, if_neg blank]
        by_cases digit : isDigit character = true
        · rw [if_pos digit, if_pos digit]
          cases digits? before <;> simp [Function.comp_def]
        · rw [if_neg digit, if_neg digit]
          rfl

theorem digits?_cons (character : Char) (rest : List Char) :
    digits? (character :: rest) =
      (digits? [character]).bind fun front => (digits? rest).map (front ++ ·) :=
  digits?_append [character] rest

theorem digits?_of_isForeign {character : Char} (foreign : IsForeign character)
    (rest : List Char) : digits? (character :: rest) = none := by
  rw [digits?, if_neg (by simp [foreign.2]), if_neg (by simp [foreign.1])]

/-- Letter case has no say in what digits a text has. -/
theorem digits?_of_lowersTo {character : Char} {form : List Char}
    (lowers : Text.LowersTo character form) : digits? form = digits? [character] := by
  by_cases blank : Text.isBlank character = true
  · rw [Text.lowersTo_of_isBlank blank lowers]
  · by_cases digit : isDigit character = true
    · have lowered := isLowered_toLower digit
      rw [lowered.lowersTo form lowers]
      simp [digits?, lowered.solid, lowered.solid_lowered, lowered.isDigit_lowered,
        lowered.toLower_lowered, digit]
    · have foreign : IsForeign character := ⟨by simpa using digit, by simpa using blank⟩
      rcases isForeign_of_lowersTo foreign lowers with ⟨first, others, rfl, foreignFirst⟩
      rw [digits?_of_isForeign foreignFirst, digits?_of_isForeign foreign]

theorem digits?_eq_some_iff {text digits : List Char} :
    digits? text = some digits ↔
      (∀ character ∈ solid text, isDigit character = true) ∧
        digits = (solid text).map Char.toLower := by
  induction text generalizing digits with
  | nil => exact ⟨fun found => by cases found; simp [solid], fun found => by rw [found.2]; rfl⟩
  | cons character text induction =>
      rw [digits?]
      by_cases blank : Text.isBlank character = true
      · rw [if_pos blank, solid, List.filter_cons_of_neg (by simp [blank])]
        exact induction
      · rw [if_neg blank, solid, List.filter_cons_of_pos (by simpa using blank),
          List.forall_mem_cons, List.map_cons, ← solid]
        by_cases digit : isDigit character = true
        · rw [if_pos digit, Option.map_eq_some_iff]
          simp only [induction, digit, true_and]
          constructor
          · intro found
            rcases found with ⟨others, ⟨each, rfl⟩, rfl⟩
            exact ⟨each, rfl⟩
          · intro found
            exact ⟨_, ⟨found.1, rfl⟩, found.2.symm⟩
        · simp [digit]

theorem digits?_eq_none_iff {text : List Char} :
    digits? text = none ↔
      ∃ character ∈ solid text, isDigit character = false := by
  rw [Option.eq_none_iff_forall_ne_some]
  simp [digits?_eq_some_iff]

/-- In lower case a text keeps its digits, and what is foreign to it. -/
theorem digits?_lowerAfter (before text : List Char) :
    digits? (Text.lowerAfter before text) = digits? text := by
  induction text generalizing before with
  | nil => rfl
  | cons character text induction =>
      rcases Text.exists_lowersTo before character text with ⟨form, lowers, lowered⟩
      rw [lowered, digits?_append, induction, digits?_of_lowersTo lowers, ← digits?_cons]

theorem digits?_solid (text : List Char) : digits? (solid text) = digits? text := by
  apply Option.ext
  intro digits
  simp only [digits?_eq_some_iff, solid, List.filter_filter, Bool.and_self]

theorem lowerAfter_eq_map_toLower {text : List Char}
    (digits : ∀ character ∈ text, isDigit character = true) (before : List Char) :
    Text.lowerAfter before text = text.map Char.toLower := by
  induction text generalizing before with
  | nil => rfl
  | cons character text induction =>
      rcases List.forall_mem_cons.mp digits with ⟨digit, others⟩
      rcases Text.exists_lowersTo before character text with ⟨form, lowers, lowered⟩
      rw [lowered, (isLowered_toLower digit).lowersTo form lowers, induction others]
      rfl

/-! ## Reading -/

/-- The strict reader takes digits of either letter case. -/
theorem spells_map_toLower_iff {digits : List Char} {bytes : Bytes}
    (isDigits : ∀ character ∈ digits, isDigit character = true) :
    Spells (digits.map Char.toLower) bytes ↔ Spells digits bytes := by
  rw [← decode?_eq_some_iff, ← decode?_eq_some_iff]
  suffices same : decode? (digits.map Char.toLower) = decode? digits by rw [same]
  induction digits using decode?.induct with
  | case1 => rfl
  | case2 => rfl
  | case3 high low rest isHex induction =>
      have others : ∀ character ∈ rest, isDigit character = true :=
        fun character member => isDigits character (by simp [member])
      have loweredHigh := isLowered_toLower (isDigits high (by simp))
      have loweredLow := isLowered_toLower (isDigits low (by simp))
      rw [List.map_cons, List.map_cons, decode?, decode?, loweredHigh.isDigit_lowered,
        loweredLow.isDigit_lowered, loweredHigh.digitValue_lowered,
        loweredLow.digitValue_lowered, induction others, if_pos isHex]
      rfl
  | case4 high low rest noHex =>
      have highDigit := isDigits high (by simp)
      have lowDigit := isDigits low (by simp)
      simp [highDigit, lowDigit] at noHex

/-- Bytes are written with the digits that they are read from, in lower case. -/
theorem Spells.encode_eq {digits : List Char} {bytes : Bytes} (spelled : Spells digits bytes) :
    encode bytes = String.ofList (digits.map Char.toLower) := by
  apply String.toList_inj.mp
  rw [toList_encode, String.toList_ofList]
  induction spelled with
  | nil => rfl
  | cons highDigit lowDigit value rest induction =>
      have lowSmall := digitValue_lt lowDigit
      rw [List.flatMap_cons, induction, encodeByte, value,
        Nat.mul_add_div (by decide), Nat.div_eq_of_lt lowSmall, Nat.add_zero,
        Nat.mul_add_mod, Nat.mod_eq_of_lt lowSmall,
        (isLowered_toLower highDigit).digitChar_digitValue,
        (isLowered_toLower lowDigit).digitChar_digitValue]
      rfl

theorem clean_of_digits {text : String}
    (digits : ∀ character ∈ solid text.toList, isDigit character = true) :
    clean text = String.ofList ((solid text.toList).map Char.toLower) := by
  rw [clean, Text.lower, String.toList_ofList, Text.lowerCharacters, ← solid,
    lowerAfter_eq_map_toLower digits]

/-- Reading looks for the digits of the text, then puts them in pairs. -/
theorem parse_eq (text : String) :
    parse text = match digits? text.toList with
      | none => .error { fault := .invalidHexFormat text }
      | some digits => match decode? digits with
        | some bytes => .ok bytes
        | none => .error { fault := .oddLengthHex (String.ofList digits) } := by
  cases found : digits? text.toList with
  | none =>
      have none : digits? (clean text).toList = none := by
        rw [clean, Text.lower, String.toList_ofList, String.toList_ofList, Text.lowerCharacters,
          digits?_lowerAfter, ← solid, digits?_solid, found]
      rcases digits?_eq_none_iff.mp none with ⟨character, member, noDigit⟩
      have noHex : isHex (clean text) = false := by
        rw [isHex, List.all_eq_false]
        exact ⟨character, (List.mem_filter.mp member).1, by simp [noDigit]⟩
      simp [parse, noHex]
  | some digits =>
      rcases digits?_eq_some_iff.mp found with ⟨each, rfl⟩
      have allHex : isHex (String.ofList ((solid text.toList).map Char.toLower)) = true := by
        rw [isHex, String.toList_ofList, List.all_map, List.all_eq_true]
        exact fun character member => (isLowered_toLower (each character member)).isDigit_lowered
      cases read : decode? ((solid text.toList).map Char.toLower) <;>
        simp [parse, clean_of_digits each, allHex, read]

/-- Hex text reads as the bytes that its digits write. -/
theorem parse_eq_ok_iff {text : String} {bytes : Bytes} :
    parse text = .ok bytes ↔ Spells (solid text.toList) bytes := by
  rw [parse_eq]
  cases found : digits? text.toList with
  | none =>
      rcases digits?_eq_none_iff.mp found with ⟨character, member, noDigit⟩
      constructor
      · intro read
        cases read
      · intro spelled
        have digits := (exists_spells_iff.mp ⟨bytes, spelled⟩).2 character member
        rw [noDigit] at digits
        cases digits
  | some digits =>
      rcases digits?_eq_some_iff.mp found with ⟨each, rfl⟩
      rw [← spells_map_toLower_iff each, ← decode?_eq_some_iff]
      cases read : decode? ((solid text.toList).map Char.toLower) <;> simp [read]

theorem parse_eq_invalidHexFormat_iff {text : String} :
    parse text = .error { fault := .invalidHexFormat text } ↔
      ∃ character ∈ solid text.toList, isDigit character = false := by
  rw [parse_eq, ← digits?_eq_none_iff]
  cases digits? text.toList with
  | none => simp
  | some digits => cases read : decode? digits <;> simp [read]

/-- An odd number of digits is the only other failure. -/
theorem parse_eq_oddLengthHex_iff {text : String} :
    parse text =
        .error { fault := .oddLengthHex (String.ofList ((solid text.toList).map Char.toLower)) } ↔
      (∀ character ∈ solid text.toList, isDigit character = true) ∧
        (solid text.toList).length % 2 = 1 := by
  have even : (∀ character ∈ solid text.toList, isDigit character = true) →
      ((∃ bytes, parse text = .ok bytes) ↔ (solid text.toList).length % 2 = 0) := by
    intro each
    simp only [parse_eq_ok_iff, exists_spells_iff, and_iff_left each]
  rw [parse_eq] at even ⊢
  cases found : digits? text.toList with
  | none =>
      rcases digits?_eq_none_iff.mp found with ⟨character, member, noDigit⟩
      simp only [Except.error.injEq, CodecError.mk.injEq, reduceCtorEq, false_and, false_iff]
      intro each
      rw [each.1 character member] at noDigit
      cases noDigit
  | some digits =>
      rcases digits?_eq_some_iff.mp found with ⟨each, rfl⟩
      have parity := even each
      rw [found] at parity
      rw [and_iff_right each]
      cases read : decode? ((solid text.toList).map Char.toLower) with
      | none => simpa [read] using parity
      | some bytes => simpa [read] using parity

/-- Texts of the same digits read alike. -/
theorem parse_eq_ok_of_digits?_eq {text other : String} {bytes : Bytes}
    (read : parse text = .ok bytes) (same : digits? other.toList = digits? text.toList) :
    parse other = .ok bytes := by
  rw [parse_eq] at read ⊢
  rw [same]
  cases found : digits? text.toList with
  | none => simp [found] at read
  | some digits => simpa [found] using read

/-! ## Written hex -/

theorem spells_encode (bytes : Bytes) : Spells (encode bytes).toList bytes := by
  rw [toList_encode]
  exact decode?_eq_some_iff.mp (decode?_flatMap_encodeByte bytes)

theorem isDigit_of_mem_encode (bytes : Bytes) :
    ∀ character ∈ (encode bytes).toList, isDigit character = true :=
  (exists_spells_iff.mp ⟨bytes, spells_encode bytes⟩).2

theorem solid_of_digits {digits : List Char}
    (isDigits : ∀ character ∈ digits, isDigit character = true) : solid digits = digits := by
  rw [solid, List.filter_eq_self]
  intro character member
  rw [(isLowered_toLower (isDigits character member)).solid]
  rfl

/-- Written hex reads back to the bytes that it was written from. -/
@[simp] theorem parse_encode (bytes : Bytes) : parse (encode bytes) = .ok bytes := by
  rw [parse_eq_ok_iff, solid_of_digits (isDigit_of_mem_encode bytes)]
  exact spells_encode bytes

/-- Whether a text is digits with blanks put in and some letters in upper case. -/
inductive Respells : List Char → List Char → Prop
  | nil : Respells [] []
  | blank {character : Char} {text digits : List Char}
      (blank : Text.isBlank character = true) (rest : Respells text digits) :
      Respells (character :: text) digits
  | same {text digits : List Char} (digit : Char) (rest : Respells text digits) :
      Respells (digit :: text) (digit :: digits)
  | upper {text digits : List Char} (digit : Char) (rest : Respells text digits) :
      Respells (digit.toUpper :: text) (digit :: digits)

/-- The capital of a digit is a digit of the same value. -/
theorem digits?_toUpper {digit : Char} (isDigit : isDigit digit = true) :
    digits? [digit.toUpper] = digits? [digit] := by
  have codes := codes_of_isDigit isDigit
  have ascii : digit.toNat < 0x80 := by omega
  exact Text.holds_of_code
    (fun digit => Hex.isDigit digit = true → digits? [digit.toUpper] = digits? [digit])
    (by decide +kernel) (List.mem_range.mpr ascii) isDigit

theorem Respells.digits?_eq {text digits : List Char} (respells : Respells text digits)
    (isDigits : ∀ character ∈ digits, isDigit character = true) :
    digits? text = digits? digits := by
  induction respells with
  | nil => rfl
  | blank blank _ induction =>
      rw [digits?, if_pos blank]
      exact induction isDigits
  | same digit _ induction =>
      rcases List.forall_mem_cons.mp isDigits with ⟨own, others⟩
      rw [digits?_cons, induction others, ← digits?_cons]
  | upper digit _ induction =>
      rcases List.forall_mem_cons.mp isDigits with ⟨own, others⟩
      rw [digits?_cons, digits?_toUpper own, induction others, ← digits?_cons]

/-- Written hex reads back in every spelling. -/
theorem parse_of_respells {text : String} {bytes : Bytes}
    (respells : Respells text.toList (encode bytes).toList) : parse text = .ok bytes :=
  parse_eq_ok_of_digits?_eq (parse_encode bytes)
    (respells.digits?_eq (isDigit_of_mem_encode bytes))

/-! ## Spellings -/

/-- One change of a text that leaves its letters alone: a blank is put in, or a
character gives way to its lower case. -/
inductive Respelling : List Char → List Char → Prop
  | blank {character : Char} (before after : List Char)
      (blank : Text.isBlank character = true) :
      Respelling (before ++ after) (before ++ character :: after)
  | letterCase {character : Char} {form : List Char} (before after : List Char)
      (lowers : Text.LowersTo character form) :
      Respelling (before ++ character :: after) (before ++ form ++ after)

/-- Whether two texts differ in blanks and letter case alone. -/
def SpellsSame : List Char → List Char → Prop := Relation.EqvGen Respelling

theorem Respelling.digits?_eq {text other : List Char} (respelling : Respelling text other) :
    digits? other = digits? text := by
  cases respelling with
  | blank before after blank =>
      rw [digits?_append, digits?_append, digits?, if_pos blank]
  | @letterCase character form before after lowers =>
      rw [List.append_cons before character after]
      simp only [digits?_append, digits?_of_lowersTo lowers]

theorem SpellsSame.digits?_eq {text other : List Char} (same : SpellsSame text other) :
    digits? other = digits? text := by
  induction same with
  | rel text other respelling => exact respelling.digits?_eq
  | refl text => rfl
  | symm text other _ induction => exact induction.symm
  | trans text middle other _ _ first second => rw [second, first]

/-- A text is spelled the same without its blanks, whatever is in front of it. -/
theorem spellsSame_solid (done text : List Char) :
    SpellsSame (done ++ text) (done ++ solid text) := by
  induction text generalizing done with
  | nil => exact .refl _
  | cons character text induction =>
      by_cases blank : Text.isBlank character = true
      · rw [solid, List.filter_cons_of_neg (by simp [blank])]
        exact .trans _ _ _ (.symm _ _ (.rel _ _ (.blank done text blank))) (induction done)
      · have kept := induction (done ++ [character])
        rw [List.append_assoc, List.append_assoc] at kept
        rwa [solid, List.filter_cons_of_pos (by simpa using blank)]

/-- And so it is in lower case. -/
theorem spellsSame_lowerAfter (done before text : List Char) :
    SpellsSame (done ++ text) (done ++ Text.lowerAfter before text) := by
  induction text generalizing done before with
  | nil => exact .refl _
  | cons character text induction =>
      rcases Text.exists_lowersTo before character text with ⟨form, lowers, lowered⟩
      rw [lowered, ← List.append_assoc]
      exact .trans _ _ _ (.rel _ _ (.letterCase done text lowers)) (induction (done ++ form) _)

theorem spellsSame_clean (text : String) : SpellsSame text.toList (clean text).toList := by
  rw [clean, Text.lower, String.toList_ofList, String.toList_ofList, Text.lowerCharacters]
  exact .trans _ _ _ (spellsSame_solid [] text.toList) (spellsSame_lowerAfter [] [] _)

theorem SpellsSame.text_parse_eq {text other : String}
    (same : SpellsSame text.toList other.toList) :
    (parse other).mapError CodecError.text = (parse text).mapError CodecError.text := by
  rw [parse_eq, parse_eq, same.digits?_eq]
  cases digits? text.toList with
  | none => rfl
  | some digits => cases decode? digits <;> rfl

/-- Blanks have no capitals. -/
theorem upperCharacter_of_isBlank {character : Char} (blank : Text.isBlank character = true) :
    Text.upperCharacter character = [character] := by
  exact Text.holds_of_code (fun character => Text.upperCharacter character = [character])
    (by decide +kernel) (Text.isBlank_eq_true_iff.mp blank)

theorem digits?_upperCharacter {character : Char} (inPlace : ¬IsForeign character) :
    digits? (Text.upperCharacter character) = digits? [character] := by
  by_cases blank : Text.isBlank character = true
  · rw [upperCharacter_of_isBlank blank]
  · have digit : isDigit character = true := by
      rw [IsForeign, not_and_or, Bool.not_eq_false, Bool.not_eq_false] at inPlace
      exact inPlace.resolve_right blank
    have codes := codes_of_isDigit digit
    rw [Text.upperCharacter, if_pos (by omega), digits?_toUpper digit]

theorem digits?_upperCharacters {text : List Char}
    (inPlace : ∀ character ∈ text, ¬IsForeign character) :
    digits? (Text.upperCharacters text) = digits? text := by
  induction text with
  | nil => rfl
  | cons character text induction =>
      rcases List.forall_mem_cons.mp inPlace with ⟨own, others⟩
      rw [Text.upperCharacters, List.flatMap_cons, ← Text.upperCharacters, digits?_append,
        digits?_upperCharacter own, induction others, ← digits?_cons]

theorem not_isForeign_of_spells {text : String} {bytes : Bytes}
    (spelled : Spells (solid text.toList) bytes) :
    ∀ character ∈ text.toList, ¬IsForeign character := by
  intro character member foreign
  have digits := (exists_spells_iff.mp ⟨bytes, spelled⟩).2 character
    (List.mem_filter.mpr ⟨member, by simp [foreign.2]⟩)
  rw [foreign.1] at digits
  cases digits

/-- Hex text reads if its characters other than blanks are digits, two for each byte.
A foreign character is reported before an odd number of digits, and lower case makes
no digit of one. The bytes that are read are written with the digits of the text in
lower case, and are read from its capitals too. Written bytes read back. Texts that
differ in blanks and letter case alone have one result. -/
theorem hex_text_reads_exactly (text : String) :
    ((∃ bytes, parse text = .ok bytes) ↔
      (∀ character ∈ solid text.toList, isDigit character = true) ∧
        (solid text.toList).length % 2 = 0) ∧
    (parse text = .error { fault := .invalidHexFormat text } ↔
      ∃ character ∈ solid text.toList, isDigit character = false) ∧
    (parse text =
        .error { fault := .oddLengthHex (String.ofList ((solid text.toList).map Char.toLower)) } ↔
      (∀ character ∈ solid text.toList, isDigit character = true) ∧
        (solid text.toList).length % 2 = 1) ∧
    (∀ bytes, parse text = .ok bytes →
      Spells (solid text.toList) bytes ∧
        encode bytes = String.ofList ((solid text.toList).map Char.toLower) ∧
        clean text = encode bytes ∧ parse (Text.upper text) = .ok bytes) ∧
    (∀ bytes, parse (encode bytes) = .ok bytes) ∧
    SpellsSame text.toList (clean text).toList ∧
    ∀ other : String, SpellsSame text.toList other.toList →
      (parse other).mapError CodecError.text = (parse text).mapError CodecError.text := by
  refine ⟨?_, parse_eq_invalidHexFormat_iff, parse_eq_oddLengthHex_iff, ?_, parse_encode,
    spellsSame_clean text, fun other same => same.text_parse_eq⟩
  · simp only [parse_eq_ok_iff, exists_spells_iff, and_comm]
  · intro bytes read
    have spelled := parse_eq_ok_iff.mp read
    have digits := (exists_spells_iff.mp ⟨bytes, spelled⟩).2
    have upper := digits?_upperCharacters (not_isForeign_of_spells spelled)
    refine ⟨spelled, spelled.encode_eq, ?_, ?_⟩
    · rw [clean_of_digits digits, spelled.encode_eq]
    · apply parse_eq_ok_of_digits?_eq read
      rw [Text.upper, String.toList_ofList, upper]

/-- Blanks in front of and between the digits, and letters of both cases. -/
theorem hex_text_reads_exactly_of_blanks_and_capitals :
    SpellsSame " 4C\u300001\n0a".toList "4c010A".toList ∧
    parse " 4C\u300001\n0a" = .ok [0x4C, 0x01, 0x0A] ∧
    clean " 4C\u300001\n0a" = encode [0x4C, 0x01, 0x0A] ∧
    (parse "4c010A").mapError CodecError.text = .ok [0x4C, 0x01, 0x0A] := by
  have cleaned : clean " 4C\u300001\n0a" = clean "4c010A" := by decide +kernel
  have same : SpellsSame " 4C\u300001\n0a".toList "4c010A".toList := by
    have first := spellsSame_clean " 4C\u300001\n0a"
    rw [cleaned] at first
    exact .trans _ _ _ first (.symm _ _ (spellsSame_clean "4c010A"))
  have read : parse " 4C\u300001\n0a" = .ok [0x4C, 0x01, 0x0A] := by decide +kernel
  rcases hex_text_reads_exactly " 4C\u300001\n0a" with ⟨_, _, _, reads, _, _, alike⟩
  refine ⟨same, read, (reads _ read).2.2.1, ?_⟩
  rw [alike "4c010A" same, read]
  rfl

/-- The ligature of two letters f is no spelling of its own capitals. -/
example : parse "\uFB00" = .error { fault := .invalidHexFormat "\uFB00" } ∧
    parse (Text.upper "\uFB00") = .ok [0xFF] := by
  decide +kernel

end Hex

end ScriptWorkbench
