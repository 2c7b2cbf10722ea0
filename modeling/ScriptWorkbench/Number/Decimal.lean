import ScriptWorkbench.Number.Binary64
import ScriptWorkbench.Text.Blank

/-!
# Reading decimal numbers

Numbers typed by a user: spaces around them do not count, digits may come from
any script, and a single underscore may stand between two digits.
-/

namespace ScriptWorkbench.Number

/-- The code points of the digit zero in the scripts of Unicode 14.0. Each one
is followed by the other nine digits. -/
def zeroDigits : List Nat :=
  [0x30, 0x660, 0x6F0, 0x7C0, 0x966, 0x9E6, 0xA66, 0xAE6, 0xB66, 0xBE6, 0xC66, 0xCE6, 0xD66,
    0xDE6, 0xE50, 0xED0, 0xF20, 0x1040, 0x1090, 0x17E0, 0x1810, 0x1946, 0x19D0, 0x1A80, 0x1A90,
    0x1B50, 0x1BB0, 0x1C40, 0x1C50, 0xA620, 0xA8D0, 0xA900, 0xA9D0, 0xA9F0, 0xAA50, 0xABF0,
    0xFF10, 0x104A0, 0x10D30, 0x11066, 0x110F0, 0x11136, 0x111D0, 0x112F0, 0x11450, 0x114D0,
    0x11650, 0x116C0, 0x11730, 0x118E0, 0x11950, 0x11C50, 0x11D50, 0x11DA0, 0x16A60, 0x16AC0,
    0x16B50, 0x1D7CE, 0x1D7D8, 0x1D7E2, 0x1D7EC, 0x1D7F6, 0x1E140, 0x1E2F0, 0x1E950, 0x1FBF0]

def digitValue? (character : Char) : Option Nat :=
  let code := character.toNat
  (zeroDigits.find? fun first => first ≤ code && code < first + 10).map (code - ·)

/-- The digits at the start of a text, and what follows them. An underscore
belongs to them if it stands between two digits. -/
def digitRun (afterDigit : Bool) : List Char → List Nat × List Char
  | [] => ([], [])
  | character :: rest =>
    match digitValue? character with
    | some value =>
      let (values, remaining) := digitRun true rest
      (value :: values, remaining)
    | none =>
      match rest with
      | [] => ([], [character])
      | next :: following =>
        match afterDigit && character = '_', digitValue? next with
        | true, some value =>
          let (values, remaining) := digitRun true following
          (value :: values, remaining)
        | _, _ => ([], character :: next :: following)

example : digitRun false "1_0__2".toList = ([1, 0], "__2".toList) := by decide

def ofDigits (values : List Nat) : Nat :=
  values.foldl (fun number value => 10 * number + value) 0

/-- The most digits that an integer may be written with. -/
def integerDigitLimit : Nat := 4300

/-- The spaces around a number are the blanks apart from the information
separators. -/
def isOuterSpace (character : Char) : Bool :=
  Text.isBlank character && !(0x1C ≤ character.toNat && character.toNat ≤ 0x1F)

private def takeSign : List Char → Bool × List Char
  | '-' :: rest => (true, rest)
  | '+' :: rest => (false, rest)
  | text => (false, text)

def parseInteger? (text : String) : Option Int :=
  let (negative, unsigned) := takeSign (Text.stripWhere isOuterSpace text.toList)
  match digitRun false unsigned with
  | ([], _) => none
  | (values, []) =>
    if integerDigitLimit < values.length then none
    else some (if negative then -(ofDigits values : Int) else ofDigits values)
  | _ => none

private def parseExponent? : List Char → Option Int
  | [] => some 0
  | mark :: rest =>
    if mark = 'e' || mark = 'E' then
      let (negative, unsigned) := takeSign rest
      match digitRun false unsigned with
      | ([], _) => none
      | (values, []) => some (if negative then -(ofDigits values : Int) else ofDigits values)
      | _ => none
    else none

/-- Reads digits around an optional point, at least one of them, and then an
optional exponent. -/
private def parseMagnitude? (negative : Bool) (text : List Char) : Option Binary64 :=
  let (whole, afterWhole) := digitRun false text
  let (fraction, afterFraction) := match afterWhole with
    | '.' :: rest => digitRun false rest
    | _ => ([], afterWhole)
  if whole.isEmpty && fraction.isEmpty then none
  else
    (parseExponent? afterFraction).map fun exponent =>
      .ofDecimal negative (ofDigits (whole ++ fraction)) (exponent - fraction.length)

/-- Reads a decimal number, an infinity or a NaN. -/
def Binary64.parse? (text : String) : Option Binary64 :=
  let (negative, unsigned) := takeSign (Text.stripWhere isOuterSpace text.toList)
  let name := String.ofList (unsigned.map Char.toLower)
  if name = "inf" || name = "infinity" then some (.infinite negative)
  else if name = "nan" then some .nan
  else parseMagnitude? negative unsigned

example : Binary64.parse? " 1_0.5e0 " = some (.ofDecimal false 105 (-1)) := by decide +kernel

example : Binary64.parse? "1__0" = none := by decide

example : (parseInteger? "\u00A05\n", parseInteger? "5\x1F") = (some 5, none) := by decide

end ScriptWorkbench.Number
