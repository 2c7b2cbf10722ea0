import ScriptWorkbench.Json.Basic
import ScriptWorkbench.Number.Decimal

/-!
# Reading JSON

A text is read as one value with nothing but spaces around it. Beyond the
standard, `NaN`, `Infinity` and `-Infinity` are numbers. Of several members
with one name the last gives the value.

Only so many arrays and objects can be open at once. A text that opens one more
is not wrong, but it cannot be read either, and this is told apart.
-/

namespace ScriptWorkbench.Json

inductive Container where
  | array
  | object
  deriving DecidableEq

def Container.name : Container → String
  | .array => "array"
  | .object => "object"

/-- A container is opened inside of as many as can be open at once. -/
structure NestingError where
  container : Container
  deriving DecidableEq

def NestingError.message (error : NestingError) : String :=
  s!"maximum recursion depth exceeded while decoding a JSON {error.container.name}" ++
    " from a unicode string"

/-- Why a text is not read. -/
inductive ReadFault where
  | malformed
  | nesting (error : NestingError)
  deriving DecidableEq

/-- What a reader of a part without containers returns: the thing read and the
text after it. -/
abbrev Read (α : Type) := Option (α × List Char)

/-- What a reader of values returns. -/
abbrev ReadNested (α : Type) := Except ReadFault (α × List Char)

def skipSpaces (text : List Char) : List Char :=
  text.dropWhile fun character => [' ', '\t', '\n', '\r'].contains character

/-! ## Strings -/

private def hexDigit? (character : Char) : Option Nat :=
  if '0' ≤ character && character ≤ '9' then some (character.toNat - 0x30)
  else if 'a' ≤ character && character ≤ 'f' then some (character.toNat - 0x61 + 10)
  else if 'A' ≤ character && character ≤ 'F' then some (character.toNat - 0x41 + 10)
  else none

private def unit? (digits : List Char) : Option Nat :=
  digits.foldl (fun number? character =>
    match number?, hexDigit? character with
    | some number, some value => some (16 * number + value)
    | _, _ => none) (some 0)

private def simpleEscape? : Char → Option Char
  | '\"' => some '\"'
  | '\\' => some '\\'
  | '/' => some '/'
  | 'b' => some '\x08'
  | 'f' => some '\x0C'
  | 'n' => some '\n'
  | 'r' => some '\r'
  | 't' => some '\t'
  | _ => none

/-- Reads the rest of a string whose opening quote is past, as code points and
the halves of surrogate pairs that escapes name. -/
def readUnits : List Char → Read (List Nat)
  | [] => none
  | '\"' :: rest => some ([], rest)
  | '\\' :: 'u' :: a :: b :: c :: d :: rest =>
    match unit? [a, b, c, d] with
    | none => none
    | some unit => (readUnits rest).map fun (units, after) => (unit :: units, after)
  | '\\' :: escape :: rest =>
    match simpleEscape? escape with
    | none => none
    | some character =>
      (readUnits rest).map fun (units, after) => (character.toNat :: units, after)
  | character :: rest =>
    if character.toNat < 0x20 || character = '\\' then none
    else (readUnits rest).map fun (units, after) => (character.toNat :: units, after)

/-- Reads the rest of a string whose opening quote is past. Escapes that are
the two halves of a surrogate pair are one character. -/
def readString (text : List Char) : Read String :=
  (readUnits text).map fun (units, after) => (String.ofList (Text.joinHalves units), after)

/-! ## Numbers -/

private def digitsOf (text : List Char) : Nat :=
  text.foldl (fun number digit => 10 * number + (digit.toNat - 0x30)) 0

/-- The fraction of a number, without its point, if there is one. -/
private def takeFraction : List Char → List Char × List Char
  | '.' :: rest =>
    match rest.takeWhile Char.isDigit with
    | [] => ([], '.' :: rest)
    | digits => (digits, rest.dropWhile Char.isDigit)
  | text => ([], text)

/-- The exponent of a number, if there is one. -/
private def takeExponent (text : List Char) : Option Int × List Char :=
  match text with
  | mark :: rest =>
    if mark = 'e' || mark = 'E' then
      let (negative, unsigned) := match rest with
        | '-' :: following => (true, following)
        | '+' :: following => (false, following)
        | _ => (false, rest)
      match unsigned.takeWhile Char.isDigit with
      | [] => (none, text)
      | digits =>
        let magnitude : Int := digitsOf digits
        (some (if negative then -magnitude else magnitude), unsigned.dropWhile Char.isDigit)
    else (none, text)
  | [] => (none, [])

/-- Reads a number without its sign. A zero is a whole part by itself. -/
private def readMagnitude (negative : Bool) (text : List Char) : Read Json :=
  let whole := match text with
    | '0' :: _ => ['0']
    | _ => text.takeWhile Char.isDigit
  if whole.isEmpty then none
  else
    let (fraction, afterFraction) := takeFraction (text.drop whole.length)
    let (exponent?, rest) := takeExponent afterFraction
    if fraction.isEmpty && exponent?.isNone then
      if Number.integerDigitLimit < whole.length then none
      else
        let magnitude : Int := digitsOf whole
        some (.integer (if negative then -magnitude else magnitude), rest)
    else
      let exponent := exponent?.getD 0 - fraction.length
      some (.real (.ofDecimal negative (digitsOf (whole ++ fraction)) exponent), rest)

/-! ## Values -/

private def readLiteral (text : List Char) : Read Json :=
  let literals : List (String × Json) :=
    [("null", .null), ("true", .bool true), ("false", .bool false), ("NaN", .real .nan),
      ("Infinity", .real (.infinite false)), ("-Infinity", .real (.infinite true))]
  (literals.find? fun literal => literal.1.toList.isPrefixOf text).map fun literal =>
    (literal.2, text.drop literal.1.length)

/-- What becomes of a part that is read, or is malformed. -/
private def nested {α β : Type} (wrap : α → β) : Read α → ReadNested β
  | some (content, after) => .ok (wrap content, after)
  | none => .error .malformed

mutual

/-- Reads a value at the very start of a text, with as many containers inside of
each other as there are levels. The fuel bounds the depth of nesting together with
the number of items. -/
def readValue : (fuel levels : Nat) → List Char → ReadNested Json
  | 0, _, _ => .error .malformed
  | fuel + 1, levels, text =>
    match text with
    | '\"' :: rest => nested .string (readString rest)
    | '[' :: rest =>
      match levels with
      | 0 => .error (.nesting ⟨.array⟩)
      | levels + 1 =>
        match skipSpaces rest with
        | ']' :: after => .ok (.array [], after)
        | items => (readItems fuel levels items).map fun (values, after) => (.array values, after)
    | '\x7b' :: rest =>
      match levels with
      | 0 => .error (.nesting ⟨.object⟩)
      | levels + 1 =>
        match skipSpaces rest with
        | '\x7d' :: after => .ok (.object [], after)
        | members =>
          (readMembers fuel levels [] members).map fun (values, after) => (.object values, after)
    | _ =>
      match readLiteral text with
      | some found => .ok found
      | none =>
        match text with
        | '-' :: rest => nested id (readMagnitude true rest)
        | _ => nested id (readMagnitude false text)

/-- Reads the items of an array up to its closing bracket. -/
def readItems : (fuel levels : Nat) → List Char → ReadNested (List Json)
  | 0, _, _ => .error .malformed
  | fuel + 1, levels, text =>
    match readValue fuel levels text with
    | .error fault => .error fault
    | .ok (item, afterItem) =>
      match skipSpaces afterItem with
      | ']' :: after => .ok ([item], after)
      | ',' :: rest =>
        (readItems fuel levels (skipSpaces rest)).map fun (items, after) => (item :: items, after)
      | _ => .error .malformed

/-- Reads the members of an object up to its closing brace, after those already
read. -/
def readMembers : (fuel levels : Nat) → List (String × Json) → List Char →
    ReadNested (List (String × Json))
  | 0, _, _, _ => .error .malformed
  | fuel + 1, levels, earlier, text =>
    match text with
    | '\"' :: rest =>
      match readString rest with
      | none => .error .malformed
      | some (name, afterName) =>
        match skipSpaces afterName with
        | ':' :: beforeValue =>
          match readValue fuel levels (skipSpaces beforeValue) with
          | .error fault => .error fault
          | .ok (value, afterValue) =>
            let members := putMember name value earlier
            match skipSpaces afterValue with
            | '\x7d' :: after => .ok (members, after)
            | ',' :: more => readMembers fuel levels members (skipSpaces more)
            | _ => .error .malformed
        | _ => .error .malformed
    | _ => .error .malformed

end

/-- Reads a text as JSON with at most so many containers inside of each other.
Two steps of fuel for each character are enough, since no two readers in a row
leave the text as it is. -/
def parse (levels : Nat) (text : String) : Except ReadFault Json :=
  match readValue (2 * text.length + 2) levels (skipSpaces text.toList) with
  | .ok (value, rest) => if (skipSpaces rest).isEmpty then .ok value else .error .malformed
  | .error fault => .error fault

example : parse 1 "[ []" = .error (.nesting ⟨.array⟩) := by rfl

example : parse 2 "[ []" = .error .malformed := by rfl

end ScriptWorkbench.Json
