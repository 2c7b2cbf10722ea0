/-!
# Halves of surrogate pairs

An escape can name one half of a UTF-16 surrogate pair without the other. Such
a half is no character, so a private-use character stands in for it: the one
whose code point lies 0x100000 above the half. Wherever characters are written
as escapes, the half itself is written again; wherever text is encoded, it has no
encoding. A text that has these private-use characters of its own is not told apart
from one with halves.
-/

namespace ScriptWorkbench.Text

def isHighHalf (unit : Nat) : Bool := 0xD800 ≤ unit && unit < 0xDC00

def isLowHalf (unit : Nat) : Bool := 0xDC00 ≤ unit && unit < 0xE000

/-- How far above a half its stand-in lies. -/
def standInDistance : Nat := 0x100000

/-- The character that a code point, or a half by itself, stands for. -/
def characterOfUnit (unit : Nat) : Char :=
  if isHighHalf unit || isLowHalf unit then Char.ofNat (standInDistance + unit)
  else Char.ofNat unit

/-- The characters of code points and halves. Two halves in a row that fit
together are one character. -/
def joinHalves : List Nat → List Char
  | [] => []
  | [unit] => [characterOfUnit unit]
  | high :: low :: rest =>
    if isHighHalf high && isLowHalf low then
      Char.ofNat (0x10000 + (high - 0xD800) * 0x400 + (low - 0xDC00)) :: joinHalves rest
    else characterOfUnit high :: joinHalves (low :: rest)

/-- Whether a character stands in for a half. -/
def isStandIn (character : Char) : Bool :=
  let half := character.toNat - standInDistance
  isHighHalf half || isLowHalf half

/-- The number by which an escape names a character. -/
def escapeCode (character : Char) : Nat :=
  let code := character.toNat
  if isStandIn character then code - standInDistance else code

/-- Whether a text has an encoding. A half by itself has none. -/
def isEncodable (text : String) : Bool := text.toList.all fun character => !isStandIn character

example : joinHalves [0x41, 0xD83D, 0xDE00] = ['A', '😀'] := by decide

end ScriptWorkbench.Text
