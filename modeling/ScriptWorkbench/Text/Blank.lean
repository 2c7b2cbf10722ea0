/-!
# Blanks and words

Script text is words separated by blanks. A word is a longest run of
characters that are not blank, so the words of a text are the non-empty pieces
between its blanks.
-/

namespace ScriptWorkbench.Text

/-- The blanks are the ASCII ones, the information separators U+001C to
U+001F, and the Unicode spaces and line separators. Zero-width characters are
not blank. -/
def isBlank (character : Char) : Bool :=
  let code := character.toNat
  (0x09 ≤ code && code ≤ 0x0D) || (0x1C ≤ code && code ≤ 0x20) ||
    (0x2000 ≤ code && code ≤ 0x200A) ||
    [0x85, 0xA0, 0x1680, 0x2028, 0x2029, 0x202F, 0x205F, 0x3000].contains code

/-- The words of a text, in order. -/
def words (text : List Char) : List (List Char) :=
  (text.splitOnP isBlank).filter fun piece => !piece.isEmpty

/-- Gives each piece of a split text the index at which it starts, when one
separator stands between neighbours. -/
def placePieces (start : Nat) : List (List Char) → List (Nat × List Char)
  | [] => []
  | piece :: rest => (start, piece) :: placePieces (start + piece.length + 1) rest

/-- The words of a text with the index of each one's first character. -/
def placedWords (text : List Char) : List (Nat × List Char) :=
  (placePieces 0 (text.splitOnP isBlank)).filter fun placed => !placed.2.isEmpty

example : placedWords " a  bc".toList = [(1, ['a']), (4, ['b', 'c'])] := by decide

/-- The text without the characters of a class at either end. -/
def stripWhere (dropped : Char → Bool) (text : List Char) : List Char :=
  ((text.dropWhile dropped).reverse.dropWhile dropped).reverse

/-- The text without the blanks at either end. -/
def strip (text : List Char) : List Char := stripWhere isBlank text

/-- Writes one line feed for each longest run of blanks. -/
def collapseBlanks : List Char → List Char
  | [] => []
  | character :: rest =>
    if isBlank character then
      match rest with
      | [] => ['\n']
      | next :: _ => if isBlank next then collapseBlanks rest else '\n' :: collapseBlanks rest
    else character :: collapseBlanks rest

/-- The words of a source text. Two sources with the same words mean the same
script. -/
def splitWords (source : String) : List String :=
  (words source.toList).map String.ofList

/-- Collapses the blanks of a source so that each word has a line of its own. -/
def normalize (source : String) : String :=
  String.ofList (collapseBlanks (strip source.toList))

example : normalize "  OP_DUP \t 16\r\n" = "OP_DUP\n16" := by decide

end ScriptWorkbench.Text
