/-!
# Lines

Three readings of where a line ends. Source lines end at a line feed alone, so
that every other character keeps its column. Files are first brought to that
form. Text for display breaks at every line-breaking character.
-/

namespace ScriptWorkbench.Text

/-- The lines of a source, of which there is always one more than line feeds. -/
def sourceLines (source : String) : List (List Char) :=
  source.toList.splitOn '\n'

example : sourceLines "a\r\nb\n" = [['a', '\r'], ['b'], []] := by decide

/-- Writes each carriage return, with the line feed that may follow it, as a
line feed. -/
def unifyLineEnds : List Char → List Char
  | [] => []
  | '\r' :: '\n' :: rest => '\n' :: unifyLineEnds rest
  | '\r' :: rest => '\n' :: unifyLineEnds rest
  | character :: rest => character :: unifyLineEnds rest

/-- The characters at which displayed text breaks. -/
def isLineBreak (character : Char) : Bool :=
  let code := character.toNat
  (0x0A ≤ code && code ≤ 0x0D) || (0x1C ≤ code && code ≤ 0x1E) ||
    [0x85, 0x2028, 0x2029].contains code

/-- Breaks a text for display. A carriage return and line feed are one break,
and a break at the very end starts no further line. -/
def breakLines : List Char → List (List Char)
  | [] => []
  | '\r' :: '\n' :: rest => [] :: breakLines rest
  | character :: rest =>
    if isLineBreak character then [] :: breakLines rest
    else
      match breakLines rest with
      | [] => [[character]]
      | line :: lines => (character :: line) :: lines

/-- The lines in which a text is displayed. The empty text has none. -/
def displayLines (text : String) : List String :=
  (breakLines text.toList).map String.ofList

example : displayLines "01\r\n\n02\n" = ["01", "", "02"] := by decide

end ScriptWorkbench.Text
