/-!
# Numerals

Numbers written in fixed columns, and padding of text to a column width.
Widths count characters.
-/

namespace ScriptWorkbench.Text

/-- Fills on the left, for right-aligned columns. -/
def padLeft (width : Nat) (filler : Char) (text : String) : String :=
  String.ofList (text.toList.leftpad width filler)

/-- Fills with spaces on the right, for left-aligned columns. -/
def padRight (width : Nat) (text : String) : String :=
  String.ofList (text.toList.rightpad width ' ')

/-- A number in lower-case hexadecimal with at least `width` digits. -/
def hexadecimal (width value : Nat) : String :=
  padLeft width '0' (String.ofList (Nat.toDigits 16 value))

example : hexadecimal 4 0x1F = "001f" := by decide

end ScriptWorkbench.Text
