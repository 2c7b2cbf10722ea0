import ScriptWorkbench.Text.Numeral
import ScriptWorkbench.Text.Printable
import ScriptWorkbench.Text.SurrogateHalf

/-!
# Quoted text

Text shown inside a message stands between quotes, with every character that
would not show, or would end the quotation, written as an escape.
-/

namespace ScriptWorkbench.Text

/-- Apostrophes enclose the text unless it holds an apostrophe and no double
quote. -/
def quotationMark (text : List Char) : Char :=
  if text.contains '\'' && !text.contains '\"' then '\"' else '\''

/-- One character inside a quotation. An escape by number has two, four or
eight digits, whichever is the least that fits. -/
def quoteCharacter (mark character : Char) : List Char :=
  let code := escapeCode character
  if character = mark || character = '\\' then ['\\', character]
  else if character = '\n' then ['\\', 'n']
  else if character = '\r' then ['\\', 'r']
  else if character = '\t' then ['\\', 't']
  else if isPrintable character then [character]
  else if code < 0x100 then "\\x".toList ++ (hexadecimal 2 code).toList
  else if code < 0x10000 then "\\u".toList ++ (hexadecimal 4 code).toList
  else "\\U".toList ++ (hexadecimal 8 code).toList

def quoted (text : String) : String :=
  let mark := quotationMark text.toList
  String.ofList (mark :: text.toList.flatMap (quoteCharacter mark) ++ [mark])

example : quoted "it's" = "\"it's\"" := by decide +kernel

example : quoted "a\u00A0\n" = "'a\\xa0\\n'" := by decide +kernel

def quotedList (items : List String) : String :=
  "[" ++ ", ".intercalate (items.map quoted) ++ "]"

end ScriptWorkbench.Text
