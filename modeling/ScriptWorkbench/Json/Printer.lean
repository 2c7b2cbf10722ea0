import ScriptWorkbench.Json.Basic

/-!
# Writing JSON

The written form is on one line and in ASCII. A character beyond U+FFFF is
escaped as the two halves of its UTF-16 form, and a stand-in for one half as
that half.
-/

namespace ScriptWorkbench.Json

private def escapeUnit (unit : Nat) : List Char :=
  "\\u".toList ++ (Text.hexadecimal 4 unit).toList

private def writeCharacter (character : Char) : List Char :=
  let code := Text.escapeCode character
  if character = '\"' || character = '\\' then ['\\', character]
  else if 0x20 ≤ code && code < 0x7F then [character]
  else if code < 0x10000 then escapeUnit code
  else
    let offset := code - 0x10000
    escapeUnit (0xD800 + offset / 0x400) ++ escapeUnit (0xDC00 + offset % 0x400)

private def writeString (text : String) : String :=
  String.ofList ('\"' :: text.toList.flatMap writeCharacter ++ ['\"'])

mutual

def write : Json → String
  | .null => "null"
  | .bool value => if value then "true" else "false"
  | .integer value => toString value
  | .real value => value.text
  | .string value => writeString value
  | .array items => "[" ++ ",".intercalate (writeItems items) ++ "]"
  | .object members => "\x7b" ++ ",".intercalate (writeMembers members) ++ "\x7d"

def writeItems : List Json → List String
  | [] => []
  | item :: rest => item.write :: writeItems rest

def writeMembers : List (String × Json) → List String
  | [] => []
  | (name, value) :: rest => (writeString name ++ ":" ++ value.write) :: writeMembers rest

end

example : (Json.object [("é", .bool true)]).write = "\x7b\"\\u00e9\":true\x7d" := by
  decide +kernel

end ScriptWorkbench.Json
