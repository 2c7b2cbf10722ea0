import ScriptWorkbench.Hex
import ScriptWorkbench.Opcode.SmallInteger
import ScriptWorkbench.Opcode.Table
import ScriptWorkbench.Text.Line
import ScriptWorkbench.Token.Basic

/-!
# Reading tokens

Source text is read word by word. A word takes the first of these forms that
it has: data in angle brackets, a small integer, a mnemonic, bare hex. A word
that has a form but breaks its rules is an error of that form.
-/

namespace ScriptWorkbench

/-! ## Forms of words -/

/-- What stands between angle brackets at the two ends of a word. -/
def bracketed? : List Char → Option (List Char)
  | '<' :: rest =>
    match rest.reverse with
    | '>' :: inner => some inner.reverse
    | _ => none
  | _ => none

/-- The characters of a mnemonic behind its leading `OP_`. -/
def isMnemonicCharacter (character : Char) : Bool :=
  character.isUpper || character.isDigit || character == '_'

/-- Whether a word is spelled like a mnemonic. -/
def isMnemonic : List Char → Bool
  | 'O' :: 'P' :: '_' :: rest => !rest.isEmpty && rest.all isMnemonicCharacter
  | _ => false

def classify (table : OpcodeTable) (word : List Char) : Except CodecFault Meaning :=
  let text := String.ofList word
  match bracketed? word with
  | some digits =>
    match Hex.decode? digits with
    | some (byte :: rest) => .ok (.data (byte :: rest))
    | _ => .error (.invalidHexData text)
  | none =>
    match SmallInteger.opcode? text with
    | some opcode => .ok (.smallInteger opcode)
    | none =>
      if isMnemonic word then
        match table.byteOf? text with
        | some byte => .ok (.opcode byte)
        | none => .error (table.unknownOpcode text)
      else if word.all Hex.isDigit then
        match Hex.decode? word with
        | some payload => .ok (.bareHex payload)
        | none => .error (.oddLengthHex text)
      else .error (.unrecognizedWord text)

/-! ## Words in place -/

/-- A word where it stands. `lineText` is the whole line that holds it. -/
structure PlacedWord where
  text : List Char
  line : Nat
  column : Nat
  lineText : List Char
  deriving DecidableEq

namespace PlacedWord

/-- The words of one line, which has the given number. -/
def ofLine (lineText : List Char) (line : Nat) : List PlacedWord :=
  (Text.placedWords lineText).map fun (start, text) =>
    { text, line, column := start + 1, lineText }

def byLine (source : String) : List (List PlacedWord) :=
  ((Text.sourceLines source).zipIdx 1).map fun (lineText, line) => ofLine lineText line

/-- The token that a word is, or its error at the word's place. -/
def toToken (table : OpcodeTable) (filename : String) (word : PlacedWord) :
    Except CodecError Token :=
  match classify table word.text with
  | .ok meaning =>
    .ok {
      meaning
      text := String.ofList word.text
      line := word.line
      column := word.column
      filename }
  | .error fault =>
    .error {
      fault
      location := some { filename, line := word.line, column := word.column }
      sourceLine := some (String.ofList word.lineText) }

/-- The token that a word is, if it has an encoding. -/
def toEncodable (table : OpcodeTable) (filename : String) (word : PlacedWord) :
    Except CodecError Token :=
  word.toToken table filename >>= Token.encodable

end PlacedWord

namespace Token

/-- The tokens of a source in order, up to an error at the first bad word. -/
def ofSource (table : OpcodeTable) (filename source : String) :
    Except CodecError (List Token) :=
  (PlacedWord.byLine source).flatten.mapM (PlacedWord.toToken table filename)

/-- The tokens of each line of a source. -/
def linesOfSource (table : OpcodeTable) (filename source : String) :
    Except CodecError (List (List Token)) :=
  (PlacedWord.byLine source).mapM fun words => words.mapM (PlacedWord.toToken table filename)

/-- The tokens of a source in order, each with an encoding, up to an error at the
first word without a token or without an encoding. -/
def encodableOfSource (table : OpcodeTable) (filename source : String) :
    Except CodecError (List Token) :=
  (PlacedWord.byLine source).flatten.mapM (PlacedWord.toEncodable table filename)

/-- The tokens of each line of a source, each with an encoding. The whole source is
read before the first token is encoded. -/
def encodableLines (table : OpcodeTable) (filename source : String) :
    Except CodecError (List (List Token)) := do
  let lines ← linesOfSource table filename source
  lines.mapM fun tokens => tokens.mapM encodable

/-- The name of a source that is not a file. -/
def sourceName : String := "<asm>"

end Token

end ScriptWorkbench
