import ScriptWorkbench.Opcode.Standard
import ScriptWorkbench.Token.Lexer

/-!
# Assembly

Script text assembles to the encodings of its tokens in order, without any
change beyond the choice of push forms. The first word without an encoding
refuses the whole text.
-/

namespace ScriptWorkbench

def assembleWith (table : OpcodeTable) (filename source : String) : Except CodecError Bytes :=
  (Token.encodableOfSource table filename source).map fun tokens => tokens.flatMap Token.encode

/-- Assembles with the standard opcodes. -/
def assemble (source : String) : Except CodecError Bytes :=
  assembleWith .standard Token.sourceName source

def assembleToHex (source : String) : Except CodecError String :=
  (assemble source).map Hex.encode

example : assembleToHex "OP_DUP <0011>\n16" = .ok "7602001160" := by rfl

end ScriptWorkbench
