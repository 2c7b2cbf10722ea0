import ScriptWorkbench.Debug.OffsetMap
import ScriptWorkbench.Export

/-!
# Programs

A program is everything that an editor's text determines: the script text to
show, the bytes, the exports and the offset map. A text either gives all of it
or an error.
-/

namespace ScriptWorkbench

structure Program where
  source : String
  bytes : Bytes
  exports : Exports
  offsets : OffsetMap
  deriving DecidableEq

namespace Program

def hex (program : Program) : String := Hex.encode program.bytes

/-- The program of script text, which has to disassemble again. -/
def ofSource (source : String) : Except CodecError Program := do
  let bytes ← assemble source
  let exports ← Exports.ofBytes bytes
  let offsets ← OffsetMap.ofSource Token.sourceName source
  return { source, bytes, exports, offsets }

/-- The script text to show for bytecode: the current text if it assembles to
just these bytes, and the canonical text otherwise. -/
def sourceFor (current : String) (bytes : Bytes) : Except CodecError String :=
  match assemble current with
  | .ok assembled => if assembled = bytes then .ok current else canonicalSource bytes
  | .error _ => canonicalSource bytes

/-- The program of hex text, when the script text is `current`. -/
def ofHex (current text : String) : Except CodecError Program := do
  let bytes ← Hex.parse text
  let source ← sourceFor current bytes
  let exports ← Exports.ofBytes bytes
  let offsets ← OffsetMap.ofSource Token.sourceName source
  return { source, bytes, exports, offsets }

example : (ofHex "OP_FALSE" " 5A 76").map Program.source = .ok "10\nOP_DUP" := by rfl

end Program

end ScriptWorkbench
