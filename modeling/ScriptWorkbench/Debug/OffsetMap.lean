import ScriptWorkbench.Log
import ScriptWorkbench.Opcode.Standard
import ScriptWorkbench.Token.Lexer

/-!
# Offset maps

An offset map relates places in script text to byte offsets in what the text
assembles to. Breakpoints go from lines to offsets; program counters of a trace
go from offsets back to tokens.

`OffsetMap.ofSource` builds both tables in one pass. `lineStarts` and
`tokenStarts` say what each table holds by itself.
-/

namespace ScriptWorkbench

/-- The tables for one version of a source text. Lines count from 1 and tokens
from 0. -/
structure OffsetMap where
  /-- Where each line's first token starts, or where it would start. -/
  lineTable : List Int := []
  /-- A token index for each offset at which a token starts, and for the end of
  the program. Of several entries for one offset the last counts. -/
  tokenTable : List (Int × Int) := []
  tokenLines : List Int := []
  totalLength : Int := 0
  deriving DecidableEq

/-! ## Looking up -/

def offsetsOfLines {α : Type} (table : List α) (lines : List Int) : List α :=
  lines.filterMap fun line => if 1 ≤ line then table[(line - 1).toNat]? else none

def tokenIndexAt (table : List (Int × Int)) (offset : Int) : Option Int :=
  table.reverse.lookup offset

/-- Lines without an offset are recorded. -/
def unmappedLineRecords {α : Type} (table : List α) (lines : List Int) : List LogRecord :=
  (lines.filter fun line => line < 1 || (table.length : Int) < line).map fun line =>
    { level := .debug, message := s!"Breakpoint on line {line} is outside the source, ignored" }

namespace OffsetMap

def tokenCount (map : OffsetMap) : Nat := map.tokenLines.length

def breakpointOffsets (map : OffsetMap) (lines : List Int) : List Int :=
  offsetsOfLines map.lineTable lines

def tokenAt (map : OffsetMap) (offset : Int) : Option Int :=
  tokenIndexAt map.tokenTable offset

def lineOfToken (map : OffsetMap) (index : Int) : Option Int :=
  if 0 ≤ index then map.tokenLines[index.toNat]? else none

/-- The least offset whose token is the first one of a line. A line without
tokens has none. -/
def firstTokenOffset (map : OffsetMap) (line : Int) : Option Int :=
  (map.tokenLines.idxOf? line).bind fun index =>
    ((map.tokenTable.filter fun entry => entry.2 == (index : Int)).map Prod.fst).min?

/-! ## Construction -/

def addToken (line : Int) (map : OffsetMap) (token : Token) : OffsetMap :=
  { map with
    tokenTable := map.tokenTable ++ [(map.totalLength, (map.tokenLines.length : Int))]
    tokenLines := map.tokenLines ++ [line]
    totalLength := map.totalLength + token.encodedLength }

def addLine (map : OffsetMap) (tokens : List Token) : OffsetMap :=
  let begun := { map with lineTable := map.lineTable ++ [map.totalLength] }
  tokens.foldl (addToken begun.lineTable.length) begun

/-- Adds the entry for the end of the program, which stands for its last
token. -/
def close (map : OffsetMap) : OffsetMap :=
  match map.tokenLines with
  | [] => map
  | _ :: _ =>
    { map with
      tokenTable := map.tokenTable ++ [(map.totalLength, (map.tokenLines.length : Int) - 1)] }

/-- The map of a program whose lines hold the given tokens. -/
def ofLines (lines : List (List Token)) : OffsetMap := (lines.foldl addLine {}).close

/-- The map of a source that assembles. -/
def ofSource (filename source : String) : Except CodecError OffsetMap :=
  (Token.encodableLines .standard filename source).map ofLines

def record (map : OffsetMap) : LogRecord :=
  let size := s!"{map.lineTable.length} lines, {map.tokenCount} tokens, {map.totalLength} bytes"
  { level := .debug, message := "Offset map: " ++ size }

example :
    ofSource "script" "OP_DUP <0011>\n\nOP_DROP" =
      .ok {
        lineTable := [0, 4, 4]
        tokenTable := [(0, 0), (1, 1), (4, 2), (5, 2)]
        tokenLines := [1, 1, 3]
        totalLength := 5 } := by rfl

end OffsetMap

/-! ## The tables by themselves -/

/-- Where each of several pieces starts when they are laid end to end. -/
def pieceStarts (start : Nat) : List Nat → List Nat
  | [] => []
  | size :: rest => start :: pieceStarts (start + size) rest

def encodedSize (tokens : List Token) : Nat :=
  tokens.foldr (fun token size => token.encodedLength + size) 0

def lineStarts (source : String) : Except CodecError (List Nat) :=
  (Token.encodableLines .standard Token.sourceName source).map fun lines =>
    pieceStarts 0 (lines.map encodedSize)

/-- Where each token of a program starts, and where the last one ends, with the
token's index. -/
def startsOfTokens (tokens : List Token) : List (Nat × Nat) :=
  let starts := (pieceStarts 0 (tokens.map Token.encodedLength)).zipIdx
  if tokens.isEmpty then starts else starts ++ [(encodedSize tokens, tokens.length - 1)]

def tokenStarts (source : String) : Except CodecError (List (Nat × Nat)) :=
  (Token.encodableLines .standard Token.sourceName source).map fun lines =>
    startsOfTokens lines.flatten

example : tokenStarts "OP_DUP\n<0011>" = .ok [(0, 0), (1, 1), (4, 1)] := by rfl

/-- For each line of a source, where its first token starts. -/
def firstTokenOffsets (source : String) : Except CodecError (List (Option Int)) :=
  (OffsetMap.ofSource Token.sourceName source).map fun map =>
    (List.range map.lineTable.length).map fun index => map.firstTokenOffset (index + 1)

end ScriptWorkbench
