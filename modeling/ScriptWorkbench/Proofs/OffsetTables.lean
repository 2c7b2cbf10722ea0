import Mathlib.Algebra.GroupWithZero.Nat
import ScriptWorkbench.Assembly
import ScriptWorkbench.Debug.OffsetMap
import ScriptWorkbench.Proofs.Outcomes

/-!
# Offset tables

An offset map is built by adding one token after another. What comes out is
said here in one equation: lines and tokens start where the code before them
ends.
-/

namespace ScriptWorkbench

/-! ## Pieces laid end to end -/

@[simp] theorem length_pieceStarts (start : Nat) (sizes : List Nat) :
    (pieceStarts start sizes).length = sizes.length := by
  induction sizes generalizing start with
  | nil => rfl
  | cons size sizes induction => rw [pieceStarts, List.length_cons, induction, List.length_cons]

theorem pieceStarts_append (start : Nat) (left right : List Nat) :
    pieceStarts start (left ++ right) =
      pieceStarts start left ++ pieceStarts (start + left.sum) right := by
  induction left generalizing start with
  | nil => rfl
  | cons size left induction =>
      rw [List.cons_append, pieceStarts, induction, pieceStarts, List.cons_append, List.sum_cons,
        Nat.add_assoc]

theorem pieceStarts_add (start distance : Nat) (sizes : List Nat) :
    pieceStarts (start + distance) sizes = (pieceStarts start sizes).map (· + distance) := by
  induction sizes generalizing start with
  | nil => rfl
  | cons size sizes induction =>
      rw [pieceStarts, pieceStarts, List.map_cons, ← induction, Nat.add_right_comm]

theorem getElem?_pieceStarts (start : Nat) (sizes : List Nat) (index : Nat) :
    (pieceStarts start sizes)[index]? =
      sizes[index]?.map fun _ => start + (sizes.take index).sum := by
  induction sizes generalizing start index with
  | nil => rfl
  | cons size sizes induction =>
      cases index with
      | zero => rfl
      | succ index => simpa [pieceStarts, Nat.add_assoc] using induction (start + size) index

/-! ## Sizes of code -/

@[simp] theorem encodedSize_cons (token : Token) (tokens : List Token) :
    encodedSize (token :: tokens) = token.encodedLength + encodedSize tokens := rfl

theorem encodedSize_eq_sum (tokens : List Token) :
    encodedSize tokens = (tokens.map Token.encodedLength).sum := by
  induction tokens with
  | nil => rfl
  | cons token tokens induction => rw [encodedSize_cons, induction, List.map_cons, List.sum_cons]

theorem encodedSize_append (left right : List Token) :
    encodedSize (left ++ right) = encodedSize left + encodedSize right := by
  induction left with
  | nil => exact (Nat.zero_add _).symm
  | cons token left induction =>
      rw [List.cons_append, encodedSize_cons, induction, encodedSize_cons, Nat.add_assoc]

theorem encodedSize_flatten (lines : List (List Token)) :
    encodedSize lines.flatten = (lines.map encodedSize).sum := by
  induction lines with
  | nil => rfl
  | cons tokens lines induction =>
      rw [List.flatten_cons, encodedSize_append, induction, List.map_cons, List.sum_cons]

theorem length_flatMap_encode (tokens : List Token) :
    (tokens.flatMap Token.encode).length = encodedSize tokens := by
  induction tokens with
  | nil => rfl
  | cons token tokens induction =>
      rw [List.flatMap_cons, List.length_append, induction, encodedSize_cons, Token.encode,
        Meaning.length_encode, Token.encodedLength]

/-! ## The tables of a program -/

namespace OffsetMap

/-- The entries of tokens for the offsets that they start at. -/
def tokenEntries (start index : Nat) (tokens : List Token) : List (Int × Int) :=
  ((pieceStarts start (tokens.map Token.encodedLength)).zipIdx index).map fun entry =>
    ((entry.1 : Int), (entry.2 : Int))

theorem tokenEntries_append (start index : Nat) (left right : List Token) :
    tokenEntries start index (left ++ right) =
      tokenEntries start index left ++
        tokenEntries (start + encodedSize left) (index + left.length) right := by
  rw [tokenEntries, List.map_append, pieceStarts_append, List.zipIdx_append, List.map_append,
    length_pieceStarts, List.length_map, ← encodedSize_eq_sum]
  rfl

/-- The lines of tokens that stand on the lines from the given one on. -/
def linesOfTokens (line : Nat) : List (List Token) → List Int
  | [] => []
  | tokens :: lines => List.replicate tokens.length (line : Int) ++ linesOfTokens (line + 1) lines

theorem foldl_addToken (line : Int) (tokens : List Token) (map : OffsetMap) {start : Nat}
    (total : map.totalLength = start) :
    tokens.foldl (addToken line) map =
      { map with
        tokenTable := map.tokenTable ++ tokenEntries start map.tokenLines.length tokens
        tokenLines := map.tokenLines ++ List.replicate tokens.length line
        totalLength := ((start + encodedSize tokens : Nat) : Int) } := by
  induction tokens generalizing map start with
  | nil => simp [tokenEntries, pieceStarts, encodedSize, ← total]
  | cons token tokens induction =>
      have added : (addToken line map token).totalLength =
          ((start + token.encodedLength : Nat) : Int) := by
        rw [addToken, total, Int.natCast_add]
      rw [List.foldl_cons, induction _ added]
      simp [addToken, tokenEntries, pieceStarts, total, List.replicate_succ, Nat.add_assoc]

theorem foldl_addLine (lines : List (List Token)) (map : OffsetMap) {start : Nat}
    (total : map.totalLength = start) :
    lines.foldl addLine map =
      { lineTable := map.lineTable ++ (pieceStarts start (lines.map encodedSize)).map Int.ofNat
        tokenTable := map.tokenTable ++ tokenEntries start map.tokenLines.length lines.flatten
        tokenLines := map.tokenLines ++ linesOfTokens (map.lineTable.length + 1) lines
        totalLength := ((start + encodedSize lines.flatten : Nat) : Int) } := by
  induction lines generalizing map start with
  | nil => simp [tokenEntries, pieceStarts, encodedSize, linesOfTokens, ← total]
  | cons tokens lines induction =>
      have added : map.addLine tokens =
          { lineTable := map.lineTable ++ [(start : Int)]
            tokenTable := map.tokenTable ++ tokenEntries start map.tokenLines.length tokens
            tokenLines := map.tokenLines ++
              List.replicate tokens.length ((map.lineTable.length + 1 : Nat) : Int)
            totalLength := ((start + encodedSize tokens : Nat) : Int) } := by
        have begun := foldl_addToken ((map.lineTable.length + 1 : Nat) : Int) tokens
          { map with lineTable := map.lineTable ++ [map.totalLength] } total
        simp only [addLine, List.length_append, List.length_singleton]
        rw [begun, total]
      rw [List.foldl_cons, added, induction _ rfl]
      simp [pieceStarts, linesOfTokens, tokenEntries_append, encodedSize_append, Nat.add_assoc]

/-- The entry for the end of a program, if it has tokens. -/
def endEntry (tokens : List Token) : List (Int × Int) :=
  if tokens = [] then [] else [((encodedSize tokens : Int), (tokens.length : Int) - 1)]

theorem length_linesOfTokens (line : Nat) (lines : List (List Token)) :
    (linesOfTokens line lines).length = lines.flatten.length := by
  induction lines generalizing line with
  | nil => rfl
  | cons tokens lines induction =>
      rw [linesOfTokens, List.length_append, List.length_replicate, induction,
        List.flatten_cons, List.length_append]

theorem ofLines_eq (lines : List (List Token)) :
    ofLines lines =
      { lineTable := (pieceStarts 0 (lines.map encodedSize)).map Int.ofNat
        tokenTable := tokenEntries 0 0 lines.flatten ++ endEntry lines.flatten
        tokenLines := linesOfTokens 1 lines
        totalLength := (encodedSize lines.flatten : Int) } := by
  have length := length_linesOfTokens 1 lines
  have empty : ({} : OffsetMap).totalLength = ((0 : Nat) : Int) := rfl
  rw [ofLines, foldl_addLine lines {} empty]
  simp only [List.nil_append, List.length_nil, Nat.zero_add, close]
  cases tokenLines : linesOfTokens 1 lines with
  | nil =>
      have noTokens : lines.flatten = [] := by
        rw [← List.length_eq_zero_iff, ← length, tokenLines, List.length_nil]
      simp only [noTokens, endEntry, if_true, List.append_nil]
  | cons line others =>
      have someTokens : lines.flatten ≠ [] := by
        intro noTokens
        rw [noTokens, tokenLines] at length
        cases length
      rw [tokenLines] at length
      simp only [endEntry, if_neg someTokens, length]

end OffsetMap

end ScriptWorkbench
