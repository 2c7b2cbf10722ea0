import ScriptWorkbench.Proofs.Outcomes
import ScriptWorkbench.Token.Lexer

/-!
# The words of a source

Words are found line by line, but line feeds are blanks, so the words of a
source are those of its characters as one text. Words that are joined by line
feeds are found again.
-/

namespace ScriptWorkbench.Text

/-- A text that can be a word: it is not empty and holds no blank. -/
def IsWord (text : List Char) : Prop :=
  text ≠ [] ∧ ∀ character ∈ text, isBlank character = false

instance (text : List Char) : Decidable (IsWord text) :=
  decidable_of_iff (text ≠ [] ∧ text.all (fun character => !isBlank character) = true) <| by
    simp [IsWord]

@[simp] theorem words_nil : words [] = [] := rfl

theorem words_append_cons (before after : List Char) {separator : Char}
    (blank : isBlank separator = true) :
    words (before ++ separator :: after) = words before ++ words after := by
  rw [words, List.splitOnP_append_cons before after blank, List.filter_append]
  rfl

theorem words_of_isWord {text : List Char} (word : IsWord text) : words text = [text] := by
  rw [words, List.splitOnP_eq_singleton word.2]
  simp [word.1]

theorem ne_nil_of_mem_words {text word : List Char} (member : word ∈ words text) :
    word ≠ [] := by
  simpa using (List.mem_filter.mp member).2

/-- Lines that are joined by line feeds keep their words. -/
theorem words_intercalate (lines : List (List Char)) :
    words (['\n'].intercalate lines) = lines.flatMap words := by
  induction lines with
  | nil => rfl
  | cons line lines induction =>
      cases lines with
      | nil => simp
      | cons next lines =>
          rw [List.intercalate_cons_cons, List.append_assoc]
          exact (words_append_cons line _ (by decide)).trans
            (congrArg (words line ++ ·) induction)

theorem words_intercalate_of_isWord {texts : List (List Char)}
    (isWord : ∀ text ∈ texts, IsWord text) :
    words (['\n'].intercalate texts) = texts := by
  rw [words_intercalate]
  induction texts with
  | nil => rfl
  | cons text texts induction =>
      rw [List.flatMap_cons, words_of_isWord (isWord text (by simp)),
        induction fun other member => isWord other (List.mem_cons_of_mem _ member)]
      rfl

theorem flatMap_words_sourceLines (source : String) :
    (sourceLines source).flatMap words = words source.toList := by
  rw [← words_intercalate, sourceLines, List.intercalate_splitOn]

/-! ## Words in place -/

theorem map_snd_placePieces (start : Nat) (pieces : List (List Char)) :
    (placePieces start pieces).map Prod.snd = pieces := by
  induction pieces generalizing start with
  | nil => rfl
  | cons piece pieces induction => simp [placePieces, induction]

theorem map_snd_placedWords (text : List Char) :
    (placedWords text).map Prod.snd = words text := by
  rw [words, ← map_snd_placePieces 0 (text.splitOnP isBlank), List.filter_map]
  rfl

end ScriptWorkbench.Text

namespace ScriptWorkbench.PlacedWord

theorem map_text_ofLine (lineText : List Char) (line : Nat) :
    (ofLine lineText line).map text = Text.words lineText := by
  rw [ofLine, List.map_map, ← Text.map_snd_placedWords]
  rfl

/-- The words that are found on each line are those of the line. -/
theorem map_text_of_mem_byLine (source : String) :
    (byLine source).map (List.map text) = (Text.sourceLines source).map Text.words := by
  have lines : ((Text.sourceLines source).zipIdx 1).map Prod.fst =
      Text.sourceLines source := List.zipIdx_map_fst 1 _
  conv_rhs => rw [← lines, List.map_map]
  rw [byLine, List.map_map]
  exact List.map_congr_left fun entry _ => map_text_ofLine entry.1 entry.2

/-- The words that are found line by line are the words of the source. -/
theorem map_text_byLine (source : String) :
    (byLine source).flatten.map text = Text.words source.toList := by
  rw [List.map_flatten, map_text_of_mem_byLine, ← List.flatMap_def,
    Text.flatMap_words_sourceLines]

end ScriptWorkbench.PlacedWord
