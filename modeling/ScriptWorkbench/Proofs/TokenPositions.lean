import ScriptWorkbench.Proofs.LineCodes
import ScriptWorkbench.Proofs.Sources
import ScriptWorkbench.Proofs.WordRuns

/-!
# Where tokens stand

A token stands where its word does: on the line and at the column of its first
character, both counted from 1. Tokens follow each other in the order of the
source, and together they cover every character of it that is not blank.
-/

namespace ScriptWorkbench

namespace Text

/-! ## The words of a line -/

/-- A placed word, with more text in front of it. -/
def shift (distance : Nat) (placed : Nat × List Char) : Nat × List Char :=
  (placed.1 + distance, placed.2)

theorem placePieces_add (start distance : Nat) (pieces : List (List Char)) :
    placePieces (start + distance) pieces = (placePieces start pieces).map (shift distance) := by
  induction pieces generalizing start with
  | nil => rfl
  | cons piece pieces induction =>
      have next : start + distance + piece.length + 1 = start + piece.length + 1 + distance := by
        omega
      rw [placePieces, placePieces, next, induction]
      rfl

theorem placedWords_cons_of_blank {character : Char} (rest : List Char)
    (blank : isBlank character = true) :
    placedWords (character :: rest) = (placedWords rest).map (shift 1) := by
  have pieces : (character :: rest).splitOnP isBlank = [] :: rest.splitOnP isBlank := by
    rw [List.splitOnP_cons_eq_if_modifyHead, if_pos blank]
  rw [placedWords, pieces, placePieces, List.filter_cons_of_neg (by simp), List.length_nil,
    Nat.add_assoc, placePieces_add, List.filter_map]
  rfl

theorem placedWords_append_of_startsBlank {word rest : List Char} (isWord : IsWord word)
    (startsBlank : StartsBlank rest) :
    placedWords (word ++ rest) =
      (0, word) :: (placedWords rest).map (shift word.length) := by
  cases rest with
  | nil =>
      rw [List.append_nil, placedWords, List.splitOnP_eq_singleton isWord.2, placePieces,
        List.filter_cons_of_pos (by simpa using isWord.1)]
      rfl
  | cons character rest =>
      have blank := startsBlank_cons.mp startsBlank
      have further : shift word.length ∘ shift 1 = shift (word.length + 1) := by
        funext placed
        simp only [Function.comp_apply, shift, Nat.add_assoc, Nat.add_comm 1]
      rw [placedWords, List.splitOnP_append_cons word rest blank,
        List.splitOnP_eq_singleton isWord.2, List.singleton_append, placePieces,
        List.filter_cons_of_pos (by simpa using isWord.1), Nat.add_assoc, placePieces_add,
        List.filter_map, placedWords_cons_of_blank rest blank, List.map_map, further]
      rfl

theorem map_snd_map_shift (distance : Nat) (places : List (Nat × List Char)) :
    (places.map (shift distance)).map Prod.snd = places.map Prod.snd := by
  rw [List.map_map]
  rfl

/-- A placed word is the run of its line that starts at its index, and the words
before that index are the ones that are placed earlier. -/
theorem exists_run_of_placedWords_eq {text : List Char} {placed : Nat × List Char}
    {earlier later : List (Nat × List Char)}
    (split : placedWords text = earlier ++ placed :: later) :
    ∃ before after, text = before ++ (placed.2 ++ after) ∧ before.length = placed.1 ∧
      RunBetween before placed.2 after ∧ words before = earlier.map Prod.snd := by
  induction text using words_induction generalizing earlier placed later with
  | nil => simp [placedWords, placePieces] at split
  | blank character rest blank induction =>
      rw [placedWords_cons_of_blank rest blank] at split
      rcases List.map_eq_append_iff.mp split with ⟨front, back, inner, rfl, moved⟩
      rcases List.map_eq_cons_iff.mp moved with ⟨place, behind, rfl, rfl, rfl⟩
      rcases induction inner with ⟨before, after, rfl, start, run, ahead⟩
      refine ⟨character :: before, after, rfl, ?_, run.cons_of_blank blank, ?_⟩
      · rw [List.length_cons, start]
        rfl
      · rw [words_cons_of_blank before blank, ahead, map_snd_map_shift]
  | word first rest isWord startsBlank induction =>
      rw [placedWords_append_of_startsBlank isWord startsBlank] at split
      cases earlier with
      | nil =>
          rcases List.cons.inj split with ⟨rfl, _⟩
          exact ⟨[], rest, rfl, rfl, ⟨isWord, endsBlank_nil, startsBlank⟩, rfl⟩
      | cons head earlier =>
          rcases List.cons.inj split with ⟨rfl, others⟩
          rcases List.map_eq_append_iff.mp others with ⟨front, back, inner, rfl, moved⟩
          rcases List.map_eq_cons_iff.mp moved with ⟨place, behind, rfl, rfl, rfl⟩
          rcases induction inner with ⟨before, after, rfl, start, run, ahead⟩
          have startsBefore := run.startsBlank_before startsBlank
          refine ⟨first ++ before, after, (List.append_assoc _ _ _).symm, ?_,
            run.append first startsBlank, ?_⟩
          · rw [List.length_append, start, Nat.add_comm]
            rfl
          · rw [words_append_of_startsBlank isWord startsBefore, ahead, List.map_cons,
              map_snd_map_shift]

theorem exists_run_of_mem_placedWords {text : List Char} {placed : Nat × List Char}
    (member : placed ∈ placedWords text) :
    ∃ before after, text = before ++ (placed.2 ++ after) ∧ before.length = placed.1 ∧
      RunBetween before placed.2 after := by
  rcases List.append_of_mem member with ⟨earlier, later, split⟩
  rcases exists_run_of_placedWords_eq split with ⟨before, after, same, start, run, _⟩
  exact ⟨before, after, same, start, run⟩

/-- Each word of a line ends before the next one starts. -/
theorem pairwise_placedWords (text : List Char) :
    (placedWords text).Pairwise fun earlier later =>
      earlier.1 + earlier.2.length < later.1 := by
  induction text using words_induction with
  | nil => exact .nil
  | blank character rest blank induction =>
      rw [placedWords_cons_of_blank rest blank, List.pairwise_map]
      refine induction.imp fun {earlier later} apart => ?_
      simp only [shift]
      omega
  | word first rest isWord startsBlank induction =>
      rw [placedWords_append_of_startsBlank isWord startsBlank, List.pairwise_cons,
        List.pairwise_map]
      constructor
      · intro later member
        rcases List.mem_map.mp member with ⟨inner, innerMember, rfl⟩
        rcases exists_run_of_mem_placedWords innerMember with ⟨before, after, rfl, start, run⟩
        rcases run.exists_cons startsBlank with ⟨character, others, rfl, _⟩
        rw [List.length_cons] at start
        simp only [shift]
        omega
      · refine induction.imp fun {earlier later} apart => ?_
        simp only [shift]
        omega

/-- Every character that is not blank is in a placed word. -/
theorem exists_placed_of_getElem? {text : List Char} {index : Nat} {character : Char}
    (found : text[index]? = some character) (solid : isBlank character = false) :
    ∃ placed ∈ placedWords text, placed.1 ≤ index ∧ index < placed.1 + placed.2.length := by
  induction text using words_induction generalizing index with
  | nil => cases found
  | blank first rest blank induction =>
      rw [placedWords_cons_of_blank rest blank]
      cases index with
      | zero =>
          rw [List.getElem?_cons_zero, Option.some.injEq] at found
          rw [found, solid] at blank
          cases blank
      | succ index =>
          rcases induction (List.getElem?_cons_succ ▸ found) with ⟨placed, member, lower, upper⟩
          refine ⟨shift 1 placed, List.mem_map_of_mem member, ?_, ?_⟩
          · exact Nat.succ_le_succ lower
          · simp only [shift]
            omega
  | word first rest isWord startsBlank induction =>
      rw [placedWords_append_of_startsBlank isWord startsBlank]
      by_cases inside : index < first.length
      · exact ⟨(0, first), List.mem_cons_self, Nat.zero_le _, by simpa using inside⟩
      · rw [List.getElem?_append_right (by omega)] at found
        rcases induction found with ⟨placed, member, lower, upper⟩
        refine ⟨shift first.length placed,
          List.mem_cons_of_mem _ (List.mem_map_of_mem member), ?_, ?_⟩
        · simp only [shift]
          omega
        · simp only [shift]
          omega

/-! ## The lines of a source -/

/-- A character of lines that are joined by line feeds is a character of one of
them, unless it is a line feed itself. -/
theorem exists_line_of_character {lines : List (List Char)} {before after : List Char}
    {character : Char} (noLineFeed : character ≠ '\n')
    (split : ['\n'].intercalate lines = before ++ character :: after) :
    ∃ index front back, lines[index]? = some (front ++ character :: back) ∧
      before = ['\n'].intercalate (lines.take index ++ [front]) := by
  induction lines generalizing before with
  | nil => simp at split
  | cons line lines induction =>
      cases lines with
      | nil =>
          rw [List.intercalate_singleton] at split
          exact ⟨0, before, after, congrArg some split, by simp⟩
      | cons next lines =>
          rw [List.intercalate_cons_cons, List.append_assoc] at split
          -- The character is behind the first line, or one of that line.
          rcases List.append_eq_append_iff.mp split with ⟨more, rfl, rest⟩ | ⟨more, rfl, rest⟩
          · cases more with
            | nil =>
                cases rest
                exact absurd rfl noLineFeed
            | cons separator more =>
                rcases List.cons.inj rest with ⟨rfl, others⟩
                rcases induction others with ⟨index, front, back, found, rfl⟩
                refine ⟨index + 1, front, back, found, ?_⟩
                rw [List.take_succ_cons, List.cons_append]
                cases ahead : List.take index (next :: lines) ++ [front] with
                | nil => simp at ahead
                | cons =>
                    rw [List.intercalate_cons_cons, List.append_assoc]
                    rfl
          · cases more with
            | nil =>
                cases rest
                exact absurd rfl noLineFeed
            | cons first more =>
                rcases List.cons.inj rest with ⟨rfl, _⟩
                exact ⟨0, before, more, rfl, by simp⟩

end Text

/-! ## Spans -/

/-- A word with the place of its first character. -/
structure Span where
  line : Nat
  column : Nat
  text : List Char

namespace Span

/-- Whether a place is one of the characters of a span. -/
def Covers (span : Span) (line column : Nat) : Prop :=
  span.line = line ∧ span.column ≤ column ∧ column < span.column + span.text.length

/-- Whether a span stands on an earlier line or, with something in between, earlier
on the line. -/
def Precedes (span later : Span) : Prop :=
  span.line < later.line ∨
    span.line = later.line ∧ span.column + span.text.length < later.column

theorem Precedes.not_covers {span later : Span} {line column : Nat}
    (precedes : span.Precedes later) (covers : span.Covers line column) :
    ¬later.Covers line column := by
  intro coversLater
  rcases covers with ⟨sameLine, _, upper⟩
  rcases coversLater with ⟨sameLineLater, lower, _⟩
  rcases precedes with earlier | ⟨_, earlier⟩ <;> omega

end Span

def PlacedWord.span (word : PlacedWord) : Span :=
  { line := word.line, column := word.column, text := word.text }

def Token.span (token : Token) : Span :=
  { line := token.line, column := token.column, text := token.text.toList }

theorem PlacedWord.span_toToken {table : OpcodeTable} {filename : String} {word : PlacedWord}
    {token : Token} (read : word.toToken table filename = .ok token) :
    token.span = word.span := by
  rcases toToken_eq_ok_iff.mp read with ⟨meaning, _, rfl⟩
  simp [Token.span, PlacedWord.span]

/-- The spans of the words of a line that has the given number. -/
def lineSpans (line : Nat) (text : List Char) : List Span :=
  (Text.placedWords text).map fun placed => { line, column := placed.1 + 1, text := placed.2 }

/-- The spans of the words of each line of a source. -/
def spansByLine (source : String) : List (List Span) :=
  ((Text.sourceLines source).zipIdx 1).map fun (text, line) => lineSpans line text

theorem spansByLine_eq (source : String) :
    spansByLine source = (PlacedWord.byLine source).map (List.map PlacedWord.span) := by
  rw [PlacedWord.byLine, List.map_map, spansByLine]
  apply List.map_congr_left
  intro entry _
  simp only [Function.comp_apply, PlacedWord.ofLine, List.map_map]
  rfl

/-- Tokens have the spans of the words that they were read from. -/
theorem Token.map_span_of_linesOfSource {table : OpcodeTable} {filename source : String}
    {lines : List (List Token)} (read : linesOfSource table filename source = .ok lines) :
    lines.map (List.map span) = spansByLine source := by
  rw [spansByLine_eq, ← List.forall₂_eq_eq_eq, List.forall₂_map_left_iff,
    List.forall₂_map_right_iff]
  refine (mapM_eq_ok_iff.mp read).flip.imp fun tokens words readLine => ?_
  rw [← List.forall₂_eq_eq_eq, List.forall₂_map_left_iff, List.forall₂_map_right_iff]
  exact (mapM_eq_ok_iff.mp readLine).flip.imp fun token word => PlacedWord.span_toToken

theorem getElem?_spansByLine (source : String) (index : Nat) :
    (spansByLine source)[index]? =
      ((Text.sourceLines source)[index]?).map (lineSpans (index + 1)) := by
  rw [spansByLine, List.getElem?_map, List.getElem?_zipIdx, Option.map_map, Nat.add_comm]
  rfl

theorem mem_spansByLine_iff {source : String} {span : Span} :
    span ∈ (spansByLine source).flatten ↔
      ∃ index text, (Text.sourceLines source)[index]? = some text ∧
        span ∈ lineSpans (index + 1) text := by
  simp only [List.mem_flatten, List.mem_iff_getElem? (l := spansByLine source),
    getElem?_spansByLine, Option.map_eq_some_iff]
  constructor
  · intro placed
    rcases placed with ⟨_, ⟨index, text, found, rfl⟩, member⟩
    exact ⟨index, text, found, member⟩
  · intro placed
    rcases placed with ⟨index, text, found, member⟩
    exact ⟨_, ⟨index, text, found, rfl⟩, member⟩

theorem line_of_mem_lineSpans {line : Nat} {text : List Char} {span : Span}
    (member : span ∈ lineSpans line text) : span.line = line := by
  rcases List.mem_map.mp member with ⟨placed, _, rfl⟩
  rfl

theorem pairwise_lineSpans (line : Nat) (text : List Char) :
    (lineSpans line text).Pairwise Span.Precedes := by
  rw [lineSpans, List.pairwise_map]
  refine (Text.pairwise_placedWords text).imp fun {earlier later} apart => .inr ⟨rfl, ?_⟩
  simp only
  omega

theorem pairwise_spansByLine (source : String) :
    (spansByLine source).flatten.Pairwise Span.Precedes := by
  rw [List.pairwise_flatten]
  constructor
  · intro spans member
    rcases List.mem_map.mp member with ⟨entry, _, rfl⟩
    exact pairwise_lineSpans entry.2 entry.1
  · have numbered : ((Text.sourceLines source).zipIdx 1).Pairwise fun earlier later =>
        earlier.2 < later.2 := by
      rw [← List.pairwise_map, List.zipIdx_map_snd]
      exact List.pairwise_lt_range'
    rw [spansByLine, List.pairwise_map]
    refine numbered.imp fun {earlier later} below => ?_
    intro span member other otherMember
    apply Or.inl
    rw [line_of_mem_lineSpans member, line_of_mem_lineSpans otherMember]
    exact below

theorem exists_covers {source : String} {index place : Nat} {text : List Char}
    {character : Char} (line : (Text.sourceLines source)[index]? = some text)
    (found : text[place]? = some character) (solid : Text.isBlank character = false) :
    ∃ span ∈ (spansByLine source).flatten, span.Covers (index + 1) (place + 1) := by
  rcases Text.exists_placed_of_getElem? found solid with ⟨placed, member, lower, upper⟩
  refine ⟨_, mem_spansByLine_iff.mpr ⟨index, text, line, List.mem_map_of_mem member⟩, rfl, ?_, ?_⟩
  · exact Nat.succ_le_succ lower
  · simp only
    omega

/-! ## Tokens -/

/-- Whether tokens, as a list and line by line, show where the words of a source
stand. -/
structure Reconstructs (source : String) (tokens : List Token) (lines : List (List Token)) :
    Prop where
  flatten : lines.flatten = tokens
  texts : tokens.map Token.text = Text.splitWords source
  lineCount : lines.length = (Text.sourceLines source).length
  numbered (index : Nat) (group : List Token) (onLine : lines[index]? = some group) :
    ∀ token ∈ group, token.line = index + 1
  standing (token : Token) (member : token ∈ tokens) :
    ∃ index before after,
      (Text.sourceLines source)[index]? = some (before ++ (token.text.toList ++ after)) ∧
      token.line = index + 1 ∧ token.column = before.length + 1 ∧
      Text.RunBetween before token.text.toList after
  increasing : tokens.Pairwise fun earlier later =>
    earlier.line < later.line ∨ earlier.line = later.line ∧ earlier.column < later.column
  /-- Each character that is not blank is the one at some place of one line, and
  one token covers this place. -/
  covered (before : List Char) (character : Char) (after : List Char)
    (split : source.toList = before ++ character :: after)
    (solid : Text.isBlank character = false) :
    ∃ index front back,
      (Text.sourceLines source)[index]? = some (front ++ character :: back) ∧
      before = ['\n'].intercalate ((Text.sourceLines source).take index ++ [front]) ∧
      ∃! token, token ∈ tokens ∧ token.span.Covers (index + 1) (front.length + 1)

namespace Token

variable {table : OpcodeTable} {filename source : String} {lines : List (List Token)}

theorem map_span_flatten (read : linesOfSource table filename source = .ok lines) :
    lines.flatten.map span = (spansByLine source).flatten := by
  rw [List.map_flatten, map_span_of_linesOfSource read]

theorem map_text_of_linesOfSource (read : linesOfSource table filename source = .ok lines) :
    lines.flatten.map text = Text.splitWords source := by
  have spans : lines.flatten.map span =
      (PlacedWord.byLine source).flatten.map PlacedWord.span := by
    rw [map_span_flatten read, spansByLine_eq, List.map_flatten]
  have texts := congrArg (List.map fun span => String.ofList span.text) spans
  rw [List.map_map, List.map_map] at texts
  rw [Text.splitWords, ← PlacedWord.map_text_byLine, List.map_map]
  simpa [Function.comp_def, span, PlacedWord.span] using texts

theorem line_of_linesOfSource (read : linesOfSource table filename source = .ok lines)
    {index : Nat} {group : List Token} (onLine : lines[index]? = some group) {token : Token}
    (member : token ∈ group) : token.line = index + 1 := by
  have spans := getElem?_spansByLine source index
  rw [← map_span_of_linesOfSource read, List.getElem?_map, onLine, Option.map_some] at spans
  rcases Option.map_eq_some_iff.mp spans.symm with ⟨text, _, same⟩
  have onSameLine : token.span ∈ lineSpans (index + 1) text := by
    rw [same]
    exact List.mem_map_of_mem member
  exact line_of_mem_lineSpans onSameLine

theorem exists_run (read : linesOfSource table filename source = .ok lines) {token : Token}
    (member : token ∈ lines.flatten) :
    ∃ index before after,
      (Text.sourceLines source)[index]? = some (before ++ (token.text.toList ++ after)) ∧
      token.line = index + 1 ∧ token.column = before.length + 1 ∧
      Text.RunBetween before token.text.toList after := by
  have spanMember : token.span ∈ (spansByLine source).flatten := by
    rw [← map_span_flatten read]
    exact List.mem_map_of_mem member
  rcases mem_spansByLine_iff.mp spanMember with ⟨index, text, line, onLine⟩
  rcases List.mem_map.mp onLine with ⟨placed, isPlaced, same⟩
  rcases Text.exists_run_of_mem_placedWords isPlaced with ⟨before, after, rfl, start, run⟩
  rcases Span.mk.inj same with ⟨sameLine, sameColumn, sameText⟩
  rw [sameText] at line run
  refine ⟨index, before, after, line, sameLine.symm, ?_, run⟩
  rw [start]
  exact sameColumn.symm

theorem pairwise_precedes (read : linesOfSource table filename source = .ok lines) :
    lines.flatten.Pairwise fun earlier later => earlier.span.Precedes later.span := by
  rw [← List.pairwise_map, map_span_flatten read]
  exact pairwise_spansByLine source

/-- No two tokens cover the same place. -/
theorem eq_of_covers (read : linesOfSource table filename source = .ok lines)
    {token other : Token} (member : token ∈ lines.flatten) (otherMember : other ∈ lines.flatten)
    {line column : Nat} (covers : token.span.Covers line column)
    (otherCovers : other.span.Covers line column) : token = other := by
  rcases List.append_of_mem member with ⟨before, after, split⟩
  have apart := pairwise_precedes read
  rw [split, List.pairwise_append, List.pairwise_cons] at apart
  rw [split, List.mem_append, List.mem_cons] at otherMember
  rcases otherMember with earlier | rfl | later
  · have precedes := apart.2.2 other earlier token List.mem_cons_self
    exact absurd covers (precedes.not_covers otherCovers)
  · rfl
  · have precedes := apart.2.1.1 other later
    exact absurd otherCovers (precedes.not_covers covers)

theorem existsUnique_covers (read : linesOfSource table filename source = .ok lines)
    {index : Nat} {front back : List Char} {character : Char}
    (line : (Text.sourceLines source)[index]? = some (front ++ character :: back))
    (solid : Text.isBlank character = false) :
    ∃! token, token ∈ lines.flatten ∧ token.span.Covers (index + 1) (front.length + 1) := by
  have found : (front ++ character :: back)[front.length]? = some character := by simp
  rcases exists_covers line found solid with ⟨span, member, covers⟩
  rw [← map_span_flatten read] at member
  rcases List.mem_map.mp member with ⟨token, isToken, rfl⟩
  refine ⟨token, ⟨isToken, covers⟩, ?_⟩
  intro other found
  exact eq_of_covers read found.1 isToken found.2 covers

theorem reconstructs (read : linesOfSource table filename source = .ok lines) :
    Reconstructs source lines.flatten lines where
  flatten := rfl
  texts := map_text_of_linesOfSource read
  lineCount := by
    have count := congrArg List.length (map_span_of_linesOfSource read)
    simpa [spansByLine] using count
  numbered _ _ onLine _ member := line_of_linesOfSource read onLine member
  standing _ member := exists_run read member
  increasing := by
    refine (pairwise_precedes read).imp fun {earlier later} precedes => ?_
    rcases precedes with below | ⟨same, behind⟩
    · exact .inl below
    · exact .inr ⟨same, Nat.lt_of_le_of_lt (Nat.le_add_right _ _) behind⟩
  covered before character after split solid := by
    have noLineFeed : character ≠ '\n' := by
      intro same
      subst same
      exact absurd solid (by decide)
    have joined : ['\n'].intercalate (Text.sourceLines source) = before ++ character :: after := by
      rw [Text.sourceLines, List.intercalate_splitOn, split]
    rcases Text.exists_line_of_character noLineFeed joined with ⟨index, front, back, line, same⟩
    exact ⟨index, front, back, line, same, existsUnique_covers read line solid⟩

end Token

/-- The tokens of a source and those of its lines are the same ones, and show where
each word of the source stands; or they are refused with the same error. -/
theorem tokens_reconstruct_source (table : OpcodeTable) (filename source : String) :
    (∀ tokens, Token.ofSource table filename source = .ok tokens →
      ∃ lines, Token.linesOfSource table filename source = .ok lines ∧
        Reconstructs source tokens lines) ∧
    ∀ error, Token.ofSource table filename source = .error error ↔
      Token.linesOfSource table filename source = .error error := by
  rw [Token.ofSource_eq_map_flatten]
  refine ⟨?_, fun error => map_eq_error_iff⟩
  intro tokens read
  rcases map_eq_ok_iff.mp read with ⟨lines, readLines, rfl⟩
  exact ⟨lines, readLines, Token.reconstructs readLines⟩

/-- Two tokens with an empty line between them, the first one behind a separator
that is blank but ends no line. -/
theorem tokens_reconstruct_source_of_empty_line :
    let source := "\x1cOP_DUP\n\n  16"
    let tokens : List Token :=
      [{ meaning := .opcode 0x76, text := "OP_DUP", line := 1, column := 2, filename := "<asm>" },
        { meaning := .smallInteger 0x60, text := "16", line := 3, column := 3,
          filename := "<asm>" }]
    Token.ofSource .standard "<asm>" source = .ok tokens ∧
      ∃ lines, Token.linesOfSource .standard "<asm>" source = .ok lines ∧
        Reconstructs source tokens lines := by
  intro source tokens
  have read : Token.ofSource .standard "<asm>" source = .ok tokens := by decide
  exact ⟨read, (tokens_reconstruct_source .standard "<asm>" source).1 tokens read⟩

end ScriptWorkbench
