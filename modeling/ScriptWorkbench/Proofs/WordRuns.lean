import ScriptWorkbench.Proofs.Words

/-!
# Words as runs

The words of a text are its longest runs of characters that are not blank, and
they are placed where these runs start. A text is read from its front: it is
empty, or it starts with a blank, or it starts with a word behind which a blank
or nothing follows.
-/

namespace ScriptWorkbench.Text

/-! ## Ends of texts -/

/-- Whether a text goes on with a blank or not at all. -/
def StartsBlank (text : List Char) : Prop :=
  ∀ character, text.head? = some character → isBlank character = true

/-- Whether nothing but a blank stands at the end of a text. -/
def EndsBlank (text : List Char) : Prop :=
  ∀ character, text.getLast? = some character → isBlank character = true

theorem startsBlank_cons {character : Char} {rest : List Char} :
    StartsBlank (character :: rest) ↔ isBlank character = true := by
  simp [StartsBlank]

theorem endsBlank_nil : EndsBlank [] := by
  intro character found
  cases found

theorem endsBlank_concat {text : List Char} {character : Char} :
    EndsBlank (text ++ [character]) ↔ isBlank character = true := by
  simp [EndsBlank]

/-- What ends behind other text ends as before, if there is any of it. -/
theorem endsBlank_append {text more : List Char} (nonempty : more ≠ []) :
    EndsBlank (text ++ more) ↔ EndsBlank more := by
  rw [EndsBlank, EndsBlank, List.getLast?_append_of_ne_nil _ nonempty]

theorem startsBlank_dropWhile (text : List Char) :
    StartsBlank (text.dropWhile fun character => !isBlank character) := by
  intro character found
  have stopped := List.head?_dropWhile_not (fun character => !isBlank character) text
  rw [found] at stopped
  simpa using stopped

theorem IsWord.not_startsBlank {word rest : List Char} (isWord : IsWord word) :
    ¬StartsBlank (word ++ rest) := by
  rcases List.exists_cons_of_ne_nil isWord.1 with ⟨first, others, rfl⟩
  rw [List.cons_append, startsBlank_cons, isWord.2 first List.mem_cons_self]
  exact Bool.false_ne_true

/-- What holds of the empty text, behind a blank of what it holds of, and
behind a whole word of what it holds of, holds of all texts. Each blank and each
word shortens what is left, so the induction is on the number of characters. -/
@[elab_as_elim]
theorem words_induction {motive : List Char → Prop} (nil : motive [])
    (blank : ∀ character rest, isBlank character = true → motive rest →
      motive (character :: rest))
    (word : ∀ word rest, IsWord word → StartsBlank rest → motive rest → motive (word ++ rest))
    (text : List Char) : motive text := by
  generalize count : text.length = length
  induction length using Nat.strongRecOn generalizing text with
  | ind length induction =>
      cases text with
      | nil => exact nil
      | cons first text =>
          by_cases isBlankFirst : isBlank first = true
          · refine blank first text isBlankFirst (induction text.length ?_ text rfl)
            rw [← count, List.length_cons]
            exact Nat.lt_succ_self _
          · let solid := fun character => !isBlank character
            have isSolid : solid first = true := by simpa [solid] using isBlankFirst
            have split : (first :: text).takeWhile solid ++ text.dropWhile solid =
                first :: text := by
              rw [List.takeWhile_cons_of_pos isSolid, List.cons_append,
                List.takeWhile_append_dropWhile]
            have isWord : IsWord ((first :: text).takeWhile solid) := by
              refine ⟨by simp [List.takeWhile_cons_of_pos isSolid], fun character member => ?_⟩
              have inside := List.all_eq_true.mp List.all_takeWhile character member
              simpa [solid] using inside
            rw [← split]
            refine word _ _ isWord (startsBlank_dropWhile text) (induction _ ?_ _ rfl)
            have shorter := (List.dropWhile_suffix (l := text) solid).length_le
            rw [← count, List.length_cons]
            omega

/-! ## Words from the front -/

theorem words_cons_of_blank {character : Char} (rest : List Char)
    (blank : isBlank character = true) : words (character :: rest) = words rest :=
  words_append_cons [] rest blank

theorem words_append_of_startsBlank {word rest : List Char} (isWord : IsWord word)
    (startsBlank : StartsBlank rest) : words (word ++ rest) = word :: words rest := by
  cases rest with
  | nil => rw [List.append_nil, words_of_isWord isWord, words_nil]
  | cons character rest =>
      have blank := startsBlank_cons.mp startsBlank
      rw [words_append_cons word rest blank, words_of_isWord isWord,
        words_cons_of_blank rest blank, List.singleton_append]

theorem isWord_of_mem_words {text word : List Char} (member : word ∈ words text) :
    IsWord word := by
  induction text using words_induction with
  | nil => cases member
  | blank character rest blank induction =>
      rw [words_cons_of_blank rest blank] at member
      exact induction member
  | word first rest isWord startsBlank induction =>
      rw [words_append_of_startsBlank isWord startsBlank] at member
      rcases List.mem_cons.mp member with rfl | later
      · exact isWord
      · exact induction later

/-! ## Runs -/

/-- Whether a text is a longest run of characters that are not blank, between
what stands before it and what stands behind it. -/
structure RunBetween (before word after : List Char) : Prop where
  isWord : IsWord word
  endsBlank : EndsBlank before
  startsBlank : StartsBlank after

theorem RunBetween.words_eq {before word after : List Char}
    (run : RunBetween before word after) :
    words (before ++ (word ++ after)) = words before ++ word :: words after := by
  have front := words_append_of_startsBlank run.isWord run.startsBlank
  rcases List.eq_nil_or_concat before with rfl | ⟨earlier, last, rfl⟩
  · exact front
  · rw [List.concat_eq_append] at run ⊢
    have blank := endsBlank_concat.mp run.endsBlank
    rw [List.append_assoc, List.singleton_append, words_append_cons earlier _ blank, front,
      words_append_cons earlier [] blank, words_nil, List.append_nil]

theorem RunBetween.cons_of_blank {before word after : List Char} {character : Char}
    (blank : isBlank character = true) (run : RunBetween before word after) :
    RunBetween (character :: before) word after := by
  refine ⟨run.isWord, ?_, run.startsBlank⟩
  rcases List.eq_nil_or_concat before with rfl | ⟨front, last, rfl⟩
  · rw [← List.nil_append [character]]
    exact endsBlank_concat.mpr blank
  · rw [← List.singleton_append, endsBlank_append (by simp)]
    exact run.endsBlank

/-- Something stands before a run of a text that starts with a blank. -/
theorem RunBetween.exists_cons {before word after : List Char}
    (startsBlank : StartsBlank (before ++ (word ++ after))) (run : RunBetween before word after) :
    ∃ character others, before = character :: others ∧ isBlank character = true := by
  cases before with
  | nil => exact absurd startsBlank run.isWord.not_startsBlank
  | cons character others => exact ⟨character, others, rfl, startsBlank_cons.mp startsBlank⟩

theorem RunBetween.startsBlank_before {before word after : List Char}
    (startsBlank : StartsBlank (before ++ (word ++ after))) (run : RunBetween before word after) :
    StartsBlank before := by
  rcases run.exists_cons startsBlank with ⟨character, others, rfl, blank⟩
  exact startsBlank_cons.mpr blank

theorem RunBetween.append {before word after : List Char} (first : List Char)
    (startsBlank : StartsBlank (before ++ (word ++ after))) (run : RunBetween before word after) :
    RunBetween (first ++ before) word after := by
  rcases run.exists_cons startsBlank with ⟨character, others, rfl, _⟩
  refine ⟨run.isWord, ?_, run.startsBlank⟩
  rw [endsBlank_append (List.cons_ne_nil _ _)]
  exact run.endsBlank

/-- Each word of a text is a run of it, with the earlier words before it and the
later ones behind it. -/
theorem exists_runBetween {text word : List Char} {earlier later : List (List Char)}
    (split : words text = earlier ++ word :: later) :
    ∃ before after, text = before ++ (word ++ after) ∧ RunBetween before word after ∧
      words before = earlier ∧ words after = later := by
  induction text using words_induction generalizing earlier with
  | nil => simp at split
  | blank character rest blank induction =>
      rw [words_cons_of_blank rest blank] at split
      rcases induction split with ⟨before, after, rfl, run, rfl, rfl⟩
      exact ⟨character :: before, after, rfl, run.cons_of_blank blank,
        words_cons_of_blank before blank, rfl⟩
  | word first rest isWord startsBlank induction =>
      rw [words_append_of_startsBlank isWord startsBlank] at split
      cases earlier with
      | nil =>
          rcases List.cons.inj split with ⟨rfl, rfl⟩
          exact ⟨[], rest, rfl, ⟨isWord, endsBlank_nil, startsBlank⟩, rfl, rfl⟩
      | cons head earlier =>
          rcases List.cons.inj split with ⟨rfl, others⟩
          rcases induction others with ⟨before, after, rfl, run, rfl, rfl⟩
          exact ⟨first ++ before, after, (List.append_assoc _ _ _).symm,
            run.append first startsBlank,
            words_append_of_startsBlank isWord (run.startsBlank_before startsBlank), rfl⟩

theorem mem_words_iff {text word : List Char} :
    word ∈ words text ↔
      ∃ before after, text = before ++ (word ++ after) ∧ RunBetween before word after := by
  constructor
  · intro member
    rcases List.append_of_mem member with ⟨earlier, later, split⟩
    rcases exists_runBetween split with ⟨before, after, same, run, _⟩
    exact ⟨before, after, same, run⟩
  · intro placed
    rcases placed with ⟨before, after, rfl, run⟩
    rw [run.words_eq]
    exact List.mem_append_right _ List.mem_cons_self

end ScriptWorkbench.Text
