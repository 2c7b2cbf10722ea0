import Mathlib.Order.Bounds.Defs
import ScriptWorkbench.Text.EditDistance

/-!
# The least number of edits

The distance that the rows compute is the least number of edits that lead from one text
to the other. This number has a recursion on the first characters. That enough edits
exist follows the recursion. That fewer do not suffice holds because one edit changes the
number by at most one. Each row holds these numbers for the prefixes of the texts.
-/

namespace ScriptWorkbench.Text

/-! ## Edits -/

/-- Whether a text becomes another one when a character is inserted, deleted, or replaced
by another. -/
inductive IsEdit : List Char → List Char → Prop
  | insert (before : List Char) (character : Char) (after : List Char) :
      IsEdit (before ++ after) (before ++ character :: after)
  | delete (before : List Char) (character : Char) (after : List Char) :
      IsEdit (before ++ character :: after) (before ++ after)
  | substitute {character replacement : Char} (different : character ≠ replacement)
      (before after : List Char) :
      IsEdit (before ++ character :: after) (before ++ replacement :: after)

/-- Whether a number of edits leads from a text to another. -/
inductive Edits : Nat → List Char → List Char → Prop
  | none (text : List Char) : Edits 0 text text
  | step {count : Nat} {source between target : List Char} (edit : IsEdit source between)
      (edits : Edits count between target) : Edits (count + 1) source target

theorem IsEdit.cons {source target : List Char} (edit : IsEdit source target) (first : Char) :
    IsEdit (first :: source) (first :: target) := by
  cases edit with
  | insert before character after => exact .insert (first :: before) character after
  | delete before character after => exact .delete (first :: before) character after
  | substitute different before after => exact .substitute different (first :: before) after

theorem IsEdit.reverse {source target : List Char} (edit : IsEdit source target) :
    IsEdit source.reverse target.reverse := by
  cases edit with
  | insert before character after =>
      simpa using IsEdit.insert after.reverse character before.reverse
  | delete before character after =>
      simpa using IsEdit.delete after.reverse character before.reverse
  | substitute different before after =>
      simpa using IsEdit.substitute different after.reverse before.reverse

theorem IsEdit.length_le {source target : List Char} (edit : IsEdit source target) :
    source.length ≤ target.length + 1 ∧ target.length ≤ source.length + 1 := by
  cases edit <;> simp only [List.length_append, List.length_cons] <;> omega

namespace Edits

variable {count more : Nat} {source between target : List Char}

theorem cons (edits : Edits count source target) (first : Char) :
    Edits count (first :: source) (first :: target) := by
  induction edits with
  | none text => exact .none (first :: text)
  | step edit _ induction => exact .step (edit.cons first) induction

theorem reverse (edits : Edits count source target) :
    Edits count source.reverse target.reverse := by
  induction edits with
  | none text => exact .none text.reverse
  | step edit _ induction => exact .step edit.reverse induction

theorem insert_first (edits : Edits count source target) (first : Char) :
    Edits (count + 1) source (first :: target) :=
  .step (.insert [] first source) (edits.cons first)

theorem delete_first (edits : Edits count source target) (first : Char) :
    Edits (count + 1) (first :: source) target :=
  .step (.delete [] first source) edits

theorem substitute_first (edits : Edits count source target) {first other : Char}
    (different : first ≠ other) : Edits (count + 1) (first :: source) (other :: target) :=
  .step (.substitute different [] source) (edits.cons other)

theorem trans (edits : Edits count source between) (others : Edits more between target) :
    Edits (count + more) source target := by
  induction edits with
  | none text => rwa [Nat.zero_add]
  | @step count source between target edit _ induction =>
      rw [Nat.add_right_comm]
      exact .step edit (induction others)

theorem length_le (edits : Edits count source target) :
    source.length ≤ target.length + count ∧ target.length ≤ source.length + count := by
  induction edits with
  | none text => exact ⟨Nat.le_refl _, Nat.le_refl _⟩
  | step edit _ induction =>
      have bounds := edit.length_le
      omega

end Edits

/-! ## The least number of edits -/

/-- The least number of edits, by what happens to the first characters: the one of the
source is deleted, the one of the target is inserted, or one takes the place of the other,
which costs nothing if they are equal. -/
def leastEdits : List Char → List Char → Nat
  | [], target => target.length
  | _ :: source, [] => source.length + 1
  | character :: source, goal :: target =>
      min (leastEdits source target + if character = goal then 0 else 1)
        (min (leastEdits source (goal :: target) + 1) (leastEdits (character :: source) target + 1))

theorem leastEdits_nil_left (target : List Char) : leastEdits [] target = target.length := by
  rw [leastEdits]

theorem leastEdits_nil_right (source : List Char) : leastEdits source [] = source.length := by
  cases source with
  | nil => rw [leastEdits, List.length_nil]
  | cons character source => rw [leastEdits, List.length_cons]

theorem leastEdits_cons_cons (character goal : Char) (source target : List Char) :
    leastEdits (character :: source) (goal :: target) =
      min (leastEdits source target + if character = goal then 0 else 1)
        (min (leastEdits source (goal :: target) + 1)
          (leastEdits (character :: source) target + 1)) := by
  rw [leastEdits]

/-- As many edits as the recursion says lead from one text to the other. -/
theorem edits_leastEdits (source target : List Char) :
    Edits (leastEdits source target) source target := by
  induction source generalizing target with
  | nil =>
      rw [leastEdits_nil_left]
      induction target with
      | nil => exact .none []
      | cons goal target induction => exact induction.insert_first goal
  | cons character source sourceInduction =>
      induction target with
      | nil =>
          have deleted := (sourceInduction []).delete_first character
          rw [leastEdits_nil_right] at deleted ⊢
          exact deleted
      | cons goal target targetInduction =>
          have replaced : Edits (leastEdits source target + if character = goal then 0 else 1)
              (character :: source) (goal :: target) := by
            split
            · next same => exact same ▸ (sourceInduction target).cons character
            · next different => exact (sourceInduction target).substitute_first different
          have deleted := (sourceInduction (goal :: target)).delete_first character
          have inserted := targetInduction.insert_first goal
          have chosen : leastEdits (character :: source) (goal :: target) =
                (leastEdits source target + if character = goal then 0 else 1) ∨
              leastEdits (character :: source) (goal :: target) =
                leastEdits source (goal :: target) + 1 ∨
              leastEdits (character :: source) (goal :: target) =
                leastEdits (character :: source) target + 1 := by
            rw [leastEdits_cons_cons]
            omega
          rcases chosen with chosen | chosen | chosen
          · rwa [chosen]
          · rwa [chosen]
          · rwa [chosen]

theorem leastEdits_comm (source target : List Char) :
    leastEdits source target = leastEdits target source := by
  induction source generalizing target with
  | nil => rw [leastEdits_nil_left, leastEdits_nil_right]
  | cons character source sourceInduction =>
      induction target with
      | nil => rw [leastEdits_nil_left, leastEdits_nil_right]
      | cons goal target targetInduction =>
          rw [leastEdits_cons_cons, leastEdits_cons_cons, sourceInduction, sourceInduction,
            targetInduction, Nat.min_comm (leastEdits (goal :: target) source + 1)]
          simp only [eq_comm]

theorem leastEdits_cons_left_le (character : Char) (source target : List Char) :
    leastEdits (character :: source) target ≤ leastEdits source target + 1 := by
  cases target with
  | nil => simp only [leastEdits_nil_right, List.length_cons, Nat.le_refl]
  | cons goal target =>
      rw [leastEdits_cons_cons]
      omega

theorem leastEdits_cons_right_le (goal : Char) (source target : List Char) :
    leastEdits source (goal :: target) ≤ leastEdits source target + 1 := by
  rw [leastEdits_comm source, leastEdits_comm source]
  exact leastEdits_cons_left_le goal target source

theorem leastEdits_le_cons_left (character : Char) (source target : List Char) :
    leastEdits source target ≤ leastEdits (character :: source) target + 1 := by
  induction target with
  | nil =>
      simp only [leastEdits_nil_right, List.length_cons]
      omega
  | cons goal target induction =>
      have insertsOne := leastEdits_cons_right_le goal source target
      rw [leastEdits_cons_cons]
      omega

theorem leastEdits_le_cons_right (goal : Char) (source target : List Char) :
    leastEdits source target ≤ leastEdits source (goal :: target) + 1 := by
  rw [leastEdits_comm source, leastEdits_comm source]
  exact leastEdits_le_cons_left goal target source

/-- Taking two equal characters together is never worse than an edit of one of them. -/
theorem leastEdits_cons_same (character : Char) (source target : List Char) :
    leastEdits (character :: source) (character :: target) = leastEdits source target := by
  have deleted := leastEdits_le_cons_right character source target
  have inserted := leastEdits_le_cons_left character source target
  rw [leastEdits_cons_cons, if_pos rfl]
  omega

theorem leastEdits_cons_ne {character goal : Char} (different : character ≠ goal)
    (source target : List Char) :
    leastEdits (character :: source) (goal :: target) =
      1 + min (leastEdits source target)
        (min (leastEdits source (goal :: target)) (leastEdits (character :: source) target)) := by
  rw [leastEdits_cons_cons, if_neg different]
  omega

theorem leastEdits_self (text : List Char) : leastEdits text text = 0 := by
  induction text with
  | nil => rw [leastEdits_nil_left, List.length_nil]
  | cons character text induction => rw [leastEdits_cons_same, induction]

theorem leastEdits_replace_le (character replacement : Char) (source target : List Char) :
    leastEdits (character :: source) target ≤ leastEdits (replacement :: source) target + 1 := by
  induction target with
  | nil => simp only [leastEdits_nil_right, List.length_cons, Nat.le_add_right]
  | cons goal target induction =>
      have costsOne : (if character = goal then 0 else 1) ≤ 1 := by split <;> decide
      rw [leastEdits_cons_cons, leastEdits_cons_cons]
      omega

/-- What an edit can save for every target, it can save behind further characters. -/
theorem leastEdits_append_le {source between : List Char}
    (savesOne : ∀ target, leastEdits source target ≤ leastEdits between target + 1)
    (before target : List Char) :
    leastEdits (before ++ source) target ≤ leastEdits (before ++ between) target + 1 := by
  induction before generalizing target with
  | nil => exact savesOne target
  | cons first before beforeInduction =>
      rw [List.cons_append, List.cons_append]
      induction target with
      | nil =>
          have shorter := beforeInduction []
          simp only [leastEdits_nil_right, List.length_cons] at shorter ⊢
          omega
      | cons goal target targetInduction =>
          have replaced := beforeInduction target
          have deleted := beforeInduction (goal :: target)
          rw [leastEdits_cons_cons, leastEdits_cons_cons]
          omega

/-- One edit changes the number of edits to any text by at most one. -/
theorem leastEdits_le_of_isEdit {source between : List Char} (edit : IsEdit source between)
    (target : List Char) : leastEdits source target ≤ leastEdits between target + 1 := by
  cases edit with
  | insert before character after =>
      exact leastEdits_append_le (leastEdits_le_cons_left character after) before target
  | delete before character after =>
      exact leastEdits_append_le (leastEdits_cons_left_le character after) before target
  | @substitute character replacement _ before after =>
      exact leastEdits_append_le (leastEdits_replace_le character replacement after) before target

theorem leastEdits_le_of_edits {count : Nat} {source target : List Char}
    (edits : Edits count source target) : leastEdits source target ≤ count := by
  induction edits with
  | none text => exact Nat.le_of_eq (leastEdits_self text)
  | @step count source between target edit _ induction =>
      have savedOne := leastEdits_le_of_isEdit edit target
      omega

theorem leastEdits_reverse_le (source target : List Char) :
    leastEdits source.reverse target.reverse ≤ leastEdits source target :=
  leastEdits_le_of_edits (edits_leastEdits source target).reverse

/-- It makes no difference from which end the texts are read. -/
theorem leastEdits_reverse (source target : List Char) :
    leastEdits source.reverse target.reverse = leastEdits source target := by
  apply Nat.le_antisymm (leastEdits_reverse_le source target)
  simpa only [List.reverse_reverse] using leastEdits_reverse_le source.reverse target.reverse

/-! ## The rows -/

/-- The least numbers of edits from a text to the prefixes of another, for those that
have at least `before` in them. Both what is read of the texts and `before` have the
character last read in front. -/
def prefixDistances (source : List Char) : (before target : List Char) → List Nat
  | before, [] => [leastEdits source before]
  | before, goal :: target =>
      leastEdits source before :: prefixDistances source (goal :: before) target

theorem headD_prefixDistances (source before target : List Char) :
    (prefixDistances source before target).headD 0 = leastEdits source before := by
  cases target <;> rfl

theorem getLastD_prefixDistances (source before target : List Char) (other : Nat) :
    (prefixDistances source before target).getLastD other =
      leastEdits source (target.reverse ++ before) := by
  induction target generalizing before other with
  | nil => rfl
  | cons goal target induction =>
      rw [prefixDistances, List.getLastD_cons, induction, List.reverse_cons, List.append_assoc,
        List.singleton_append]

theorem prefixDistances_nil (before target : List Char) :
    prefixDistances [] before target = List.range' before.length (target.length + 1) := by
  induction target generalizing before with
  | nil => rw [prefixDistances, leastEdits_nil_left]; rfl
  | cons goal target induction =>
      rw [prefixDistances, induction, leastEdits_nil_left, List.length_cons, List.length_cons,
        ← List.range'_succ]

/-- A row leads to the row for one more character. -/
theorem nextDistances_prefixDistances (character : Char) (source before target : List Char) :
    nextDistances character (leastEdits (character :: source) before) target
        (prefixDistances source before target) =
      prefixDistances (character :: source) before target := by
  induction target generalizing before with
  | nil => rfl
  | cons goal target induction =>
      have entry : (if character = goal then leastEdits source before
          else 1 + min (leastEdits source before)
            (min (leastEdits source (goal :: before)) (leastEdits (character :: source) before))) =
          leastEdits (character :: source) (goal :: before) := by
        split
        · next same => rw [same, leastEdits_cons_same]
        · next different => rw [leastEdits_cons_ne different]
      simp only [nextDistances, prefixDistances, List.headD_cons, List.tail_cons,
        headD_prefixDistances, entry, induction]

/-- The rows that are left lead from the row for what is read to the row for the text. -/
theorem foldl_nextDistances (read source target : List Char) :
    (source.zipIdx read.length).foldl
        (fun row pair => nextDistances pair.1 (pair.2 + 1) target row)
        (prefixDistances read [] target) =
      prefixDistances (source.reverse ++ read) [] target := by
  induction source generalizing read with
  | nil => rfl
  | cons character source induction =>
      have first : leastEdits (character :: read) [] = read.length + 1 := by
        rw [leastEdits_nil_right, List.length_cons]
      have row := nextDistances_prefixDistances character read [] target
      have rest := induction (character :: read)
      rw [first] at row
      rw [List.length_cons] at rest
      rw [List.zipIdx_cons, List.foldl_cons, row, rest, List.reverse_cons, List.append_assoc,
        List.singleton_append]

theorem distanceRow_eq (source target : List Char) :
    distanceRow source target = prefixDistances source.reverse [] target := by
  have run := foldl_nextDistances [] source target
  rw [prefixDistances_nil, List.length_nil, ← List.range_eq_range', List.append_nil] at run
  exact run

theorem getLastD_distanceRow (source target : List Char) :
    (distanceRow source target).getLastD 0 = leastEdits source target := by
  rw [distanceRow_eq, getLastD_prefixDistances, List.append_nil, leastEdits_reverse]

theorem editDistance_eq_leastEdits (source target : List Char) :
    editDistance source target = leastEdits source target := by
  rw [editDistance, getLastD_distanceRow, getLastD_distanceRow, leastEdits_comm target, ite_self]

/-! ## The distance -/

/-- The distance is the least number of edits that lead from one text to the other. -/
theorem isLeast_editDistance (source target : List Char) :
    IsLeast {count | Edits count source target} (editDistance source target) := by
  rw [editDistance_eq_leastEdits]
  exact ⟨edits_leastEdits source target, fun _ => leastEdits_le_of_edits⟩

theorem editDistance_le_iff {count : Nat} {source target : List Char} :
    editDistance source target ≤ count ↔ ∃ fewer ≤ count, Edits fewer source target := by
  rcases isLeast_editDistance source target with ⟨edits, least⟩
  constructor
  · exact fun bound => ⟨_, bound, edits⟩
  · intro reached
    rcases reached with ⟨fewer, bound, edits⟩
    exact Nat.le_trans (least edits) bound

theorem editDistance_eq_zero_iff {source target : List Char} :
    editDistance source target = 0 ↔ source = target := by
  rw [editDistance_eq_leastEdits]
  constructor
  · intro none
    have edits := edits_leastEdits source target
    rw [none] at edits
    cases edits
    rfl
  · intro same
    rw [same]
    exact leastEdits_self target

theorem editDistance_triangle (source between target : List Char) :
    editDistance source target ≤ editDistance source between + editDistance between target := by
  simp only [editDistance_eq_leastEdits]
  exact leastEdits_le_of_edits
    ((edits_leastEdits source between).trans (edits_leastEdits between target))

/-- Whether a function of two texts is the least number of edits between them, with the
laws that follow: those of a metric, and that each edit changes the length by at most one. -/
structure CountsEdits (distance : List Char → List Char → Nat) : Prop where
  least : ∀ source target, IsLeast {count | Edits count source target} (distance source target)
  comm : ∀ source target, distance source target = distance target source
  eq_zero_iff : ∀ source target, distance source target = 0 ↔ source = target
  triangle : ∀ source between target,
    distance source target ≤ distance source between + distance between target
  length_sub_le : ∀ source target : List Char,
    source.length - target.length ≤ distance source target ∧
      target.length - source.length ≤ distance source target

theorem countsEdits_editDistance : CountsEdits editDistance where
  least := isLeast_editDistance
  comm source target := by
    rw [editDistance_eq_leastEdits, editDistance_eq_leastEdits, leastEdits_comm]
  eq_zero_iff _ _ := editDistance_eq_zero_iff
  triangle := editDistance_triangle
  length_sub_le source target := by
    have bounds := (isLeast_editDistance source target).1.length_le
    omega

end ScriptWorkbench.Text
