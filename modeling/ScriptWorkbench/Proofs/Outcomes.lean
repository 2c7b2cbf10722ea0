import Mathlib.Data.List.Forall2
import Mathlib.Order.Basic
import Mathlib.Tactic.Common

/-!
# Outcomes

When computations that may fail give a result: a mapped one, one that goes on
from another, a list of them, and a fold.
-/

namespace ScriptWorkbench

theorem map_eq_ok_iff {ε α β : Type} {function : α → β} {outcome : Except ε α}
    {value : β} :
    outcome.map function = .ok value ↔
      ∃ found, outcome = .ok found ∧ function found = value := by
  cases outcome <;> simp [Except.map]

theorem map_eq_error_iff {ε α β : Type} {function : α → β} {outcome : Except ε α}
    {error : ε} :
    outcome.map function = .error error ↔ outcome = .error error := by
  cases outcome <;> simp [Except.map]

theorem bind_eq_ok_iff {ε α β : Type} {outcome : Except ε α}
    {next : α → Except ε β} {value : β} :
    (outcome >>= next) = .ok value ↔
      ∃ found, outcome = .ok found ∧ next found = .ok value := by
  cases outcome <;> simp [Bind.bind, Except.bind]

theorem bind_eq_error_iff {ε α β : Type} {outcome : Except ε α}
    {next : α → Except ε β} {error : ε} :
    (outcome >>= next) = .error error ↔
      outcome = .error error ∨ ∃ found, outcome = .ok found ∧ next found = .error error := by
  cases outcome <;> simp [Bind.bind, Except.bind]

theorem pure_eq_ok_iff {ε α : Type} {value other : α} :
    (pure value : Except ε α) = .ok other ↔ value = other := by
  simp [pure, Except.pure]

/-- A computation with a single fault fails as that exactly when it gives no
result. -/
theorem eq_error_iff_of_single {ε α : Type} {outcome : Except ε α} {only error : ε}
    (single : ∀ other, outcome = .error other → other = only) :
    outcome = .error error ↔ (¬∃ value, outcome = .ok value) ∧ error = only := by
  cases outcome with
  | ok value => simp
  | error other =>
      rw [single other rfl]
      simp [eq_comm]

/-- Values that belong to the items of a list are found for each item by itself. -/
theorem exists_forall₂_iff {α β : Type} {relation : α → β → Prop} {items : List α} :
    (∃ values, List.Forall₂ relation items values) ↔
      ∀ item ∈ items, ∃ value, relation item value := by
  induction items with
  | nil => simp
  | cons item items induction =>
      rw [List.forall_mem_cons, ← induction]
      constructor
      · intro related
        rcases related with ⟨_, first | ⟨first, others⟩⟩
        exact ⟨⟨_, first⟩, _, others⟩
      · intro related
        rcases related with ⟨⟨value, first⟩, values, others⟩
        exact ⟨value :: values, .cons first others⟩

/-- A condition on the values alone is apart from the relation of items and values. -/
theorem forall₂_and_right_iff {α β : Type} {relation : α → β → Prop} {condition : β → Prop}
    {items : List α} {values : List β} :
    List.Forall₂ (fun item value => relation item value ∧ condition value) items values ↔
      List.Forall₂ relation items values ∧ ∀ value ∈ values, condition value := by
  induction items generalizing values with
  | nil => simp +contextual
  | cons item items induction =>
      cases values with
      | nil => simp
      | cons value values =>
          rw [List.forall₂_cons, List.forall₂_cons, induction, List.forall_mem_cons]
          exact and_and_and_comm

/-- A list of computations gives a result exactly when each of them does, and
then gives the list of their results. -/
theorem mapM_eq_ok_iff {ε α β : Type} {function : α → Except ε β}
    {items : List α} {values : List β} :
    items.mapM function = .ok values ↔
      List.Forall₂ (fun item value => function item = .ok value) items values := by
  induction items generalizing values with
  | nil =>
      rw [List.mapM_nil, pure_eq_ok_iff, List.forall₂_nil_left_iff, eq_comm]
  | cons item items induction =>
      rw [List.mapM_cons, bind_eq_ok_iff, List.forall₂_cons_left_iff]
      constructor
      · rintro ⟨value, found, rest⟩
        rcases bind_eq_ok_iff.mp rest with ⟨others, foundOthers, equal⟩
        exact ⟨value, others, found, induction.mp foundOthers,
          (pure_eq_ok_iff.mp equal).symm⟩
      · rintro ⟨value, others, found, foundOthers, rfl⟩
        exact ⟨value, found, bind_eq_ok_iff.mpr
          ⟨others, induction.mpr foundOthers, rfl⟩⟩

/-- A list of computations fails as the first of them that does, behind others
that give results. -/
theorem mapM_eq_error_iff {ε α β : Type} {function : α → Except ε β} {items : List α}
    {error : ε} :
    items.mapM function = .error error ↔
      ∃ earlier item later, items = earlier ++ item :: later ∧
        (∀ other ∈ earlier, ∃ value, function other = .ok value) ∧
        function item = .error error := by
  induction items with
  | nil =>
      rw [List.mapM_nil]
      constructor
      · intro impossible
        cases impossible
      · intro failed
        rcases failed with ⟨earlier, item, later, split, _⟩
        simp at split
  | cons first items induction =>
      rw [List.mapM_cons, bind_eq_error_iff]
      constructor
      · intro failed
        rcases failed with failed | ⟨value, found, rest⟩
        · exact ⟨[], first, items, rfl, by simp, failed⟩
        · rcases bind_eq_error_iff.mp rest with failed | ⟨others, _, impossible⟩
          · rcases induction.mp failed with ⟨earlier, item, later, rfl, fine, itemFails⟩
            exact ⟨first :: earlier, item, later, rfl,
              List.forall_mem_cons.mpr ⟨⟨value, found⟩, fine⟩, itemFails⟩
          · cases impossible
      · intro failed
        rcases failed with ⟨earlier, item, later, split, fine, itemFails⟩
        cases earlier with
        | nil =>
            cases split
            exact .inl itemFails
        | cons head earlier =>
            cases split
            rcases List.forall_mem_cons.mp fine with ⟨⟨value, found⟩, others⟩
            have failed := induction.mpr ⟨earlier, item, later, rfl, others, itemFails⟩
            exact .inr ⟨value, found, bind_eq_error_iff.mpr (.inl failed)⟩

/-- A fold of computations fails as the first step that does, behind others that lead
to where it starts from. -/
theorem foldlM_eq_error_iff {ε α β : Type} {step : β → α → Except ε β} {items : List α}
    {start : β} {error : ε} :
    items.foldlM step start = .error error ↔
      ∃ earlier item later reached, items = earlier ++ item :: later ∧
        earlier.foldlM step start = .ok reached ∧ step reached item = .error error := by
  constructor
  · intro failed
    induction items generalizing start with
    | nil => cases failed
    | cons first items induction =>
        rw [List.foldlM_cons, bind_eq_error_iff] at failed
        rcases failed with failed | ⟨next, stepped, failed⟩
        · exact ⟨[], first, items, start, rfl, rfl, failed⟩
        · rcases induction failed with ⟨earlier, item, later, reached, rfl, folded, itemFails⟩
          have foldedAll : (first :: earlier).foldlM step start = .ok reached := by
            rw [List.foldlM_cons]
            exact bind_eq_ok_iff.mpr ⟨next, stepped, folded⟩
          exact ⟨first :: earlier, item, later, reached, rfl, foldedAll, itemFails⟩
  · intro failed
    rcases failed with ⟨earlier, item, later, reached, rfl, folded, itemFails⟩
    rw [List.foldlM_append, bind_eq_error_iff]
    refine .inr ⟨reached, folded, ?_⟩
    rw [List.foldlM_cons, bind_eq_error_iff]
    exact .inl itemFails

/-- Computations that agree up to a translation of their results and errors agree
so as a list too. -/
theorem mapM_map_eq {ε ε' α β γ δ : Type} {function : α → Except ε β}
    {other : γ → Except ε' δ} {item : α → γ} {value : β → δ} {fault : ε → ε'}
    (agree : ∀ one, other (item one) = ((function one).map value).mapError fault)
    (items : List α) :
    (items.map item).mapM other =
      ((items.mapM function).map (List.map value)).mapError fault := by
  induction items with
  | nil => rfl
  | cons one items induction =>
      rw [List.map_cons, List.mapM_cons, List.mapM_cons, agree, induction]
      cases function one with
      | error error => rfl
      | ok found =>
          cases items.mapM function with
          | error error => rfl
          | ok others => rfl

/-- Groups of computations give, up to the first failure, what all of them give
in a row. -/
theorem mapM_flatten {ε α β : Type} (function : α → Except ε β) (groups : List (List α)) :
    groups.flatten.mapM function =
      (groups.mapM fun group : List α => group.mapM function).map List.flatten := by
  induction groups with
  | nil => rfl
  | cons group groups induction =>
      rw [List.flatten_cons, List.mapM_append, List.mapM_cons, induction]
      cases group.mapM function with
      | error error => rfl
      | ok values =>
          cases groups.mapM fun group : List α => group.mapM function with
          | error error => rfl
          | ok others => rfl

end ScriptWorkbench
