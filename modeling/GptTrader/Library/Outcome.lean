import Mathlib.Data.List.Forall2
import Mathlib.Tactic.Common

/-!
# Outcomes of raising functions

Inversion rules for `Except`: what a normal return of a composed computation
says about its parts.
-/

namespace GptTrader

namespace Outcome

variable {ε δ α β : Type}

theorem bind_eq_ok {outcome : Except ε α} {next : α → Except ε β} {result : β} :
    (outcome >>= next) = .ok result ↔
      ∃ value, outcome = .ok value ∧ next value = .ok result := by
  cases outcome with
  | error error => simp [bind, Except.bind]
  | ok value => simp [bind, Except.bind]

theorem bind_eq_error {outcome : Except ε α} {next : α → Except ε β}
    {error : ε} :
    (outcome >>= next) = .error error ↔
      outcome = .error error ∨
        ∃ value, outcome = .ok value ∧ next value = .error error := by
  cases outcome with
  | error other => simp [bind, Except.bind]
  | ok value => simp [bind, Except.bind]

theorem mapError_eq_ok {outcome : Except ε α} {wrap : ε → δ} {value : α} :
    outcome.mapError wrap = .ok value ↔ outcome = .ok value := by
  cases outcome with
  | error error => simp [Except.mapError]
  | ok found => simp [Except.mapError]

theorem toOption_eq_some {outcome : Except ε α} {value : α} :
    outcome.toOption = some value ↔ outcome = .ok value := by
  cases outcome <;> simp [Except.toOption]

theorem map_eq_ok {outcome : Except ε α} {change : α → β} {result : β} :
    outcome.map change = .ok result ↔
      ∃ value, outcome = .ok value ∧ change value = result := by
  cases outcome with
  | error error => simp [Except.map]
  | ok value => simp [Except.map]

theorem guard_eq_ok {condition : Prop} [Decidable condition] {error : ε}
    {outcome : Except ε α} {value : α} :
    (if condition then .error error else outcome) = .ok value ↔
      ¬condition ∧ outcome = .ok value := by
  split <;> simp_all

theorem branch_eq_ok {condition : Prop} [Decidable condition] {error : ε}
    {outcome : Except ε α} {value : α} :
    (if condition then outcome else .error error) = .ok value ↔
      condition ∧ outcome = .ok value := by
  split <;> simp_all

theorem mapM_eq_ok {items : List α} {change : α → Except ε β}
    {results : List β} :
    items.mapM change = .ok results ↔
      List.Forall₂ (fun item result => change item = .ok result) items
        results := by
  induction items generalizing results with
  | nil =>
      rw [List.forall₂_nil_left_iff]
      constructor
      · intro returned
        cases returned
        rfl
      · rintro rfl
        rfl
  | cons item rest induction =>
      rw [List.mapM_cons, bind_eq_ok]
      constructor
      · rintro ⟨first, changed, returned⟩
        obtain ⟨others, traversed, finished⟩ := bind_eq_ok.mp returned
        cases finished
        exact .cons changed (induction.mp traversed)
      · rintro (_ | ⟨changed, traversed⟩)
        exact ⟨_, changed, bind_eq_ok.mpr ⟨_, induction.mpr traversed, rfl⟩⟩

section

variable {items : List α} {change : α → Except ε β}

include items change

theorem mem_mapM {results : List β} {result : β}
    (traversed : items.mapM change = .ok results) (member : result ∈ results) : ∃ item ∈ items, change item = .ok result := by
  have each := mapM_eq_ok.mp traversed
  clear traversed
  induction each with
  | nil => cases member
  | cons changed rest induction =>
      rcases List.mem_cons.mp member with rfl | later
      · exact ⟨_, by simp, changed⟩
      · obtain ⟨item, found, same⟩ := induction later
        exact ⟨item, by simp [found], same⟩

theorem exists_mapM :
    (∃ results, items.mapM change = .ok results) ↔
      ∀ item ∈ items, ∃ result, change item = .ok result := by
  simp only [mapM_eq_ok]
  induction items with
  | nil => simp
  | cons item rest induction =>
      rw [List.forall_mem_cons, ← induction]
      constructor
      · rintro ⟨_, _ | ⟨changed, traversed⟩⟩
        exact ⟨⟨_, changed⟩, _, traversed⟩
      · rintro ⟨⟨_, changed⟩, _, traversed⟩
        exact ⟨_, .cons changed traversed⟩

theorem result_mem_mapM {results : List β} {item : α}
    (traversed : items.mapM change = .ok results) (member : item ∈ items) :
    ∃ result ∈ results, change item = .ok result := by
  have each := mapM_eq_ok.mp traversed
  clear traversed
  induction each with
  | nil => cases member
  | cons changed rest induction =>
      rcases List.mem_cons.mp member with rfl | later
      · exact ⟨_, by simp, changed⟩
      · obtain ⟨result, found, same⟩ := induction later
        exact ⟨result, by simp [found], same⟩

end

theorem forM_eq_ok {items : List α} {check : α → Except ε Unit} :
    items.forM check = .ok () ↔ ∀ item ∈ items, check item = .ok () := by
  induction items with
  | nil => exact iff_of_true rfl (by simp)
  | cons item rest induction =>
      rw [List.forall_mem_cons, ← induction]
      constructor
      · intro checked
        obtain ⟨_, head, tail⟩ := bind_eq_ok.mp checked
        exact ⟨head, tail⟩
      · rintro ⟨head, tail⟩
        exact bind_eq_ok.mpr ⟨(), head, tail⟩

theorem map_mapM {items : List α} {change : α → Except ε β} {results : List β}
    {key : β → α} (traversed : items.mapM change = .ok results)
    (keyed : ∀ item result, change item = .ok result → key result = item) :
    results.map key = items := by
  have each := mapM_eq_ok.mp traversed
  rw [← List.forall₂_eq_eq_eq, List.forall₂_map_left_iff]
  exact each.flip.imp fun result item changed => keyed item result changed

/-- Both computations raise the same, or both return, and the values are
related. -/
inductive Matches (relation : α → β → Prop) :
    Except ε α → Except ε β → Prop where
  | ok {left : α} {right : β} (related : relation left right) :
      Matches relation (.ok left) (.ok right)
  | error (error : ε) : Matches relation (.error error) (.error error)

section

variable {γ ρ : Type} {relation : α → β → Prop} {further : γ → ρ → Prop}
variable {left : Except ε α} {right : Except ε β}

include γ ρ relation further left right

theorem matches_bind {leftNext : α → Except ε γ} {rightNext : β → Except ε ρ}
    (first : Matches relation left right)
    (rest : ∀ leftValue rightValue, relation leftValue rightValue →
      Matches further (leftNext leftValue) (rightNext rightValue)) :
    Matches further (left >>= leftNext) (right >>= rightNext) := by
  cases first with
  | ok related => exact rest _ _ related
  | error error => exact .error error

theorem matches_map {leftChange : α → γ} {rightChange : β → ρ}
    (first : Matches relation left right)
    (changed : ∀ leftValue rightValue, relation leftValue rightValue →
      further (leftChange leftValue) (rightChange rightValue)) :
    Matches further (left.map leftChange) (right.map rightChange) := by
  cases first with
  | ok related => exact .ok (changed _ _ related)
  | error error => exact .error error

end

theorem mapM_map {items : List δ} {before : δ → Except ε α}
    {after : δ → Except ε β} {change : α → β}
    (alike : ∀ item ∈ items, after item = (before item).map change) :
    items.mapM after = (items.mapM before).map fun results =>
      results.map change := by
  induction items with
  | nil => rfl
  | cons item rest induction =>
      rw [List.mapM_cons, List.mapM_cons, alike item (List.mem_cons_self ..),
        induction fun other member => alike other (List.mem_cons_of_mem _ member)]
      cases before item with
      | error error => rfl
      | ok result =>
          cases rest.mapM before <;> rfl

theorem foldlM_map {before : α → δ → Except ε α}
    {after : β → δ → Except ε β} {change : α → β}
    (alike : ∀ value item,
      after (change value) item = (before value item).map change)
    (items : List δ) (start : α) :
    items.foldlM after (change start) = (items.foldlM before start).map change := by
  induction items generalizing start with
  | nil => rfl
  | cons item rest induction =>
      rw [List.foldlM_cons, List.foldlM_cons, alike]
      cases before start item with
      | error error => rfl
      | ok next => exact induction next

theorem foldlM_induction {items : List δ} {step : α → δ → Except ε α}
    (property : α → Prop) {start result : α} (initial : property start)
    (kept : ∀ value item next, property value → step value item = .ok next →
      property next)
    (folded : items.foldlM step start = .ok result) : property result := by
  induction items generalizing start with
  | nil =>
      cases folded
      exact initial
  | cons item rest induction =>
      rw [List.foldlM_cons, bind_eq_ok] at folded
      obtain ⟨next, stepped, folded⟩ := folded
      exact induction (kept _ _ _ initial stepped) folded

end Outcome

end GptTrader
