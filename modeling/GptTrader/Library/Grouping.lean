import Mathlib.Data.List.Basic
import Mathlib.Data.List.Forall2
import Mathlib.Order.Defs.LinearOrder
import Mathlib.Tactic.Common
import Mathlib.Order.Lattice

/-!
# Folding over the groups of a sorted list

A list sorted by a key is the concatenation of its groups, one for every key.
When the members of each group may be folded in any order, every list that is
sorted by the key and has the same members folds to the same state.
-/

namespace GptTrader

namespace Grouping

variable {α σ κ : Type*}

section Groups

variable [LinearOrder κ] (key : α → κ)

/-- The items of one key together, by first appearance. -/
def groups (items : List α) : List (List α) :=
  (items.map key).eraseDups.map fun value =>
    items.filter fun item => decide (key item = value)

theorem groups_cons (first : α) (rest : List α) :
    groups key (first :: rest) =
      (first :: rest).filter (fun item => decide (key item = key first)) ::
        groups key (rest.filter fun item => decide (key item ≠ key first)) := by
  unfold groups
  rw [List.map_cons, List.eraseDups_cons, List.map_cons]
  congr 1
  have keys : (rest.map key).filter (fun value => !value == key first) =
      (rest.filter fun item => decide (key item ≠ key first)).map key := by
    rw [List.filter_map]
    congr 1
    apply List.filter_congr
    intro item _
    by_cases same : key item = key first <;> simp [same]
  rw [keys]
  apply List.map_congr_left
  intro value member
  rw [List.mem_eraseDups, List.mem_map] at member
  obtain ⟨other, kept, rfl⟩ := member
  have different : key other ≠ key first := by
    simpa using (List.mem_filter.mp kept).2
  rw [List.filter_filter, List.filter_cons_of_neg (by simpa using different.symm)]
  apply List.filter_congr
  intro item _
  by_cases same : key item = key other
  · simp [same, different]
  · simp [same]

variable {key}

theorem filter_append_filter {least : κ} {items : List α}
    (bound : ∀ item ∈ items, least ≤ key item)
    (sorted : items.Pairwise fun left right => key left ≤ key right) :
    items.filter (fun item => decide (key item = least)) ++
        items.filter (fun item => decide (key item ≠ least)) = items := by
  induction items with
  | nil => rfl
  | cons next rest induction =>
      obtain ⟨nextLeast, restSorted⟩ := List.pairwise_cons.mp sorted
      have restBound : ∀ item ∈ rest, least ≤ key item :=
        fun item member => bound item (.tail _ member)
      by_cases same : key next = least
      · rw [List.filter_cons_of_pos (by simpa using same),
          List.filter_cons_of_neg (by simpa using same), List.cons_append,
          induction restBound restSorted]
      · -- Everything from here on has a larger key.
        have larger : ∀ item ∈ next :: rest, key item ≠ least := by
          intro item member equal
          have low : least ≤ key next := bound next (.head _)
          rcases List.mem_cons.mp member with rfl | later
          · exact same equal
          · exact same (le_antisymm (equal ▸ nextLeast item later) low)
        rw [List.filter_eq_nil_iff.mpr (by simpa using larger),
          List.filter_eq_self.mpr (by simpa using larger), List.nil_append]

theorem flatten_groups : ∀ {items : List α},
    (items.Pairwise fun left right => key left ≤ key right) →
    (groups key items).flatten = items
  | [], _ => rfl
  | first :: rest, sorted => by
      have restSorted := (List.pairwise_cons.mp sorted).2
      have bound : ∀ item ∈ first :: rest, key first ≤ key item := by
        intro item member
        rcases List.mem_cons.mp member with rfl | later
        · exact le_rfl
        · exact (List.pairwise_cons.mp sorted).1 item later
      have others : (first :: rest).filter
            (fun item => decide (key item ≠ key first)) =
          rest.filter fun item => decide (key item ≠ key first) :=
        List.filter_cons_of_neg (by simp)
      have split := filter_append_filter bound sorted
      rw [others] at split
      rw [groups_cons, List.flatten_cons,
        flatten_groups (restSorted.filter _), split]
termination_by items => items.length
decreasing_by
  have shorter := List.length_filter_le
    (fun item => decide (key item ≠ key first)) rest
  rw [List.length_cons]
  omega

theorem groups_perm {left right : List α}
    (leftSorted : left.Pairwise fun first second => key first ≤ key second)
    (rightSorted : right.Pairwise fun first second => key first ≤ key second)
    (perm : left.Perm right) :
    List.Forall₂ List.Perm (groups key left) (groups key right) := by
  have keys : left.map key = right.map key :=
    List.Perm.eq_of_pairwise (fun _ _ _ _ => le_antisymm)
      (List.pairwise_map.mpr leftSorted) (List.pairwise_map.mpr rightSorted)
      (perm.map key)
  unfold groups
  rw [keys, List.forall₂_map_left_iff, List.forall₂_map_right_iff]
  exact List.forall₂_same.mpr fun _ _ => perm.filter _

end Groups

section Folding

variable {step : σ → α → σ}

/-- A condition on a state and the items still to come lets them be folded in
any order, when it survives a step and adjacent items may be swapped. -/
theorem foldl_perm (Fits : σ → List α → Prop)
    (ofPerm : ∀ state left right, left.Perm right → Fits state left →
      Fits state right)
    (tail : ∀ state item rest, Fits state (item :: rest) →
      Fits (step state item) rest)
    (swap : ∀ state first second rest, Fits state (first :: second :: rest) →
      step (step state first) second = step (step state second) first)
    {state : σ} {left right : List α} (perm : left.Perm right)
    (fits : Fits state left) : left.foldl step state = right.foldl step state := by
  induction perm generalizing state with
  | nil => rfl
  | cons item _ induction => exact induction (tail _ _ _ fits)
  | swap second first rest =>
      rw [List.foldl_cons, List.foldl_cons, List.foldl_cons, List.foldl_cons,
        swap state first second rest fits]
  | trans firstPerm _ firstInduction secondInduction =>
      exact (firstInduction fits).trans
        (secondInduction (ofPerm _ _ _ firstPerm fits))

variable (step) (Ready : σ → List α → Prop)

/-- Each group is ready when its turn comes. -/
def Along : σ → List (List α) → Prop
  | _, [] => True
  | state, group :: rest =>
      Ready state group ∧ Along (group.foldl step state) rest

variable {step Ready}

theorem foldl_flatten_perm
    (any : ∀ state left right, left.Perm right → Ready state left →
      left.foldl step state = right.foldl step state)
    {left right : List (List α)} (perms : List.Forall₂ List.Perm left right)
    {state : σ} (along : Along step Ready state left) :
    left.flatten.foldl step state = right.flatten.foldl step state := by
  induction perms generalizing state with
  | nil => rfl
  | cons perm _ induction =>
      rw [List.flatten_cons, List.flatten_cons, List.foldl_append,
        List.foldl_append, ← any _ _ _ perm along.1]
      exact induction along.2

theorem foldl_sorted_perm [LinearOrder κ] (key : α → κ)
    (any : ∀ state left right, left.Perm right → Ready state left →
      left.foldl step state = right.foldl step state)
    {left right : List α}
    (leftSorted : left.Pairwise fun first second => key first ≤ key second)
    (rightSorted : right.Pairwise fun first second => key first ≤ key second)
    (perm : left.Perm right) {state : σ}
    (along : Along step Ready state (groups key left)) :
    left.foldl step state = right.foldl step state := by
  have folded := foldl_flatten_perm any
    (groups_perm leftSorted rightSorted perm) along
  rwa [flatten_groups leftSorted, flatten_groups rightSorted] at folded

end Folding

end Grouping

end GptTrader
