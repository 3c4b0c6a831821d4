import Mathlib.Algebra.BigOperators.Group.List.Basic
import Mathlib.Algebra.Order.BigOperators.Group.List
import Mathlib.Algebra.Order.Field.Rat
import Mathlib.Tactic.Linarith
import GptTrader.Library.Dict

/-!
# Removing keys and adding up values

Popping a key of a dictionary, and how a sum over the entries changes when one
key is set or popped.
-/

namespace GptTrader

namespace Dict

variable {κ ν : Type} [DecidableEq κ]

/-- `dict.pop(key, None)`. -/
def erase (dict : Dict κ ν) (key : κ) : Dict κ ν :=
  { entries := dict.entries.filter fun entry => decide (entry.1 ≠ key)
    nodup := (List.filter_sublist.map Prod.fst).nodup dict.nodup }

theorem mem_entries_erase {dict : Dict κ ν} {key other : κ} {value : ν} :
    (other, value) ∈ (dict.erase key).entries ↔
      other ≠ key ∧ (other, value) ∈ dict.entries := by
  unfold erase
  rw [List.mem_filter, decide_eq_true_iff, and_comm]

theorem get?_erase (dict : Dict κ ν) (key other : κ) :
    (dict.erase key).get? other =
      if other = key then none else dict.get? other := by
  apply Option.ext
  intro value
  rw [get?_eq_some_iff, mem_entries_erase]
  by_cases same : other = key
  · simp [same]
  · simp [same, get?_eq_some_iff]

/-- The sum of the weights of all entries. -/
def sumBy (weight : κ → ν → ℚ) (dict : Dict κ ν) : ℚ :=
  (dict.entries.map fun entry => weight entry.1 entry.2).sum

def weightAt (weight : κ → ν → ℚ) (dict : Dict κ ν) (key : κ) : ℚ :=
  (dict.get? key).elim 0 (weight key)

variable (weight : κ → ν → ℚ) (dict : Dict κ ν) (key : κ)

omit [DecidableEq κ] in
@[simp] theorem sumBy_empty : (empty : Dict κ ν).sumBy weight = 0 :=
  rfl

theorem sum_filter_ne (entries : List (κ × ν))
    (nodup : (entries.map Prod.fst).Nodup) :
    ((entries.filter fun entry => decide (entry.1 ≠ key)).map fun entry =>
        weight entry.1 entry.2).sum +
      ((entries.find? fun entry => decide (entry.1 = key)).elim 0
        fun entry => weight entry.1 entry.2) =
      (entries.map fun entry => weight entry.1 entry.2).sum := by
  induction entries with
  | nil => exact add_zero _
  | cons entry rest induction =>
      rw [List.map_cons, List.nodup_cons] at nodup
      by_cases same : entry.1 = key
      · have others : rest.filter (fun entry => decide (entry.1 ≠ key)) =
            rest := by
          rw [List.filter_eq_self]
          intro other member
          rw [decide_eq_true_iff]
          rintro equal
          exact nodup.1 (List.mem_map.mpr ⟨other, member, equal.trans same.symm⟩)
        rw [List.filter_cons_of_neg (by simpa using same),
          List.find?_cons_of_pos (by simpa using same), others, List.map_cons,
          List.sum_cons]
        exact add_comm _ _
      · rw [List.filter_cons_of_pos (by simpa using same),
          List.find?_cons_of_neg (by simpa using same), List.map_cons,
          List.map_cons, List.sum_cons, List.sum_cons, add_assoc,
          induction nodup.2]

theorem sumBy_erase :
    (dict.erase key).sumBy weight =
      dict.sumBy weight - dict.weightAt weight key := by
  have split := sum_filter_ne weight key dict.entries dict.nodup
  have weighed : dict.weightAt weight key =
      (dict.entries.find? fun entry => decide (entry.1 = key)).elim 0
        fun entry => weight entry.1 entry.2 := by
    unfold weightAt get?
    cases found : dict.entries.find? fun entry => decide (entry.1 = key) with
    | none => rfl
    | some entry =>
        have same : entry.1 = key := by simpa using List.find?_some found
        rw [← same]
        rfl
  unfold sumBy erase
  dsimp only
  rw [weighed]
  linarith

theorem sumBy_set (value : ν) :
    (dict.set key value).sumBy weight =
      dict.sumBy weight - dict.weightAt weight key + weight key value := by
  have erased : ((dict.set key value).erase key).entries =
      (dict.erase key).entries := by
    unfold set erase
    split
    · dsimp only
      rw [List.filter_map]
      have same : ∀ entry : κ × ν,
          decide ((replaceValue key value entry).1 ≠ key) =
            decide (entry.1 ≠ key) := by
        intro entry
        by_cases equal : entry.1 = key <;> simp [replaceValue, equal]
      have unchanged : ∀ entry ∈ dict.entries.filter
          fun entry => decide (entry.1 ≠ key),
          replaceValue key value entry = id entry := by
        intro entry member
        have different := (List.mem_filter.mp member).2
        rw [decide_eq_true_iff] at different
        exact if_neg different
      simp only [Function.comp_def, same]
      exact (List.map_congr_left unchanged).trans (List.map_id _)
    · simp
  have removed := sumBy_erase weight (dict.set key value) key
  have kept := sumBy_erase weight dict key
  have weighed : (dict.set key value).weightAt weight key = weight key value := by
    unfold weightAt
    rw [get?_set_self]
    rfl
  have same : ((dict.set key value).erase key).sumBy weight =
      (dict.erase key).sumBy weight := by
    unfold sumBy
    rw [erased]
  linarith

theorem weightAt_le_sumBy
    (nonneg : ∀ other value, dict.get? other = some value →
      0 ≤ weight other value) :
    dict.weightAt weight key ≤ dict.sumBy weight := by
  have erased := sumBy_erase weight dict key
  have rest : 0 ≤ (dict.erase key).sumBy weight := by
    apply List.sum_nonneg
    intro value member
    obtain ⟨entry, listed, same⟩ := List.mem_map.mp member
    rw [← same]
    apply nonneg
    rw [get?_eq_some_iff]
    exact (mem_entries_erase.mp listed).2
  linarith

end Dict

end GptTrader
