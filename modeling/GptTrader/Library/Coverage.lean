import Mathlib.Algebra.BigOperators.Group.Finset.Basic
import Mathlib.Algebra.Order.BigOperators.Group.Finset
import Mathlib.Data.List.Induction

/-!
# Booking parts that are delivered more than once

A delivery covers a set of parts, each of a positive size.  A bookkeeper either takes
a delivery, and books the size of all it covers, or drops it.  What was booked stays
the size of what was covered exactly as long as every delivery that is taken is new
and every one that is dropped is known.
-/

namespace GptTrader

section Prefixes

variable {σ α : Type} {step : σ → α → σ} {start : σ}

/-- A property of the start that a step keeps exactly when it is sound holds after
every beginning of a run exactly when all steps of the run are sound. -/
theorem every_prefix_iff {good : σ → Prop} {sound : σ → α → Prop}
    (begins : good start)
    (keeps : ∀ state input, good state → (good (step state input) ↔ sound state input))
    (inputs : List α) :
    (∀ earlier, earlier <+: inputs → good (earlier.foldl step start)) ↔
      ∀ earlier input, earlier ++ [input] <+: inputs →
        sound (earlier.foldl step start) input := by
  constructor
  · intro holds earlier input within
    have before := holds earlier ((List.prefix_append _ _).trans within)
    have after := holds (earlier ++ [input]) within
    rw [List.foldl_append] at after
    exact (keeps _ input before).mp after
  · intro sound earlier
    induction earlier using List.reverseRecOn with
    | nil => exact fun _ => begins
    | append_singleton earlier input induction =>
        intro within
        have before := induction ((List.prefix_append _ _).trans within)
        rw [List.foldl_append]
        exact (keeps _ input before).mpr (sound earlier input within)

end Prefixes

namespace Coverage

variable {ι K : Type} [AddCommGroup K] {sizes : ι → K}

theorem sum_union [DecidableEq ι] (delivered covers : Finset ι) :
    (delivered ∪ covers).sum sizes =
      delivered.sum sizes + (covers \ delivered).sum sizes := by
  rw [← Finset.sum_union Finset.disjoint_sdiff, Finset.union_sdiff_self_eq_union]

variable [PartialOrder K] [IsOrderedAddMonoid K]

theorem sum_eq_zero_iff (positive : ∀ part, 0 < sizes part) (parts : Finset ι) :
    parts.sum sizes = 0 ↔ parts = ∅ := by
  constructor
  · intro none
    have each := (Finset.sum_eq_zero_iff_of_nonneg
      fun part _ => (positive part).le).mp none
    apply Finset.eq_empty_of_forall_notMem
    intro part member
    exact (positive part).ne' (each part member)
  · intro empty
    rw [empty, Finset.sum_empty]

variable [DecidableEq ι]

theorem taken_exact_iff (positive : ∀ part, 0 < sizes part)
    (delivered covers : Finset ι) :
    delivered.sum sizes + covers.sum sizes = (delivered ∪ covers).sum sizes ↔
      Disjoint delivered covers := by
  rw [Finset.disjoint_iff_inter_eq_empty, ← sum_eq_zero_iff positive,
    ← Finset.sum_union_inter]
  constructor
  · intro same
    exact left_eq_add.mp same.symm
  · intro none
    rw [none, add_zero]

theorem dropped_exact_iff (positive : ∀ part, 0 < sizes part)
    (delivered covers : Finset ι) :
    delivered.sum sizes = (delivered ∪ covers).sum sizes ↔ covers ⊆ delivered := by
  rw [sum_union, left_eq_add, sum_eq_zero_iff positive, Finset.sdiff_eq_empty_iff_subset]

end Coverage

end GptTrader
