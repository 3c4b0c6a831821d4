import Mathlib.Algebra.BigOperators.Group.List.Basic
import Mathlib.Algebra.Order.Group.Defs
import Mathlib.Algebra.Order.Field.Rat
import Mathlib.Tactic.Linarith

/-!
# Walks that are cut off at zero

A walk whose position may not fall below zero loses what a step would take beyond
it, and never gets it back: it ends where the free walk does exactly when the free
walk stays above zero.
-/

namespace GptTrader

/-- A walk that is stopped at zero. -/
def reflectedWalk (start : ℚ) (steps : List ℚ) : ℚ :=
  steps.foldl (fun position step => max 0 (position + step)) start

/-- The unstopped walk never goes below zero. -/
def StaysAbove (start : ℚ) (steps : List ℚ) : Prop :=
  ∀ taken, 0 ≤ start + (steps.take taken).sum

theorem staysAbove_cons {start first : ℚ} {rest : List ℚ} :
    StaysAbove start (first :: rest) ↔
      0 ≤ start ∧ StaysAbove (start + first) rest := by
  constructor
  · intro stays
    refine ⟨by simpa using stays 0, ?_⟩
    intro taken
    have next := stays (taken + 1)
    rw [List.take_succ_cons, List.sum_cons] at next
    linarith
  · rintro ⟨nonneg, stays⟩ taken
    cases taken with
    | zero => simpa using nonneg
    | succ taken =>
        rw [List.take_succ_cons, List.sum_cons]
        have later := stays taken
        linarith

theorem StaysAbove.start_nonneg {start : ℚ} {steps : List ℚ}
    (stays : StaysAbove start steps) : 0 ≤ start := by
  simpa using stays 0

theorem le_reflectedWalk (start : ℚ) (steps : List ℚ) :
    start + steps.sum ≤ reflectedWalk start steps := by
  induction steps generalizing start with
  | nil => simp [reflectedWalk]
  | cons first rest induction =>
      have later := induction (max 0 (start + first))
      have above := le_max_right 0 (start + first)
      unfold reflectedWalk at later ⊢
      rw [List.foldl_cons, List.sum_cons]
      linarith

theorem reflectedWalk_eq_iff {start : ℚ} (nonneg : 0 ≤ start)
    (steps : List ℚ) :
    reflectedWalk start steps = start + steps.sum ↔
      StaysAbove start steps := by
  induction steps generalizing start with
  | nil =>
      unfold StaysAbove reflectedWalk
      simpa using nonneg
  | cons first rest induction =>
      rw [staysAbove_cons]
      by_cases above : 0 ≤ start + first
      · have kept : reflectedWalk start (first :: rest) =
            reflectedWalk (start + first) rest := by
          unfold reflectedWalk
          rw [List.foldl_cons, max_eq_right above]
        rw [kept, List.sum_cons, ← add_assoc, induction above]
        exact ⟨fun stays => ⟨nonneg, stays⟩, And.right⟩
      · -- What the first step takes beyond zero is lost for good.
        have cut : reflectedWalk start (first :: rest) =
            reflectedWalk 0 rest := by
          unfold reflectedWalk
          rw [List.foldl_cons, max_eq_left (not_le.mp above).le]
        have lost := le_reflectedWalk 0 rest
        rw [cut, List.sum_cons]
        constructor
        · intro same
          linarith [not_le.mp above]
        · rintro ⟨_, stays⟩
          exact absurd stays.start_nonneg above

end GptTrader
