import Mathlib.Algebra.BigOperators.Group.List.Basic
import Mathlib.Algebra.CharZero.Defs
import Mathlib.Algebra.Field.Basic
import Mathlib.Tactic.Ring
import Mathlib.Tactic.LinearCombination

/-!
# Means and variances of lists

The definitions of a textbook, and how each changes when a value is appended.
-/

namespace GptTrader.Statistics

variable {K : Type} [Field K]

def mean (values : List K) : K :=
  values.sum / values.length

def squaredDeviations (values : List K) : K :=
  (values.map fun value => (value - mean values) ^ 2).sum

/-- The mean squared deviation. -/
def variance (values : List K) : K :=
  squaredDeviations values / values.length

/-- The variance with one less in the divisor. -/
def sampleVariance (values : List K) : K :=
  squaredDeviations values / (values.length - 1)

theorem sum_squares_sub (values : List K) (center : K) :
    (values.map fun value => (value - center) ^ 2).sum =
      (values.map fun value => value ^ 2).sum - 2 * center * values.sum +
        values.length * center ^ 2 := by
  induction values with
  | nil => simp
  | cons value values induction =>
      rw [List.map_cons, List.sum_cons, induction, List.map_cons, List.sum_cons,
        List.sum_cons, List.length_cons, Nat.cast_succ]
      ring

variable [CharZero K]

theorem length_mul_mean (values : List K) :
    values.length * mean values = values.sum := by
  unfold mean
  cases values with
  | nil => simp
  | cons value values =>
      have nonzero : ((value :: values).length : K) ≠ 0 := by
        rw [List.length_cons]
        exact Nat.cast_ne_zero.mpr (Nat.succ_ne_zero _)
      exact mul_div_cancel₀ _ nonzero

theorem mean_concat (values : List K) (value : K) :
    mean (values ++ [value]) =
      mean values + (value - mean values) / ((values.length + 1 : ℕ) : K) := by
  have nonzero : ((values.length + 1 : ℕ) : K) ≠ 0 :=
    Nat.cast_ne_zero.mpr (Nat.succ_ne_zero _)
  have before := length_mul_mean values
  have later := length_mul_mean (values ++ [value])
  rw [List.length_append, List.sum_append, List.length_singleton,
    List.sum_singleton, ← before] at later
  rw [← sub_eq_iff_eq_add', eq_div_iff nonzero]
  push_cast at later ⊢
  linear_combination later

theorem squaredDeviations_eq (values : List K) :
    squaredDeviations values =
      (values.map fun value => value ^ 2).sum -
        values.length * mean values ^ 2 := by
  unfold squaredDeviations
  rw [sum_squares_sub, ← length_mul_mean values]
  ring

theorem squaredDeviations_concat (values : List K) (value : K) :
    squaredDeviations (values ++ [value]) =
      squaredDeviations values +
        (value - mean values) * (value - mean (values ++ [value])) := by
  have before := length_mul_mean values
  have later := length_mul_mean (values ++ [value])
  rw [List.length_append, List.sum_append, List.length_singleton,
    List.sum_singleton, ← before] at later
  rw [squaredDeviations_eq, squaredDeviations_eq, List.map_append, List.sum_append,
    List.map_singleton, List.sum_singleton, List.length_append,
    List.length_singleton]
  push_cast at later ⊢
  linear_combination (-mean (values ++ [value]) - mean values) * later

end GptTrader.Statistics
