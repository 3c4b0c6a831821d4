import Mathlib.Algebra.Order.Field.Basic
import Mathlib.Data.Int.Log
import Mathlib.Data.List.Induction
import Mathlib.Data.Rat.Floor
import Mathlib.Tactic.Linarith
import Mathlib.Tactic.Ring

/-!
# Decimal contexts

The operators of `decimal.Decimal` round the exact result to the precision of
the current context; constructors, comparisons and texts are exact.  Python's
default context keeps 28 significant digits and rounds half to even.
-/

namespace GptTrader

/-- How the operators round an exact result. -/
structure DecimalContext where
  round : ℚ → ℚ

namespace DecimalContext

section Operators

variable (context : DecimalContext)

def add (left right : ℚ) : ℚ :=
  context.round (left + right)

def sub (left right : ℚ) : ℚ :=
  context.round (left - right)

def mul (left right : ℚ) : ℚ :=
  context.round (left * right)

def div (left right : ℚ) : ℚ :=
  context.round (left / right)

/-- `abs(value)`, which rounds. -/
def abs (value : ℚ) : ℚ :=
  context.round |value|

/-- `-value`, which rounds. -/
def neg (value : ℚ) : ℚ :=
  context.round (-value)

/-- `sum(values, Decimal(0))`. -/
def sum (values : List ℚ) : ℚ :=
  values.foldl context.add 0

end Operators

/-- A context that never rounds. -/
def exact : DecimalContext :=
  { round := id }

def halfEven (value : ℚ) : ℤ :=
  let below := ⌊value⌋
  let rest := value - below
  if rest < 1 / 2 then below
  else if 1 / 2 < rest then below + 1
  else if below % 2 = 0 then below
  else below + 1

/-- The exponent of the last of `digits` significant digits. -/
def lastPlace (digits : ℕ) (value : ℚ) : ℤ :=
  Int.log 10 |value| - digits + 1

/-- The nearest number with so many digits. -/
def significant (digits : ℕ) (value : ℚ) : ℚ :=
  let place := (10 : ℚ) ^ lastPlace digits value
  halfEven (value / place) * place

/-- The default context of 28 digits. -/
def defaultContext : DecimalContext :=
  { round := significant 28 }

/-- No partial sum, added to a start one value after another, is rounded. -/
def AddsExactly (context : DecimalContext) : ℚ → List ℚ → Prop
  | _, [] => True
  | start, value :: values =>
      context.add start value = start + value ∧
        AddsExactly context (start + value) values

instance AddsExactly.decidable (context : DecimalContext) (start : ℚ) :
    (values : List ℚ) → Decidable (context.AddsExactly start values)
  | [] => inferInstanceAs (Decidable True)
  | value :: values =>
      have := AddsExactly.decidable context (start + value) values
      inferInstanceAs (Decidable (_ ∧ _))

theorem AddsExactly.foldl {context : DecimalContext} {start : ℚ} {values : List ℚ}
    (exactly : context.AddsExactly start values) :
    values.foldl context.add start = start + values.sum := by
  induction values generalizing start with
  | nil => exact (add_zero start).symm
  | cons value values induction =>
      rw [List.foldl_cons, exactly.1, induction exactly.2, List.sum_cons,
        add_assoc]

theorem sum_append_singleton (context : DecimalContext) (values : List ℚ)
    (last : ℚ) :
    context.sum (values ++ [last]) = context.add (context.sum values) last :=
  List.foldl_append

theorem halfEven_intCast (value : ℤ) : halfEven value = value := by
  unfold halfEven
  dsimp only
  rw [Int.floor_intCast, sub_self, if_pos (by norm_num)]

/-- A number of so few digits is not rounded. -/
theorem significant_eq_self {digits : ℕ} {coefficient place : ℤ}
    (short : |coefficient| < 10 ^ digits) :
    significant digits (coefficient * (10 : ℚ) ^ place) =
      coefficient * (10 : ℚ) ^ place := by
  have ten : (10 : ℚ) ≠ 0 := by norm_num
  have scale : (0 : ℚ) < 10 ^ place := zpow_pos (by norm_num) place
  rcases eq_or_ne coefficient 0 with rfl | nonzero
  · unfold significant
    simp only [Int.cast_zero, zero_mul, zero_div]
    rw [← Int.cast_zero, halfEven_intCast, Int.cast_zero, zero_mul]
  · -- The last kept place is no further left than the number's own.
    have positive : (0 : ℚ) < |(coefficient : ℚ) * 10 ^ place| :=
      abs_pos.mpr (mul_ne_zero (Int.cast_ne_zero.mpr nonzero) scale.ne')
    have bound : |(coefficient : ℚ) * 10 ^ place| <
        ((10 : ℕ) : ℚ) ^ ((digits : ℤ) + place) := by
      rw [abs_mul, abs_of_pos scale, Nat.cast_ofNat, zpow_add₀ ten,
        zpow_natCast]
      apply mul_lt_mul_of_pos_right _ scale
      exact_mod_cast short
    have low : lastPlace digits (coefficient * (10 : ℚ) ^ place) ≤ place := by
      have log := (Int.lt_zpow_iff_log_lt (by norm_num) positive).mp bound
      unfold lastPlace
      omega
    obtain ⟨gap, spread⟩ := Int.eq_ofNat_of_zero_le (sub_nonneg.mpr low)
    have whole : (coefficient : ℚ) * 10 ^ place /
          10 ^ lastPlace digits (coefficient * (10 : ℚ) ^ place) =
        ((coefficient * 10 ^ gap : ℤ) : ℚ) := by
      rw [mul_div_assoc, ← zpow_sub₀ ten, spread, zpow_natCast]
      push_cast
      rfl
    unfold significant
    dsimp only
    rw [whole, halfEven_intCast, ← whole,
      div_mul_cancel₀ _ (zpow_ne_zero _ ten)]

theorem round_eq_self {value : ℚ} (places : ℕ)
    (multiple : ∃ coefficient : ℤ, value * 10 ^ places = coefficient)
    (small : |value| < 10 ^ 28 / 10 ^ places) :
    defaultContext.round value = value := by
  obtain ⟨coefficient, multiple⟩ := multiple
  have scale : (0 : ℚ) < 10 ^ places := by positivity
  have spelled : value = coefficient * (10 : ℚ) ^ (-(places : ℤ)) := by
    rw [zpow_neg, zpow_natCast, ← multiple, mul_inv_cancel_right₀ scale.ne']
  have short : |coefficient| < 10 ^ 28 := by
    rw [lt_div_iff₀ scale, ← abs_of_pos scale, ← abs_mul, multiple] at small
    exact_mod_cast small
  rw [spelled]
  exact significant_eq_self short

theorem round_natCast_div {value : ℚ} (count places : ℕ)
    (spelled : value = count / 10 ^ places) (small : count < 10 ^ 28) :
    defaultContext.round value = value := by
  have scale : (0 : ℚ) < 10 ^ places := by positivity
  apply round_eq_self places
  · exact ⟨count, by rw [spelled, div_mul_cancel₀ _ scale.ne', Int.cast_natCast]⟩
  · rw [spelled, abs_of_nonneg (by positivity)]
    exact div_lt_div_of_pos_right (by exact_mod_cast small) scale

end DecimalContext

end GptTrader
