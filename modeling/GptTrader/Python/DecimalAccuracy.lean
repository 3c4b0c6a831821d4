import GptTrader.Python.DecimalRounding

/-!
# How far rounding goes

A rounded result differs from the exact one by at most a fixed part of it.
Bounds of computed amounts are derived from this alone, so they hold without
slack in exact arithmetic.
-/

namespace GptTrader

namespace DecimalContext

/-- Rounding is sound and moves a number by at most a small part of it. -/
structure Accurate (context : DecimalContext) (unit : ℚ) : Prop
    extends context.Sound where
  nonneg : 0 ≤ unit
  small : unit ≤ 1 / 1000
  one : context.round 1 = 1
  close : ∀ value, |context.round value - value| ≤ unit * |value|

namespace Accurate

variable {context : DecimalContext} {unit value : ℚ}

section

variable (accurate : context.Accurate unit)

include accurate

theorem round_le (nonneg : 0 ≤ value) :
    context.round value ≤ value * (1 + unit) := by
  have close := accurate.close value
  rw [abs_of_nonneg nonneg] at close
  have above := (abs_le.mp close).2
  linarith

theorem le_round (nonneg : 0 ≤ value) :
    value * (1 - unit) ≤ context.round value := by
  have close := accurate.close value
  rw [abs_of_nonneg nonneg] at close
  have below := (abs_le.mp close).1
  linarith

theorem round_pos (positive : 0 < value) :
    0 < context.round value := by
  have below := accurate.le_round positive.le
  have small := accurate.small
  exact (mul_pos positive (by linarith)).trans_le below

theorem pos_of_round_pos (positive : 0 < context.round value) : 0 < value := by
  by_contra nonpos
  have below := accurate.monotone (not_lt.mp nonpos)
  rw [accurate.round_zero] at below
  exact absurd positive below.not_gt

theorem round_le_one (le : value ≤ 1) :
    context.round value ≤ 1 := by
  rw [← accurate.one]
  exact accurate.monotone le

theorem exists_error (value : ℚ) {bound : ℚ} (within : |value| ≤ bound) :
    ∃ error, context.round value = value + error ∧
      -(unit * bound) ≤ error ∧ error ≤ unit * bound := by
  have close := (accurate.close value).trans
    (mul_le_mul_of_nonneg_left within accurate.nonneg)
  obtain ⟨low, high⟩ := abs_le.mp close
  exact ⟨context.round value - value, by ring, low, high⟩

end

end Accurate

theorem exact_accurate : exact.Accurate 0 :=
  { exact_sound with
    nonneg := le_rfl
    small := by norm_num
    one := rfl
    close := fun value => by
      change |value - value| ≤ 0 * |value|
      rw [sub_self, abs_zero, zero_mul] }

theorem abs_halfEven_sub_le (value : ℚ) :
    |(halfEven value : ℚ) - value| ≤ 1 / 2 := by
  have low := Int.floor_le value
  have high := Int.lt_floor_add_one value
  rw [halfEven_eq_of_floor value ⌊value⌋ low high, abs_le]
  split_ifs <;> push_cast <;> constructor <;> linarith

/-- The error of rounding to significant digits. -/
theorem abs_significant_sub_le {digits : ℕ} (value : ℚ) :
    |significant digits value - value| ≤ 5 / 10 ^ digits * |value| := by
  have ten : (10 : ℚ) ≠ 0 := by norm_num
  rcases eq_or_ne value 0 with rfl | nonzero
  · unfold significant
    dsimp only
    rw [zero_div, ← Int.cast_zero, halfEven_intCast, Int.cast_zero, zero_mul,
      sub_zero, abs_zero, mul_zero]
  · have scale : (0 : ℚ) < 10 ^ lastPlace digits value :=
      zpow_pos (by norm_num) _
    have nearest := abs_halfEven_sub_le (value / 10 ^ lastPlace digits value)
    have spread : significant digits value - value =
        ((halfEven (value / 10 ^ lastPlace digits value) : ℚ) -
          value / 10 ^ lastPlace digits value) *
            10 ^ lastPlace digits value := by
      rw [sub_mul, div_mul_cancel₀ _ scale.ne']
      rfl
    have leading : ((10 : ℕ) : ℚ) ^ Int.log 10 |value| ≤ |value| :=
      Int.zpow_log_le_self (by norm_num) (abs_pos.mpr nonzero)
    have place : (10 : ℚ) ^ lastPlace digits value =
        10 / 10 ^ digits * 10 ^ Int.log 10 |value| := by
      unfold lastPlace
      rw [zpow_add₀ ten, zpow_sub₀ ten, zpow_natCast, zpow_one]
      ring
    rw [Nat.cast_ofNat] at leading
    rw [spread, abs_mul, abs_of_pos scale]
    calc
      |(halfEven (value / 10 ^ lastPlace digits value) : ℚ) -
            value / 10 ^ lastPlace digits value| *
          10 ^ lastPlace digits value
        ≤ 1 / 2 * 10 ^ lastPlace digits value :=
          mul_le_mul_of_nonneg_right nearest scale.le
      _ = 5 / 10 ^ digits * 10 ^ Int.log 10 |value| := by
          rw [place]
          ring
      _ ≤ 5 / 10 ^ digits * |value| :=
          mul_le_mul_of_nonneg_left leading (by positivity)

theorem defaultContext_accurate :
    defaultContext.Accurate (5 / 10 ^ 28) :=
  { defaultContext_sound with
    nonneg := by positivity
    small := by norm_num
    one := by
      have power : significant 28 (10 ^ (0 : ℤ)) = 10 ^ (0 : ℤ) :=
        significant_power 0 (by norm_num)
      rwa [zpow_zero] at power
    close := abs_significant_sub_le }

end DecimalContext

end GptTrader
