import GptTrader.Python.DecimalRounding

/-!
# Binary floats

A true division of Python integers is the nearest `float` of the exact quotient:
53 significant bits, half to even.
-/

namespace GptTrader

/-- The nearest number with 53 binary digits. -/
def nearestFloat (value : ℚ) : ℚ :=
  let place := (2 : ℚ) ^ (Int.log 2 |value| - 52)
  DecimalContext.halfEven (value / place) * place

section Truncation

open DecimalContext

variable {value : ℚ}

theorem nearestFloat_nonpos (nonpos : value ≤ 0) : nearestFloat value ≤ 0 := by
  have scale : (0 : ℚ) < 2 ^ (Int.log 2 |value| - 52) :=
    zpow_pos (by norm_num) _
  have below : value / 2 ^ (Int.log 2 |value| - 52) ≤ (0 : ℤ) := by
    rw [Int.cast_zero]
    exact div_nonpos_of_nonpos_of_nonneg nonpos scale.le
  have rounded := halfEven_mono below
  rw [halfEven_intCast] at rounded
  unfold nearestFloat
  exact mul_nonpos_of_nonpos_of_nonneg (Int.cast_nonpos.mpr rounded) scale.le

theorem le_nearestFloat {power : ℕ} (large : (2 : ℚ) ^ power ≤ value) :
    (2 : ℚ) ^ power ≤ nearestFloat value := by
  have positive : 0 < value := (by positivity : (0 : ℚ) < 2 ^ power).trans_le large
  have scale : (0 : ℚ) < 2 ^ (Int.log 2 |value| - 52) :=
    zpow_pos (by norm_num) _
  have reached : (2 : ℚ) ^ Int.log 2 |value| ≤ value := by
    have log := Int.zpow_log_le_self (b := 2) (by norm_num) (abs_pos.mpr positive.ne')
    rw [abs_of_pos positive] at log ⊢
    exact_mod_cast log
  have power_le : (power : ℤ) ≤ Int.log 2 |value| := by
    apply (Int.zpow_le_iff_le_log (by norm_num) (abs_pos.mpr positive.ne')).mp
    rw [abs_of_pos positive]
    exact_mod_cast large
  have split : (2 : ℚ) ^ Int.log 2 |value| =
      ((2 ^ 52 : ℤ) : ℚ) * 2 ^ (Int.log 2 |value| - 52) := by
    rw [zpow_sub₀ (by norm_num), mul_div_left_comm]
    norm_num
  have above : ((2 ^ 52 : ℤ) : ℚ) ≤ value / 2 ^ (Int.log 2 |value| - 52) := by
    rw [le_div_iff₀ scale, ← split]
    exact reached
  have rounded := halfEven_mono above
  rw [halfEven_intCast] at rounded
  unfold nearestFloat
  calc (2 : ℚ) ^ power
      ≤ 2 ^ Int.log 2 |value| := by
        rw [← zpow_natCast]
        exact zpow_le_zpow_right₀ (by norm_num) power_le
    _ = ((2 ^ 52 : ℤ) : ℚ) * 2 ^ (Int.log 2 |value| - 52) := split
    _ ≤ _ := mul_le_mul_of_nonneg_right (Int.cast_le.mpr rounded) scale.le

/-- A quotient below 2 ^ 21 of a divisor up to 2 ^ 32 is truncated as it is. -/
theorem floor_nearestFloat {numerator : ℤ} {divisor : ℕ}
    (nonneg : 0 ≤ numerator) (positive : 0 < divisor) (bounded : divisor ≤ 2 ^ 32)
    (small : (numerator : ℚ) / divisor < 2 ^ 21) :
    ⌊nearestFloat (numerator / divisor)⌋ = numerator / divisor := by
  set quotient : ℚ := numerator / divisor with quotient_eq
  have divisor_pos : (0 : ℚ) < divisor := Nat.cast_pos.mpr positive
  have quotient_nonneg : 0 ≤ quotient :=
    div_nonneg (Int.cast_nonneg nonneg) divisor_pos.le
  have log_le : Int.log 2 |quotient| ≤ 20 := by
    rcases quotient_nonneg.eq_or_lt with zero | more
    · rw [← zero, abs_zero, Int.log_zero_right]
      norm_num
    · have below := (Int.lt_zpow_iff_log_lt (b := 2) (x := 21) (by norm_num)
        (abs_pos.mpr more.ne')).mp (by
          rw [abs_of_nonneg quotient_nonneg]
          exact_mod_cast small)
      omega
  obtain ⟨places, spread⟩ := Int.eq_ofNat_of_zero_le
    (show 0 ≤ 52 - Int.log 2 |quotient| by omega)
  have long : 32 ≤ places := by omega
  have place_eq : (2 : ℚ) ^ (Int.log 2 |quotient| - 52) = ((2 : ℚ) ^ places)⁻¹ := by
    rw [← zpow_natCast, ← zpow_neg]
    congr 1
    omega
  have scale : (0 : ℚ) < 2 ^ places := by positivity
  set whole := numerator / (divisor : ℤ) with whole_eq
  have low : ((whole * 2 ^ places : ℤ) : ℚ) ≤ quotient * 2 ^ places := by
    push_cast
    apply mul_le_mul_of_nonneg_right _ scale.le
    rw [quotient_eq, le_div_iff₀ divisor_pos]
    exact_mod_cast Int.ediv_mul_le numerator (by omega : (divisor : ℤ) ≠ 0)
  have high : quotient * 2 ^ places ≤
      (((whole + 1) * 2 ^ places - 1 : ℤ) : ℚ) := by
    have next : numerator + 1 ≤ (whole + 1) * divisor := by
      have less := Int.lt_ediv_add_one_mul_self numerator
        (by omega : 0 < (divisor : ℤ))
      rw [← whole_eq] at less
      omega
    have wide : (divisor : ℤ) ≤ 2 ^ places := by
      calc (divisor : ℤ) ≤ 2 ^ 32 := by exact_mod_cast bounded
        _ ≤ 2 ^ places := pow_le_pow_right₀ (by norm_num) long
    have scaled : numerator * 2 ^ places ≤
        ((whole + 1) * 2 ^ places - 1) * divisor := by
      have moved := mul_le_mul_of_nonneg_right next
        (by positivity : (0 : ℤ) ≤ 2 ^ places)
      linarith
    rw [quotient_eq, div_mul_eq_mul_div, div_le_iff₀ divisor_pos]
    exact_mod_cast scaled
  have rounds_low := halfEven_mono low
  have rounds_high := halfEven_mono high
  rw [halfEven_intCast] at rounds_low rounds_high
  unfold nearestFloat
  dsimp only
  rw [place_eq, div_inv_eq_mul, ← div_eq_mul_inv, Int.floor_eq_iff]
  refine ⟨?_, ?_⟩
  · rw [le_div_iff₀ scale]
    exact_mod_cast rounds_low
  · rw [div_lt_iff₀ scale]
    have less : halfEven (quotient * 2 ^ places) < (whole + 1) * 2 ^ places := by
      omega
    exact_mod_cast less

end Truncation

end GptTrader
