import GptTrader.Python.DecimalContext

/-!
# Rounding keeps order and sign

What sums of rounded numbers rely on: rounding is monotone and odd, and a
rounded number is not rounded again.  The exact context and the default one
have this.
-/

namespace GptTrader

namespace DecimalContext

/-- What the proofs use of a context. -/
structure Sound (context : DecimalContext) : Prop where
  monotone : ∀ {left right : ℚ}, left ≤ right →
    context.round left ≤ context.round right
  odd : ∀ value, context.round (-value) = -context.round value
  idempotent : ∀ value,
    context.round (context.round value) = context.round value

namespace Sound

variable {context : DecimalContext}

theorem round_zero (sound : context.Sound) : context.round 0 = 0 := by
  have odd := sound.odd 0
  rw [neg_zero] at odd
  linarith

theorem round_nonneg (sound : context.Sound) {value : ℚ} (nonneg : 0 ≤ value) :
    0 ≤ context.round value := by
  rw [← sound.round_zero]
  exact sound.monotone nonneg

theorem add_neg_nonneg (sound : context.Sound) {amount taken : ℚ}
    (rounded : context.round amount = amount) (covered : taken ≤ amount) :
    0 ≤ context.add amount (context.neg taken) := by
  apply sound.round_nonneg
  unfold neg
  rw [sound.odd]
  have most := sound.monotone covered
  rw [rounded] at most
  linarith

end Sound

theorem exact_sound : exact.Sound :=
  { monotone := fun le => le
    odd := fun _ => rfl
    idempotent := fun _ => rfl }

/-! ## Half to even -/

theorem floor_le_halfEven (value : ℚ) : ⌊value⌋ ≤ halfEven value := by
  unfold halfEven
  dsimp only
  split_ifs <;> omega

theorem halfEven_le_floor_add_one (value : ℚ) :
    halfEven value ≤ ⌊value⌋ + 1 := by
  unfold halfEven
  dsimp only
  split_ifs <;> omega

theorem halfEven_mono {left right : ℚ} (le : left ≤ right) :
    halfEven left ≤ halfEven right := by
  rcases (Int.floor_mono le).eq_or_lt with same | less
  · unfold halfEven
    rw [same]
    dsimp only
    split_ifs <;> first | omega | (exfalso; linarith)
  · have above := halfEven_le_floor_add_one left
    have below := floor_le_halfEven right
    omega

theorem halfEven_eq_of_floor (value : ℚ) (below : ℤ)
    (low : (below : ℚ) ≤ value) (high : value < below + 1) :
    halfEven value =
      if value - below < 1 / 2 then below
      else if 1 / 2 < value - below then below + 1
      else if below % 2 = 0 then below
      else below + 1 := by
  have floor : ⌊value⌋ = below := Int.floor_eq_iff.mpr ⟨low, high⟩
  unfold halfEven
  rw [floor]

theorem halfEven_neg (value : ℚ) : halfEven (-value) = -halfEven value := by
  have low := Int.floor_le value
  have high := Int.lt_floor_add_one value
  rcases low.eq_or_lt with whole | strict
  · rw [← whole, ← Int.cast_neg, halfEven_intCast, halfEven_intCast]
  · rw [halfEven_eq_of_floor (-value) (-(⌊value⌋ + 1)) (by push_cast; linarith)
      (by push_cast; linarith), halfEven_eq_of_floor value ⌊value⌋ low high]
    push_cast
    split_ifs <;> first | omega | (exfalso; linarith)

/-! ## Significant digits -/

section Significant

variable {digits : ℕ}

theorem significant_neg (value : ℚ) :
    significant digits (-value) = -significant digits value := by
  unfold significant lastPlace
  rw [abs_neg]
  dsimp only
  rw [neg_div, halfEven_neg, Int.cast_neg, neg_mul]

theorem significant_power (place : ℤ) (some : 0 < digits) :
    significant digits (10 ^ place) = 10 ^ place := by
  have short : |(1 : ℤ)| < 10 ^ digits := by
    rw [abs_one]
    exact one_lt_pow₀ (by norm_num) some.ne'
  have kept : significant digits (((1 : ℤ) : ℚ) * 10 ^ place) =
      ((1 : ℤ) : ℚ) * 10 ^ place := significant_eq_self short
  rwa [Int.cast_one, one_mul] at kept

section

variable (some : 0 < digits)

include some

/-- A positive number rounds to one between the powers of ten around it. -/
theorem significant_between {value : ℚ} (positive : 0 < value) :
    (10 : ℚ) ^ Int.log 10 value ≤ significant digits value ∧
      significant digits value ≤ 10 ^ (Int.log 10 value + 1) := by
  have ten : (10 : ℚ) ≠ 0 := by norm_num
  obtain ⟨rest, rfl⟩ : ∃ rest, digits = rest + 1 := ⟨digits - 1, by omega⟩
  have low : ((10 : ℕ) : ℚ) ^ Int.log 10 value ≤ value :=
    Int.zpow_log_le_self (by norm_num) positive
  have high : value < ((10 : ℕ) : ℚ) ^ (Int.log 10 value + 1) :=
    Int.lt_zpow_succ_log_self (by norm_num) value
  rw [Nat.cast_ofNat] at low high
  have placed : lastPlace (rest + 1) value = Int.log 10 value - rest := by
    unfold lastPlace
    rw [abs_of_pos positive]
    push_cast
    ring
  have scale : (0 : ℚ) < 10 ^ (Int.log 10 value - rest) :=
    zpow_pos (by norm_num) _
  have least : (((10 ^ rest : ℤ) : ℚ)) * 10 ^ (Int.log 10 value - rest) =
      10 ^ Int.log 10 value := by
    push_cast
    rw [← zpow_natCast, ← zpow_add₀ ten]
    congr 1
    ring
  have most : (((10 ^ (rest + 1) : ℤ) : ℚ)) * 10 ^ (Int.log 10 value - rest) =
      10 ^ (Int.log 10 value + 1) := by
    push_cast
    rw [← zpow_natCast, ← zpow_add₀ ten]
    congr 1
    push_cast
    ring
  unfold significant
  dsimp only
  rw [placed]
  constructor
  · rw [← least]
    apply mul_le_mul_of_nonneg_right _ scale.le
    have above : ((10 ^ rest : ℤ) : ℚ) ≤
        value / 10 ^ (Int.log 10 value - rest) := by
      rw [le_div_iff₀ scale, least]
      exact low
    have rounded := halfEven_mono above
    rw [halfEven_intCast] at rounded
    exact_mod_cast rounded
  · rw [← most]
    apply mul_le_mul_of_nonneg_right _ scale.le
    have below : value / 10 ^ (Int.log 10 value - rest) ≤
        ((10 ^ (rest + 1) : ℤ) : ℚ) := by
      rw [div_le_iff₀ scale, most]
      exact high.le
    have rounded := halfEven_mono below
    rw [halfEven_intCast] at rounded
    exact_mod_cast rounded

theorem significant_nonneg {value : ℚ} (nonneg : 0 ≤ value) : 0 ≤ significant digits value := by
  rcases nonneg.eq_or_lt with rfl | positive
  · unfold significant
    dsimp only
    rw [zero_div, ← Int.cast_zero, halfEven_intCast, Int.cast_zero, zero_mul]
  · exact (zpow_pos (by norm_num) _).le.trans
      (significant_between some positive).1

theorem significant_mono_of_pos {left right : ℚ} (positive : 0 < left)
    (le : left ≤ right) :
    significant digits left ≤ significant digits right := by
  have ten : (1 : ℚ) ≤ 10 := by norm_num
  have rightPositive := positive.trans_le le
  rcases (Int.log_mono_right (b := 10) positive le).eq_or_lt with same | less
  · have place : lastPlace digits left = lastPlace digits right := by
      unfold lastPlace
      rw [abs_of_pos positive, abs_of_pos rightPositive, same]
    have scale : (0 : ℚ) < 10 ^ lastPlace digits right :=
      zpow_pos (by norm_num) _
    unfold significant
    rw [place]
    apply mul_le_mul_of_nonneg_right _ scale.le
    exact_mod_cast halfEven_mono (div_le_div_of_nonneg_right le scale.le)
  · calc
      significant digits left ≤ 10 ^ (Int.log 10 left + 1) :=
        (significant_between some positive).2
      _ ≤ 10 ^ Int.log 10 right := zpow_le_zpow_right₀ ten less
      _ ≤ significant digits right :=
        (significant_between some rightPositive).1

theorem significant_mono {left right : ℚ} (le : left ≤ right) :
    significant digits left ≤ significant digits right := by
  rcases lt_or_ge 0 left with positive | nonpos
  · exact significant_mono_of_pos some positive le
  · rcases lt_or_ge right 0 with negative | nonneg
    · have mirrored := significant_mono_of_pos some (neg_pos.mpr negative)
        (neg_le_neg le)
      rw [significant_neg, significant_neg] at mirrored
      exact neg_le_neg_iff.mp mirrored
    · have above := significant_nonneg some nonneg
      have below := significant_nonneg some (neg_nonneg.mpr nonpos)
      rw [significant_neg] at below
      linarith

theorem significant_idempotent_of_pos {value : ℚ} (positive : 0 < value) :
    significant digits (significant digits value) =
      significant digits value := by
  have ten : (10 : ℚ) ≠ 0 := by norm_num
  obtain ⟨least, most⟩ := significant_between some positive
  rcases most.eq_or_lt with power | less
  · rw [power]
    exact significant_power _ some
  · have scale : (0 : ℚ) < 10 ^ lastPlace digits value :=
      zpow_pos (by norm_num) _
    have spelled : significant digits value =
        (halfEven (value / 10 ^ lastPlace digits value) : ℚ) *
          10 ^ lastPlace digits value := rfl
    have whole : (10 : ℚ) ^ (Int.log 10 value + 1) =
        10 ^ digits * 10 ^ lastPlace digits value := by
      unfold lastPlace
      rw [abs_of_pos positive, ← zpow_natCast, ← zpow_add₀ ten]
      congr 1
      ring
    have nonneg := (zpow_pos (by norm_num) _).le.trans least
    rw [whole, spelled] at less
    rw [spelled] at nonneg
    have short : |halfEven (value / 10 ^ lastPlace digits value)| <
        10 ^ digits := by
      rw [abs_of_nonneg]
      · exact_mod_cast lt_of_mul_lt_mul_right less scale.le
      · exact_mod_cast nonneg_of_mul_nonneg_left nonneg scale
    rw [spelled]
    exact significant_eq_self short

theorem significant_idempotent (value : ℚ) :
    significant digits (significant digits value) =
      significant digits value := by
  rcases lt_trichotomy value 0 with negative | rfl | positive
  · have mirrored := significant_idempotent_of_pos some (neg_pos.mpr negative)
    rw [significant_neg, significant_neg] at mirrored
    exact neg_injective mirrored
  · have zero : significant digits 0 = 0 := by
      have odd : significant digits (-0) = -significant digits 0 :=
        significant_neg 0
      rw [neg_zero] at odd
      linarith
    rw [zero, zero]
  · exact significant_idempotent_of_pos some positive

end

end Significant

theorem defaultContext_sound : defaultContext.Sound :=
  { monotone := fun le => significant_mono (by norm_num) le
    odd := significant_neg
    idempotent := significant_idempotent (by norm_num) }

end DecimalContext

end GptTrader
