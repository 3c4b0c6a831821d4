import GptTrader.Python.DecimalRounding

/-!
# Bounds through rounding

A decimal is rounded half to even to a quantum.  A bound on the rounded decimal is
a bound on the decimal before: half a quantum above the last multiple the bound
allows, reached exactly when that multiple is even.
-/

namespace GptTrader

open DecimalContext

/-- `value.quantize(quantum)` for a quantum that is a power of ten. -/
def quantizeTo (quantum value : ℚ) : ℚ :=
  halfEven (value / quantum) * quantum

/-- All values below a limit, and the limit itself when it is reached. -/
structure UpTo where
  limit : ℚ
  reached : Bool

namespace UpTo

/-- `value <= limit`. -/
def atMost (limit : ℚ) : UpTo :=
  { limit := limit
    reached := true }

/-- The value keeps under the bound. -/
def Allows (bound : UpTo) (value : ℚ) : Prop :=
  value < bound.limit ∨ (bound.reached = true ∧ value = bound.limit)

instance (bound : UpTo) (value : ℚ) : Decidable (bound.Allows value) :=
  inferInstanceAs (Decidable (_ ∨ _))

def divided (bound : UpTo) (factor : ℚ) : UpTo :=
  { bound with limit := bound.limit / factor }

/-- The last multiple of the quantum under the bound. -/
def lastMultiple (bound : UpTo) (quantum : ℚ) : ℤ :=
  if bound.reached then ⌊bound.limit / quantum⌋ else ⌈bound.limit / quantum⌉ - 1

def beforeRounding (bound : UpTo) (quantum : ℚ) : UpTo :=
  { limit := (bound.lastMultiple quantum + 1 / 2) * quantum
    reached := decide (bound.lastMultiple quantum % 2 = 0) }

variable {bound : UpTo} {quantum : ℚ}

@[simp] theorem allows_atMost {limit value : ℚ} :
    (atMost limit).Allows value ↔ value ≤ limit := by
  simp [Allows, atMost, le_iff_lt_or_eq]

theorem allows_divided {factor : ℚ} (positive : 0 < factor) (value : ℚ) :
    (bound.divided factor).Allows value ↔ bound.Allows (value * factor) := by
  unfold Allows divided
  rw [lt_div_iff₀ positive, eq_div_iff positive.ne']

/-- A number rounds to at most an integer exactly when it is at most half above
it, and below that when the integer is odd. -/
theorem halfEven_le_iff (value : ℚ) (most : ℤ) :
    halfEven value ≤ most ↔
      value < most + 1 / 2 ∨ (most % 2 = 0 ∧ value = most + 1 / 2) := by
  have low := Int.floor_le value
  have high := Int.lt_floor_add_one value
  have least := floor_le_halfEven value
  have greatest := halfEven_le_floor_add_one value
  rcases lt_trichotomy ⌊value⌋ most with below | same | above
  · have under : ((⌊value⌋ : ℤ) : ℚ) + 1 ≤ most := by exact_mod_cast below
    exact ⟨fun _ => .inl (by linarith), fun _ => by omega⟩
  · unfold halfEven
    rw [same] at low high ⊢
    dsimp only
    split_ifs with less more even
    · exact ⟨fun _ => .inl (by linarith), fun _ => le_refl _⟩
    · constructor
      · intro wrong
        omega
      · rintro (under | ⟨_, tie⟩)
        · linarith
        · linarith
    · exact ⟨fun _ => .inr ⟨even, by linarith⟩, fun _ => le_refl _⟩
    · constructor
      · intro wrong
        omega
      · rintro (under | ⟨tieEven, _⟩)
        · linarith
        · exact absurd tieEven even
  · have beyond : (most : ℚ) + 1 ≤ ((⌊value⌋ : ℤ) : ℚ) := by exact_mod_cast above
    constructor
    · intro wrong
      omega
    · rintro (under | ⟨_, tie⟩)
      · linarith
      · linarith

theorem allows_multiple (positive : 0 < quantum) (count : ℤ) :
    bound.Allows (count * quantum) ↔ count ≤ bound.lastMultiple quantum := by
  unfold Allows lastMultiple
  rw [← lt_div_iff₀ positive, ← eq_div_iff positive.ne']
  by_cases reached : bound.reached = true
  · rw [if_pos reached, Int.le_floor, le_iff_lt_or_eq]
    simp [reached]
  · have below : count ≤ ⌈bound.limit / quantum⌉ - 1 ↔
        (count : ℚ) < bound.limit / quantum := by
      rw [Int.le_sub_one_iff, Int.lt_ceil]
    rw [if_neg reached, below]
    simp [reached]

theorem allows_beforeRounding (positive : 0 < quantum) (value : ℚ) :
    (bound.beforeRounding quantum).Allows value ↔
      bound.Allows (quantizeTo quantum value) := by
  unfold quantizeTo
  rw [allows_multiple positive, halfEven_le_iff]
  unfold Allows beforeRounding
  rw [← div_lt_iff₀ positive, ← div_eq_iff positive.ne', decide_eq_true_eq]

end UpTo

theorem abs_quantizeTo_sub_le {quantum : ℚ} (positive : 0 < quantum) (value : ℚ) :
    |quantizeTo quantum value - value| ≤ quantum / 2 := by
  have low := Int.floor_le (value / quantum)
  have high := Int.lt_floor_add_one (value / quantum)
  have near : |(halfEven (value / quantum) : ℚ) - value / quantum| ≤ 1 / 2 := by
    unfold halfEven
    dsimp only
    split_ifs <;> rw [abs_le] <;> push_cast <;> constructor <;> linarith
  have scaled : quantizeTo quantum value - value =
      (halfEven (value / quantum) - value / quantum) * quantum := by
    unfold quantizeTo
    rw [sub_mul, div_mul_cancel₀ _ positive.ne']
  rw [scaled, abs_mul, abs_of_pos positive]
  calc |(halfEven (value / quantum) : ℚ) - value / quantum| * quantum
      ≤ 1 / 2 * quantum := mul_le_mul_of_nonneg_right near positive.le
    _ = quantum / 2 := by ring

theorem quantizeTo_neg (quantum value : ℚ) :
    quantizeTo quantum (-value) = -quantizeTo quantum value := by
  unfold quantizeTo
  rw [neg_div, halfEven_neg, Int.cast_neg, neg_mul]

theorem quantizeTo_nonneg {quantum value : ℚ} (positive : 0 < quantum)
    (nonneg : 0 ≤ value) : 0 ≤ quantizeTo quantum value := by
  have rounded : halfEven ((0 : ℤ) : ℚ) ≤ halfEven (value / quantum) :=
    halfEven_mono (by
      rw [Int.cast_zero]
      exact div_nonneg nonneg positive.le)
  rw [halfEven_intCast] at rounded
  exact mul_nonneg (by exact_mod_cast rounded) positive.le

theorem abs_quantizeTo {quantum : ℚ} (positive : 0 < quantum) (value : ℚ) :
    |quantizeTo quantum value| = quantizeTo quantum |value| := by
  rcases le_or_gt 0 value with nonneg | negative
  · rw [abs_of_nonneg nonneg, abs_of_nonneg (quantizeTo_nonneg positive nonneg)]
  · have mirrored := quantizeTo_nonneg positive (neg_nonneg.mpr negative.le)
    rw [quantizeTo_neg] at mirrored
    rw [abs_of_neg negative, quantizeTo_neg, abs_of_nonpos (neg_nonneg.mp mirrored)]

end GptTrader
