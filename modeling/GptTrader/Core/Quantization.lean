import Mathlib.Algebra.Order.Floor.Ring
import Mathlib.Algebra.Order.Field.Basic
import GptTrader.Core.OrderIntent

/-!
# Order quantization and product rules

`utilities/quantization.py` and the `validate_order` of the Coinbase product
specifications.  A quantity is floored to the step of its product; one below the
minimum is raised to it.
-/

namespace GptTrader

/-- `ROUND_DOWN`: towards zero. -/
def roundDown (value : ℚ) : ℤ :=
  if 0 ≤ value then ⌊value⌋ else ⌈value⌉

/-- `ROUND_UP`: away from zero. -/
def roundUp (value : ℚ) : ℤ :=
  if 0 ≤ value then ⌈value⌉ else ⌊value⌋

/-- Rounded down to steps, from the exact quotient. -/
def quantizeSize (size stepSize : ℚ) : ℚ :=
  if stepSize = 0 then size else roundDown (size / stepSize) * stepSize

/-- Rounded up to steps, from the exact quotient. -/
def quantizeSizeUp (size stepSize : ℚ) : ℚ :=
  if stepSize = 0 then size else roundUp (size / stepSize) * stepSize

/-- Down for a buy, up for a sale, from the exact quotient. -/
def quantizePriceSideAware (price increment : ℚ) (side : OrderSide) : ℚ :=
  if increment ≤ 0 then price
  else
    match side with
    | .sell => roundUp (price / increment) * increment
    | .buy => roundDown (price / increment) * increment

section Steps

variable {size step : ℚ}

theorem quantizeSize_le (positive : 0 < step) (nonNegative : 0 ≤ size) :
    quantizeSize size step ≤ size := by
  have quotient : 0 ≤ size / step := div_nonneg nonNegative positive.le
  unfold quantizeSize roundDown
  rw [if_neg positive.ne', if_pos quotient]
  calc (⌊size / step⌋ : ℚ) * step ≤ size / step * step :=
        mul_le_mul_of_nonneg_right (Int.floor_le _) positive.le
    _ = size := div_mul_cancel₀ size positive.ne'

theorem quantizeSizeUp_multiple (steps : ℤ) (positive : 0 < step) :
    quantizeSizeUp (steps * step) step = steps * step := by
  unfold quantizeSizeUp roundUp
  rw [if_neg positive.ne', mul_div_cancel_right₀ _ positive.ne']
  simp

theorem quantizeSizeUp_quantizeSize (positive : 0 < step) :
    quantizeSizeUp (quantizeSize size step) step = quantizeSize size step := by
  unfold quantizeSize
  rw [if_neg positive.ne']
  exact quantizeSizeUp_multiple _ positive

theorem quantizeSizeUp_idempotent (positive : 0 < step) :
    quantizeSizeUp (quantizeSizeUp size step) step =
      quantizeSizeUp size step := by
  have multiple : quantizeSizeUp size step = roundUp (size / step) * step := by
    unfold quantizeSizeUp
    rw [if_neg positive.ne']
  rw [multiple]
  exact quantizeSizeUp_multiple _ positive

end Steps

/-- What `validate_order` reads of a product. -/
structure ProductRules where
  stepSize : ℚ
  minSize : ℚ
  priceIncrement : ℚ
  minNotional : Option ℚ

namespace ProductRules

def step (product : ProductRules) : ℚ :=
  let step := if product.stepSize ≤ 0 then 1 / 100000000 else product.stepSize
  if 0 < product.minSize ∧ product.minSize < step then product.minSize / 10
  else step

theorem step_pos (product : ProductRules) : 0 < product.step := by
  have chosen : 0 < (if product.stepSize ≤ 0 then 1 / 100000000
      else product.stepSize) := by
    split
    · norm_num
    · next positive => exact not_le.mp positive
  unfold step
  simp only
  generalize (if product.stepSize ≤ 0 then 1 / 100000000
    else product.stepSize) = step at chosen
  split
  · next small => exact div_pos small.1 (by norm_num)
  · exact chosen

/-- The rounded size, or the least one. -/
def adjustQuantity (product : ProductRules) (quantity : ℚ) : ℚ :=
  let adjusted := quantizeSize quantity product.step
  if adjusted < product.minSize then
    quantizeSizeUp product.minSize product.step
  else adjusted

theorem quantizeSizeUp_adjustQuantity (product : ProductRules) (quantity : ℚ) :
    quantizeSizeUp (product.adjustQuantity quantity) product.step =
      product.adjustQuantity quantity := by
  unfold adjustQuantity
  simp only
  split
  · exact quantizeSizeUp_idempotent product.step_pos
  · exact quantizeSizeUp_quantizeSize product.step_pos

end ProductRules

/-- The verdict with the adjusted order. -/
structure ValidationResult where
  ok : Bool
  reason : Option String
  adjustedQuantity : Option ℚ
  adjustedPrice : Option ℚ

namespace ValidationResult

def failure (reason : String) : ValidationResult :=
  { ok := false
    reason := some reason
    adjustedQuantity := none
    adjustedPrice := none }

end ValidationResult

def OrderType.priced : OrderType → Bool
  | .limit => true
  | .stopLimit => true
  | _ => false

/-- The price an order is checked at: the quantized one of a priced order, the
given one of any other. -/
def adjustPrice (product : ProductRules) (side : OrderSide)
    (orderType : OrderType) (price : Option ℚ) :
    Except ValidationResult (Option ℚ) :=
  if orderType.priced then
    match price with
    | none => .error (.failure "price_required")
    | some price =>
        let adjusted := quantizePriceSideAware price product.priceIncrement side
        if 0 < product.priceIncrement ∧ 0 < adjusted ∧
            1 / 20 ≤ product.priceIncrement / adjusted then
          .error (.failure "price_increment_slippage")
        else .ok (some adjusted)
  else .ok price

def notionalShortfall (product : ProductRules) (quantity : ℚ)
    (price : Option ℚ) : Option ℚ :=
  match product.minNotional, price with
  | some minNotional, some price =>
      if 0 < price ∧ quantity * price < minNotional then
        let needed := quantizeSizeUp (minNotional / price) product.step
        some (if needed < product.minSize then product.minSize else needed)
      else none
  | _, _ => none

def validateOrder (product : ProductRules) (side : OrderSide)
    (quantity : Option ℚ) (orderType : OrderType) (price : Option ℚ) :
    ValidationResult :=
  match quantity with
  | none => .failure "quantity_missing"
  | some quantity =>
      let adjusted := product.adjustQuantity quantity
      match adjustPrice product side orderType price with
      | .error failure => failure
      | .ok price =>
          match notionalShortfall product adjusted price with
          | some needed =>
              { ok := false
                reason := some "min_notional"
                adjustedQuantity := some needed
                adjustedPrice := price }
          | none =>
              { ok := true
                reason := none
                adjustedQuantity := some (quantizeSizeUp adjusted product.step)
                adjustedPrice := price }

theorem validateOrder_market (product : ProductRules) (side : OrderSide)
    (quantity : ℚ) :
    validateOrder product side (some quantity) .market none =
      { ok := true
        reason := none
        adjustedQuantity := some (product.adjustQuantity quantity)
        adjustedPrice := none } := by
  have price : adjustPrice product side .market none = .ok none := rfl
  have enough : notionalShortfall product (product.adjustQuantity quantity)
      none = none := by
    unfold notionalShortfall
    cases product.minNotional <;> rfl
  simp only [validateOrder, price, enough,
    ProductRules.quantizeSizeUp_adjustQuantity]

end GptTrader
