import Mathlib.Tactic.Linarith
import GptTrader.Core.Quantization
import GptTrader.Library.Outcome

/-!
# Validated orders

What `validate_order` promises about an order it lets through: quantities and prices
on their grids that stay as they are when they are validated again, and a suggested
quantity that clears the minimum notional.  A buy price below the increment is
floored to zero, where the checks of slippage and notional are skipped.
-/

namespace GptTrader

/-! ## Grids -/

section Grid

variable {value step : ℚ}

/-- A whole number of steps. -/
def OnGrid (value step : ℚ) : Prop :=
  ∃ steps : ℤ, value = steps * step

theorem onGrid_quantizeSize (positive : 0 < step) :
    OnGrid (quantizeSize value step) step := by
  refine ⟨roundDown (value / step), ?_⟩
  unfold quantizeSize
  rw [if_neg positive.ne']

theorem onGrid_quantizeSizeUp (positive : 0 < step) :
    OnGrid (quantizeSizeUp value step) step := by
  refine ⟨roundUp (value / step), ?_⟩
  unfold quantizeSizeUp
  rw [if_neg positive.ne']

@[simp] theorem roundDown_intCast (value : ℤ) : roundDown value = value := by
  unfold roundDown
  split <;> simp

@[simp] theorem roundUp_intCast (value : ℤ) : roundUp value = value := by
  unfold roundUp
  split <;> simp

theorem OnGrid.quantizeSize (grid : OnGrid value step) (positive : 0 < step) :
    quantizeSize value step = value := by
  obtain ⟨steps, rfl⟩ := grid
  unfold GptTrader.quantizeSize
  rw [if_neg positive.ne', mul_div_cancel_right₀ _ positive.ne',
    roundDown_intCast]

theorem OnGrid.quantizeSizeUp (grid : OnGrid value step) (positive : 0 < step) :
    quantizeSizeUp value step = value := by
  obtain ⟨steps, rfl⟩ := grid
  exact quantizeSizeUp_multiple steps positive

theorem le_quantizeSizeUp (positive : 0 < step) (nonNegative : 0 ≤ value) :
    value ≤ quantizeSizeUp value step := by
  have quotient : 0 ≤ value / step := div_nonneg nonNegative positive.le
  unfold quantizeSizeUp roundUp
  rw [if_neg positive.ne', if_pos quotient]
  calc value = value / step * step := (div_mul_cancel₀ value positive.ne').symm
    _ ≤ (⌈value / step⌉ : ℚ) * step :=
        mul_le_mul_of_nonneg_right (Int.le_ceil _) positive.le

theorem quantizePriceSideAware_eq (positive : 0 < step) (side : OrderSide) :
    quantizePriceSideAware value step side =
      match side with
      | .buy => quantizeSize value step
      | .sell => quantizeSizeUp value step := by
  unfold quantizePriceSideAware quantizeSize quantizeSizeUp
  rw [if_neg (not_le.mpr positive), if_neg positive.ne', if_neg positive.ne']
  cases side with
  | buy => rfl
  | sell => rfl

theorem onGrid_quantizePriceSideAware (positive : 0 < step) (side : OrderSide) :
    OnGrid (quantizePriceSideAware value step side) step := by
  rw [quantizePriceSideAware_eq positive]
  cases side with
  | buy => exact onGrid_quantizeSize positive
  | sell => exact onGrid_quantizeSizeUp positive

theorem OnGrid.quantizePriceSideAware (grid : OnGrid value step)
    (positive : 0 < step) (side : OrderSide) :
    quantizePriceSideAware value step side = value := by
  rw [quantizePriceSideAware_eq positive]
  cases side with
  | buy => exact grid.quantizeSize positive
  | sell => exact grid.quantizeSizeUp positive

theorem quantizeSize_pos_iff (positive : 0 < step) (positiveValue : 0 < value) :
    0 < quantizeSize value step ↔ step ≤ value := by
  have quotient : 0 ≤ value / step := div_nonneg positiveValue.le positive.le
  unfold quantizeSize roundDown
  rw [if_neg positive.ne', if_pos quotient, mul_pos_iff_of_pos_right positive,
    Int.cast_pos, Int.floor_pos, one_le_div positive]

theorem quantizeSize_eq_zero (positive : 0 < step) (positiveValue : 0 < value)
    (below : value < step) : quantizeSize value step = 0 := by
  have quotient : 0 ≤ value / step := div_nonneg positiveValue.le positive.le
  have fraction : ⌊value / step⌋ = 0 := by
    rw [Int.floor_eq_zero_iff]
    exact ⟨quotient, (div_lt_one positive).mpr below⟩
  unfold quantizeSize roundDown
  rw [if_neg positive.ne', if_pos quotient, fraction, Int.cast_zero, zero_mul]

/-- The adjusted price is no worse for the customer. -/
def NotWorse (side : OrderSide) (adjusted requested : ℚ) : Prop :=
  match side with
  | .buy => adjusted ≤ requested
  | .sell => requested ≤ adjusted

theorem quantizePriceSideAware_notWorse (positive : 0 < step)
    (nonNegative : 0 ≤ value) (side : OrderSide) :
    NotWorse side (quantizePriceSideAware value step side) value := by
  rw [quantizePriceSideAware_eq positive]
  cases side with
  | buy => exact quantizeSize_le positive nonNegative
  | sell => exact le_quantizeSizeUp positive nonNegative

end Grid

/-! ## Validation -/

/-- A product whose minimum size, increment and minimum notional are positive. -/
structure ProductRules.Positive (product : ProductRules) : Prop where
  minSize : 0 < product.minSize
  priceIncrement : 0 < product.priceIncrement
  minNotional : ∀ notional, product.minNotional = some notional → 0 < notional

section Validation

variable {product : ProductRules} {side : OrderSide} {orderType : OrderType}
variable {quantity : ℚ} {price : Option ℚ}

theorem onGrid_adjustQuantity :
    OnGrid (product.adjustQuantity quantity) product.step := by
  unfold ProductRules.adjustQuantity
  dsimp only
  split
  · exact onGrid_quantizeSizeUp product.step_pos
  · exact onGrid_quantizeSize product.step_pos

theorem minSize_le_adjustQuantity (positive : product.Positive) :
    product.minSize ≤ product.adjustQuantity quantity := by
  unfold ProductRules.adjustQuantity
  dsimp only
  split
  · exact le_quantizeSizeUp product.step_pos positive.minSize.le
  · next enough => exact not_lt.mp enough

theorem adjustQuantity_eq_self (grid : OnGrid quantity product.step)
    (enough : product.minSize ≤ quantity) :
    product.adjustQuantity quantity = quantity := by
  unfold ProductRules.adjustQuantity
  rw [grid.quantizeSize product.step_pos]
  exact if_neg (not_lt.mpr enough)

def Slips (product : ProductRules) (side : OrderSide) (given : ℚ) : Prop :=
  0 < product.priceIncrement ∧
    0 < quantizePriceSideAware given product.priceIncrement side ∧
    1 / 20 ≤ product.priceIncrement /
      quantizePriceSideAware given product.priceIncrement side

/-- The price an order passes with: that of a priced order is quantized, that of any
other is taken as it is. -/
theorem adjustPrice_eq_ok {adjusted : Option ℚ} :
    adjustPrice product side orderType price = .ok adjusted ↔
      (orderType.priced = false ∧ adjusted = price) ∨
      (orderType.priced = true ∧ ∃ given, price = some given ∧
        adjusted =
          some (quantizePriceSideAware given product.priceIncrement side) ∧
        ¬Slips product side given) := by
  unfold adjustPrice
  cases priced : orderType.priced with
  | false => simp [eq_comm]
  | true =>
      rcases price with _ | given
      · simp
      · rw [if_pos rfl]
        dsimp only
        rw [Outcome.guard_eq_ok]
        constructor
        · rintro ⟨fits, passed⟩
          cases passed
          exact .inr ⟨rfl, given, rfl, rfl, fits⟩
        · rintro (⟨priced, _⟩ | ⟨_, other, same, rfl, fits⟩)
          · cases priced
          · cases same
            exact ⟨fits, rfl⟩

theorem adjustPrice_eq_error {failure : ValidationResult}
    (refused : adjustPrice product side orderType price = .error failure) :
    failure = .failure "price_required" ∨
      failure = .failure "price_increment_slippage" := by
  unfold adjustPrice at refused
  split at refused
  · split at refused
    · cases refused
      exact .inl rfl
    · dsimp only at refused
      split at refused
      · cases refused
        exact .inr rfl
      · cases refused
  · cases refused

theorem adjustPrice_again (positive : product.Positive) {adjusted : Option ℚ}
    (passed : adjustPrice product side orderType price = .ok adjusted) :
    adjustPrice product side orderType adjusted = .ok adjusted := by
  rw [adjustPrice_eq_ok] at passed ⊢
  rcases passed with ⟨free, _⟩ | ⟨priced, given, _, rfl, fits⟩
  · exact .inl ⟨free, rfl⟩
  · right
    have grid : OnGrid (quantizePriceSideAware given product.priceIncrement side)
        product.priceIncrement :=
      onGrid_quantizePriceSideAware positive.priceIncrement side
    have same := grid.quantizePriceSideAware positive.priceIncrement side
    refine ⟨priced, _, rfl, by rw [same], ?_⟩
    unfold Slips at fits ⊢
    rwa [same]

theorem notionalShortfall_eq_none :
    notionalShortfall product quantity price = none ↔
      ∀ notional given, product.minNotional = some notional →
        price = some given → 0 < given → notional ≤ quantity * given := by
  unfold notionalShortfall
  rcases product.minNotional with _ | notional
  · simp
  · rcases price with _ | given
    · simp
    · simp

/-- An order is refused, short of the least notional, or adjusted. -/
theorem validateOrder_cases (product : ProductRules) (side : OrderSide)
    (quantity : ℚ) (orderType : OrderType) (price : Option ℚ) :
    (∃ reason, validateOrder product side (some quantity) orderType price =
        .failure reason ∧ reason ≠ "min_notional") ∨
    (∃ adjusted needed,
      adjustPrice product side orderType price = .ok adjusted ∧
      notionalShortfall product (product.adjustQuantity quantity) adjusted =
        some needed ∧
      validateOrder product side (some quantity) orderType price =
        { ok := false
          reason := some "min_notional"
          adjustedQuantity := some needed
          adjustedPrice := adjusted }) ∨
    (∃ adjusted, adjustPrice product side orderType price = .ok adjusted ∧
      notionalShortfall product (product.adjustQuantity quantity) adjusted = none ∧
      validateOrder product side (some quantity) orderType price =
        { ok := true
          reason := none
          adjustedQuantity := some (product.adjustQuantity quantity)
          adjustedPrice := adjusted }) := by
  unfold validateOrder
  dsimp only
  rcases passed : adjustPrice product side orderType price with failure | adjusted
  · left
    rcases adjustPrice_eq_error passed with rfl | rfl
    · exact ⟨_, rfl, by decide⟩
    · exact ⟨_, rfl, by decide⟩
  · right
    dsimp only
    rcases short : notionalShortfall product (product.adjustQuantity quantity)
      adjusted with _ | needed
    · right
      refine ⟨adjusted, rfl, short, ?_⟩
      rw [ProductRules.quantizeSizeUp_adjustQuantity]
    · left
      exact ⟨adjusted, needed, rfl, short, rfl⟩

theorem validateOrder_eq_self {adjusted : Option ℚ}
    (grid : OnGrid quantity product.step) (enough : product.minSize ≤ quantity)
    (fits : adjustPrice product side orderType price = .ok adjusted)
    (clears : notionalShortfall product quantity adjusted = none) :
    validateOrder product side (some quantity) orderType price =
      { ok := true
        reason := none
        adjustedQuantity := some quantity
        adjustedPrice := adjusted } := by
  unfold validateOrder
  dsimp only
  rw [fits, adjustQuantity_eq_self grid enough]
  dsimp only
  rw [clears, grid.quantizeSizeUp product.step_pos]

end Validation

/-! ## What an accepted order promises -/

/-- The promises of `validate_order` about one order. -/
structure Placeable (product : ProductRules) (side : OrderSide) (quantity : ℚ)
    (orderType : OrderType) (price : Option ℚ) (result : ValidationResult) :
    Prop where
  sizes : result.ok = true → ∃ adjusted,
    result.adjustedQuantity = some adjusted ∧ product.minSize ≤ adjusted ∧
      OnGrid adjusted product.step
  prices : result.ok = true → orderType.priced = true →
    ∃ given adjusted, price = some given ∧
      result.adjustedPrice = some adjusted ∧ 0 < adjusted ∧
      OnGrid adjusted product.priceIncrement ∧ NotWorse side adjusted given
  clears : result.ok = true → ∀ adjusted given notional,
    result.adjustedQuantity = some adjusted →
    result.adjustedPrice = some given → product.minNotional = some notional →
    notional ≤ adjusted * given
  stable : result.ok = true →
    validateOrder product side result.adjustedQuantity orderType
      result.adjustedPrice = result
  suggests : result.reason = some "min_notional" →
    (validateOrder product side result.adjustedQuantity orderType price).ok =
        true ∧
      (validateOrder product side result.adjustedQuantity orderType
        result.adjustedPrice).ok = true

section Promises

variable {product : ProductRules} {side : OrderSide} {orderType : OrderType}
variable {quantity : ℚ} {price : Option ℚ}

/-- A suggested quantity is on the grid, reaches the minimum size, and clears the
minimum notional at its price. -/
theorem suggested (positive : product.Positive) {adjusted : Option ℚ} {needed : ℚ}
    (short : notionalShortfall product (product.adjustQuantity quantity) adjusted =
      some needed) :
    OnGrid needed product.step ∧ product.minSize ≤ needed ∧
      notionalShortfall product needed adjusted = none := by
  unfold notionalShortfall at short
  rcases found : product.minNotional with _ | notional
  · simp [found] at short
  · rcases adjusted with _ | given
    · simp [found] at short
    · simp only [found] at short
      split at short
      · next low =>
          obtain ⟨positivePrice, below⟩ := low
          have least : product.minSize ≤ product.adjustQuantity quantity :=
            minSize_le_adjustQuantity positive
          have worth : 0 < notional / given :=
            div_pos (positive.minNotional notional found) positivePrice
          have enough : notional / given ≤
              quantizeSizeUp (notional / given) product.step :=
            le_quantizeSizeUp product.step_pos worth.le
          have cleared : notional ≤
              quantizeSizeUp (notional / given) product.step * given :=
            (div_le_iff₀ positivePrice).mp enough
          -- the adjusted quantity reaches the minimum and is too small
          have reaches : product.minSize ≤
              quantizeSizeUp (notional / given) product.step := by
            have more : product.adjustQuantity quantity * given <
                quantizeSizeUp (notional / given) product.step * given :=
              lt_of_lt_of_le below cleared
            exact le_trans least (lt_of_mul_lt_mul_right more positivePrice.le).le
          rw [if_neg (not_lt.mpr reaches)] at short
          cases short
          refine ⟨onGrid_quantizeSizeUp product.step_pos, reaches, ?_⟩
          rw [notionalShortfall_eq_none]
          intro other price same samePrice _
          cases samePrice
          rw [found] at same
          cases same
          exact cleared
      · cases short

theorem Placeable.of_refused {result : ValidationResult}
    (refused : result.ok = false)
    (suggests : result.reason = some "min_notional" →
      (validateOrder product side result.adjustedQuantity orderType price).ok =
          true ∧
        (validateOrder product side result.adjustedQuantity orderType
          result.adjustedPrice).ok = true) :
    Placeable product side quantity orderType price result := by
  have never : result.ok ≠ true := by
    rw [refused]
    exact Bool.false_ne_true
  exact
    { sizes := fun ok => absurd ok never
      prices := fun ok => absurd ok never
      clears := fun ok => absurd ok never
      stable := fun ok => absurd ok never
      suggests }

/-- Every promise but the positive price holds of every order, and with it the one
about the notional. -/
theorem placeable_iff_positive (positive : product.Positive)
    (positivePrice : ∀ given, price = some given → 0 < given) :
    Placeable product side quantity orderType price
        (validateOrder product side (some quantity) orderType price) ↔
      ((validateOrder product side (some quantity) orderType price).ok = true →
        ∀ adjusted,
          (validateOrder product side (some quantity) orderType
            price).adjustedPrice = some adjusted → 0 < adjusted) := by
  rcases validateOrder_cases product side quantity orderType price with
    ⟨reason, ended, other⟩ | ⟨adjusted, needed, passed, short, ended⟩ |
      ⟨adjusted, passed, clears, ended⟩
  · rw [ended]
    apply iff_of_true
    · apply Placeable.of_refused rfl
      intro named
      exact absurd (Option.some.inj named) other
    · intro ok
      cases ok
  · rw [ended]
    apply iff_of_true
    · apply Placeable.of_refused rfl
      intro _
      obtain ⟨grid, enough, clears⟩ := suggested positive short
      dsimp only
      rw [validateOrder_eq_self grid enough passed clears,
        validateOrder_eq_self grid enough (adjustPrice_again positive passed) clears]
      exact ⟨rfl, rfl⟩
    · intro ok
      cases ok
  · rw [ended]
    dsimp only
    have grid : OnGrid (product.adjustQuantity quantity) product.step :=
      onGrid_adjustQuantity
    have enough : product.minSize ≤ product.adjustQuantity quantity :=
      minSize_le_adjustQuantity positive
    constructor
    · rintro placeable _ value rfl
      rcases adjustPrice_eq_ok.mp passed with ⟨_, same⟩ | ⟨priced, _⟩
      · exact positivePrice value same.symm
      · obtain ⟨_, worth, _, same, above, _⟩ := placeable.prices rfl priced
        cases same
        exact above
    · intro above
      constructor
      case sizes =>
        intro _
        exact ⟨_, rfl, enough, grid⟩
      case prices =>
        intro _ priced
        rcases adjustPrice_eq_ok.mp passed with ⟨free, _⟩ | ⟨_, given, rfl, rfl, _⟩
        · rw [priced] at free
          cases free
        · have worth : 0 < given := positivePrice given rfl
          exact ⟨given, _, rfl, rfl, above rfl _ rfl,
            onGrid_quantizePriceSideAware positive.priceIncrement side,
            quantizePriceSideAware_notWorse positive.priceIncrement worth.le side⟩
      case clears =>
        intro _ amount given notional sameAmount samePrice found
        cases sameAmount
        cases samePrice
        exact notionalShortfall_eq_none.mp clears notional given found rfl
          (above rfl given rfl)
      case stable =>
        intro _
        exact validateOrder_eq_self grid enough (adjustPrice_again positive passed)
          clears
      case suggests =>
        intro named
        cases named

theorem validateOrder_zero (quantity : ℚ) {given : ℚ} (positive : product.Positive)
    (priced : orderType.priced = true) (worth : 0 < given)
    (below : given < product.priceIncrement) :
    validateOrder product .buy (some quantity) orderType (some given) =
      { ok := true
        reason := none
        adjustedQuantity := some (product.adjustQuantity quantity)
        adjustedPrice := some 0 } := by
  have floored : quantizePriceSideAware given product.priceIncrement .buy = 0 := by
    rw [quantizePriceSideAware_eq positive.priceIncrement]
    exact quantizeSize_eq_zero positive.priceIncrement worth below
  have passed : adjustPrice product .buy orderType (some given) = .ok (some 0) := by
    rw [adjustPrice_eq_ok]
    right
    refine ⟨priced, given, rfl, by rw [floored], ?_⟩
    intro slips
    have above := slips.2.1
    rw [floored] at above
    exact lt_irrefl _ above
  have clears : notionalShortfall product (product.adjustQuantity quantity)
      (some 0) = none := by
    rw [notionalShortfall_eq_none]
    intro _ price _ same above
    cases same
    exact absurd above (lt_irrefl _)
  unfold validateOrder
  dsimp only
  rw [passed]
  dsimp only
  rw [clears, ProductRules.quantizeSizeUp_adjustQuantity]

/-- In exact arithmetic an order keeps every promise exactly when it is not a
priced buy below the increment. -/
theorem validate_order_placeable_iff (product : ProductRules) (side : OrderSide)
    (quantity : ℚ) (orderType : OrderType) (price : Option ℚ)
    (positive : product.Positive)
    (positivePrice : ∀ given, price = some given → 0 < given) :
    Placeable product side quantity orderType price
        (validateOrder product side (some quantity) orderType price) ↔
      (orderType.priced = true → side = .buy →
        ∀ given, price = some given → product.priceIncrement ≤ given) := by
  rw [placeable_iff_positive positive positivePrice]
  constructor
  · rintro above priced rfl given rfl
    by_contra below
    have zero := validateOrder_zero quantity positive priced
      (positivePrice given rfl) (not_le.mp below)
    rw [zero] at above
    exact lt_irrefl _ (above rfl 0 rfl)
  · intro reaches ok value found
    rcases validateOrder_cases product side quantity orderType price with
      ⟨reason, ended, _⟩ | ⟨adjusted, needed, _, _, ended⟩ |
        ⟨adjusted, passed, _, ended⟩
    · rw [ended] at ok
      cases ok
    · rw [ended] at ok
      cases ok
    · rw [ended] at found
      cases found
      rcases adjustPrice_eq_ok.mp passed with
        ⟨_, same⟩ | ⟨priced, given, rfl, same, _⟩
      · exact positivePrice value same.symm
      · cases same
        have worth : 0 < given := positivePrice given rfl
        rw [quantizePriceSideAware_eq positive.priceIncrement]
        cases side with
        | buy =>
            exact (quantizeSize_pos_iff positive.priceIncrement worth).mpr
              (reaches priced rfl given rfl)
        | sell =>
            exact lt_of_lt_of_le worth
              (le_quantizeSizeUp positive.priceIncrement worth.le)

def pennyRules : ProductRules :=
  { stepSize := 1 / 1000
    minSize := 1 / 1000
    priceIncrement := 1 / 100
    minNotional := some 10 }

theorem pennyRules_positive : pennyRules.Positive where
  minSize := by norm_num [pennyRules]
  priceIncrement := by norm_num [pennyRules]
  minNotional := by
    intro notional same
    cases same
    norm_num

/-- Under penny rules a size is raised to the least one. -/
theorem pennyRules_placeable :
    Placeable pennyRules .buy (1 / 2000) .limit (some (41 / 2))
        (validateOrder pennyRules .buy (some (1 / 2000)) .limit
          (some (41 / 2))) ↔
      (OrderType.limit.priced = true → OrderSide.buy = .buy →
        ∀ given, some (41 / 2 : ℚ) = some given →
          pennyRules.priceIncrement ≤ given) :=
  validate_order_placeable_iff pennyRules .buy (1 / 2000) .limit (some (41 / 2))
    pennyRules_positive (by
      intro given same
      cases same
      norm_num)

/-- A limit buy at half a cent passes at a price of zero, below every minimum
notional. -/
theorem half_cent_buy_passes :
    ¬Placeable pennyRules .buy 1 .limit (some (1 / 200))
      (validateOrder pennyRules .buy (some 1) .limit (some (1 / 200))) := by
  intro placeable
  have zero : validateOrder pennyRules .buy (some 1) .limit (some (1 / 200)) =
      { ok := true
        reason := none
        adjustedQuantity := some (pennyRules.adjustQuantity 1)
        adjustedPrice := some 0 } :=
    validateOrder_zero 1 pennyRules_positive rfl (by norm_num)
      (by norm_num [pennyRules])
  rw [zero] at placeable
  have short := placeable.clears rfl _ 0 10 rfl rfl rfl
  norm_num at short

end Promises

end GptTrader
