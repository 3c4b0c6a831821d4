import GptTrader.Core.ValidatedOrders

/-!
# Safe position sizes

The module-level `calculate_safe_position_size` of the Coinbase product
specifications: a quantity is raised to clear the minimum size and notional with a
buffer, capped at the maximum, and dropped where the cap undoes what was raised.
Decimals are exact.
-/

namespace GptTrader

/-- What the sizing reads of a product besides its rules. -/
structure SizedProduct extends ProductRules where
  maxSize : Option ℚ

namespace SizedProduct

variable (product : SizedProduct)

def bufferMultiplier : ℚ := 11 / 10

/-- The step sizes are rounded up to. -/
def safeStep : ℚ :=
  let step :=
    if product.stepSize ≤ 0 then
      if 0 < product.minSize then product.minSize / 10 else 1 / 100000000
    else product.stepSize
  let step :=
    if 0 < product.minSize ∧ product.minSize < step then product.minSize / 10
    else step
  if step ≤ 0 then 1 / 100000000 else step

/-- The least size with its buffer. -/
def minBufferTarget : ℚ :=
  product.minSize * bufferMultiplier

def bufferedQuantity (intended : ℚ) : ℚ :=
  let step := product.safeStep
  let baseTarget := max intended (product.minSize * bufferMultiplier)
  let safe := quantizeSizeUp baseTarget step
  let safe :=
    if safe < product.minSize then quantizeSizeUp product.minSize step else safe
  if safe < product.minBufferTarget then
    quantizeSizeUp product.minBufferTarget step
  else safe

/-- The size raised to the least notional. -/
def notionalQuantity (price safe : ℚ) : ℚ :=
  match product.minNotional with
  | none => safe
  | some minNotional =>
      let target := minNotional * bufferMultiplier
      if 0 < price ∧ safe * price < target then
        quantizeSizeUp (target / price) product.safeStep
      else safe

/-- The size cut to the maximum. -/
def cappedQuantity (safe : ℚ) : ℚ :=
  match product.maxSize with
  | none => safe
  | some maxSize =>
      if 0 < maxSize ∧ maxSize < safe then
        quantizeSize maxSize product.safeStep
      else safe

def droppedQuantity (price safe : ℚ) : ℚ :=
  if 0 < safe then
    if safe < product.minBufferTarget then 0
    else
      match product.minNotional with
      | none => safe
      | some minNotional =>
          if 0 < price ∧ safe * price < minNotional then 0 else safe
  else safe

/-- The size the sizing helper returns. -/
def calculateSafePositionSize (intended price : ℚ) : ℚ :=
  let safe := product.bufferedQuantity intended
  let safe := product.notionalQuantity price safe
  let safe := product.cappedQuantity safe
  let safe := product.droppedQuantity price safe
  if safe < 0 then 0 else safe

/-- A quantity on the step that clears the minimum with its buffer and the notional
at a price, within the maximum; a maximum that is not positive is none. -/
structure Clears (price quantity : ℚ) : Prop where
  grid : OnGrid quantity product.step
  buffered : product.minBufferTarget ≤ quantity
  notional : ∀ minNotional ∈ product.minNotional, minNotional ≤ quantity * price
  capped : ∀ maxSize ∈ product.maxSize, 0 < maxSize → quantity ≤ maxSize

end SizedProduct

/-! ## Rounding -/

section Rounding

variable {value step candidate : ℚ}

theorem le_quantizeSize_of_grid (grid : OnGrid candidate step)
    (positive : 0 < step) (nonneg : 0 ≤ value) (below : candidate ≤ value) :
    candidate ≤ quantizeSize value step := by
  obtain ⟨steps, rfl⟩ := grid
  have quotient : 0 ≤ value / step := div_nonneg nonneg positive.le
  unfold quantizeSize roundDown
  rw [if_neg positive.ne', if_pos quotient]
  apply mul_le_mul_of_nonneg_right _ positive.le
  rw [Int.cast_le, Int.le_floor]
  exact (le_div_iff₀ positive).mpr below

theorem quantizeSize_nonneg (positive : 0 < step) (nonneg : 0 ≤ value) :
    0 ≤ quantizeSize value step := by
  have zero : OnGrid 0 step := ⟨0, by simp⟩
  exact le_quantizeSize_of_grid zero positive nonneg nonneg

end Rounding

namespace SizedProduct

section Sizes

variable {product : SizedProduct} {price : ℚ}
  (positive : 0 < product.stepSize ∧ 0 < product.minSize) (priced : 0 < price)

include positive

theorem safeStep_eq : product.safeStep = product.step := by
  have stepped := product.step_pos
  unfold ProductRules.step at stepped ⊢
  unfold safeStep
  simp only [if_neg (not_le.mpr positive.1)] at stepped ⊢
  exact if_neg (not_le.mpr stepped)

theorem minBufferTarget_pos : 0 < product.minBufferTarget :=
  mul_pos positive.2 (by norm_num [bufferMultiplier])

theorem bufferedQuantity_spec (intended : ℚ) :
    OnGrid (product.bufferedQuantity intended) product.step ∧
      product.minBufferTarget ≤ product.bufferedQuantity intended := by
  have target := minBufferTarget_pos positive
  have stepped := product.step_pos
  set base := max intended (product.minSize * bufferMultiplier)
  have above : product.minBufferTarget ≤ base := le_max_right _ _
  have raised := above.trans
    (le_quantizeSizeUp stepped (target.le.trans above))
  have small : product.minSize < product.minBufferTarget := by
    unfold minBufferTarget bufferMultiplier
    linarith [positive.2]
  have same : product.bufferedQuantity intended =
      quantizeSizeUp base product.step := by
    unfold bufferedQuantity
    dsimp only
    rw [safeStep_eq positive, if_neg (small.le.trans raised).not_gt,
      if_neg raised.not_gt]
  rw [same]
  exact ⟨onGrid_quantizeSizeUp stepped, raised⟩

include priced

theorem notionalQuantity_spec {safe : ℚ} (grid : OnGrid safe product.step)
    (buffered : product.minBufferTarget ≤ safe) :
    OnGrid (product.notionalQuantity price safe) product.step ∧
      product.minBufferTarget ≤ product.notionalQuantity price safe ∧
      ∀ minNotional ∈ product.minNotional,
        minNotional ≤ product.notionalQuantity price safe * price := by
  have worth : 0 < safe * price :=
    mul_pos ((minBufferTarget_pos positive).trans_le buffered) priced
  unfold notionalQuantity
  cases product.minNotional with
  | none => exact ⟨grid, buffered, fun _ member => nomatch member⟩
  | some minNotional =>
      dsimp only
      rw [safeStep_eq positive]
      split
      · next short =>
          have large : 0 < minNotional * bufferMultiplier :=
            worth.trans short.2
          have needed : 0 < minNotional := by
            unfold bufferMultiplier at large
            linarith
          have raised : minNotional * bufferMultiplier / price ≤
              quantizeSizeUp (minNotional * bufferMultiplier / price)
                product.step :=
            le_quantizeSizeUp product.step_pos (div_pos large priced).le
          refine ⟨onGrid_quantizeSizeUp product.step_pos, ?_, ?_⟩
          · have above : safe < minNotional * bufferMultiplier / price :=
              (lt_div_iff₀ priced).mpr short.2
            exact buffered.trans (above.le.trans raised)
          · rintro other ⟨⟩
            have more : minNotional ≤ minNotional * bufferMultiplier := by
              unfold bufferMultiplier
              linarith
            exact more.trans ((div_le_iff₀ priced).mp raised)
      · next enough =>
          refine ⟨grid, buffered, ?_⟩
          rintro other ⟨⟩
          have reached := not_lt.mp fun short => enough ⟨priced, short⟩
          unfold bufferMultiplier at reached
          rcases le_total minNotional 0 with small | needed
          · exact small.trans worth.le
          · linarith

/-- What the sizing does with its cap: the quantity clears everything, or the
greatest multiple below the maximum misses the buffer or the notional. -/
theorem cappedQuantity_cases (intended : ℚ) :
    let safe := product.cappedQuantity
      (product.notionalQuantity price (product.bufferedQuantity intended))
    product.Clears price safe ∨
      (0 ≤ safe ∧ OnGrid safe product.step ∧
        (∀ maxSize ∈ product.maxSize, 0 < maxSize → safe ≤ maxSize) ∧
        ∀ candidate, product.Clears price candidate → candidate ≤ safe) := by
  obtain ⟨grid, buffered⟩ := bufferedQuantity_spec positive intended
  obtain ⟨grid, buffered, notional⟩ :=
    notionalQuantity_spec positive priced grid buffered
  unfold cappedQuantity
  cases sized : product.maxSize with
  | none =>
      left
      exact ⟨grid, buffered, notional, by rw [sized]; rintro _ ⟨⟩⟩
  | some maxSize =>
      dsimp only
      rw [safeStep_eq positive]
      split
      · next large =>
          right
          refine ⟨quantizeSize_nonneg product.step_pos large.1.le,
            onGrid_quantizeSize product.step_pos, ?_, ?_⟩
          · rintro other ⟨⟩ _
            exact quantizeSize_le product.step_pos large.1.le
          · intro candidate clears
            exact le_quantizeSize_of_grid clears.grid product.step_pos
              large.1.le (clears.capped maxSize sized large.1)
      · next fits =>
          left
          refine ⟨grid, buffered, notional, ?_⟩
          rintro other member bounded
          rw [sized] at member
          cases member
          exact not_lt.mp fun above => fits ⟨bounded, above⟩

omit positive in
theorem droppedQuantity_eq {safe : ℚ} (nonneg : 0 ≤ safe)
    (grid : OnGrid safe product.step)
    (capped : ∀ maxSize ∈ product.maxSize, 0 < maxSize → safe ≤ maxSize)
    (misses : ¬product.Clears price safe) :
    product.droppedQuantity price safe = 0 := by
  unfold droppedQuantity
  by_cases sized : 0 < safe
  · rw [if_pos sized]
    by_cases buffered : product.minBufferTarget ≤ safe
    · rw [if_neg buffered.not_gt]
      cases noted : product.minNotional with
      | none =>
          exact absurd ⟨grid, buffered, by rw [noted]; rintro _ ⟨⟩, capped⟩ misses
      | some minNotional =>
          apply if_pos
          refine ⟨priced, not_le.mp fun enough => misses ?_⟩
          refine ⟨grid, buffered, ?_, capped⟩
          rintro other member
          rw [noted] at member
          cases member
          exact enough
    · exact if_pos (not_le.mp buffered)
  · rw [if_neg sized]
    exact le_antisymm (not_lt.mp sized) nonneg

omit priced in
theorem droppedQuantity_clears {safe : ℚ} (clears : product.Clears price safe) :
    product.droppedQuantity price safe = safe := by
  have sized := (minBufferTarget_pos positive).trans_le clears.buffered
  unfold droppedQuantity
  rw [if_pos sized, if_neg clears.buffered.not_gt]
  cases noted : product.minNotional with
  | none => rfl
  | some minNotional =>
      exact if_neg fun short =>
        (clears.notional minNotional noted).not_gt short.2

theorem calculateSafePositionSize_spec (intended : ℚ) :
    let size := product.calculateSafePositionSize intended price
    (size = 0 ∧ ∀ candidate, ¬product.Clears price candidate) ∨
      product.Clears price size := by
  have cases := cappedQuantity_cases positive priced intended
  unfold calculateSafePositionSize
  dsimp only at cases ⊢
  set safe := product.cappedQuantity
    (product.notionalQuantity price (product.bufferedQuantity intended))
  by_cases clears : product.Clears price safe
  · right
    have sized := (minBufferTarget_pos positive).trans_le clears.buffered
    rw [droppedQuantity_clears positive clears, if_neg sized.le.not_gt]
    exact clears
  · left
    obtain ⟨nonneg, grid, capped, greatest⟩ := cases.resolve_left clears
    rw [droppedQuantity_eq priced nonneg grid capped clears,
      if_neg (lt_irrefl 0)]
    refine ⟨rfl, fun candidate passes => clears ?_⟩
    have below := greatest candidate passes
    refine ⟨grid, passes.buffered.trans below, ?_, capped⟩
    intro minNotional member
    exact (passes.notional minNotional member).trans
      (mul_le_mul_of_nonneg_right below priced.le)

omit priced in
theorem Clears.validates {size : ℚ} (clears : product.Clears price size)
    (side : OrderSide)
    (placed : product.priceIncrement ≤ 0 ∨ OnGrid price product.priceIncrement)
    (fits : ¬Slips product.toProductRules side price) :
    validateOrder product.toProductRules side (some size) .limit (some price) =
      { ok := true
        reason := none
        adjustedQuantity := some size
        adjustedPrice := some price } := by
  have same : quantizePriceSideAware price product.priceIncrement side =
      price := by
    by_cases free : product.priceIncrement ≤ 0
    · exact if_pos free
    · exact (placed.resolve_left free).quantizePriceSideAware (not_le.mp free)
        side
  have enough : product.minSize ≤ size := by
    have buffered := clears.buffered
    unfold minBufferTarget bufferMultiplier at buffered
    linarith [positive.2]
  apply validateOrder_eq_self clears.grid enough
  · rw [adjustPrice_eq_ok]
    exact .inr ⟨rfl, price, rfl, by rw [same], fits⟩
  · rw [notionalShortfall_eq_none]
    rintro minNotional given noted ⟨⟩ _
    exact clears.notional minNotional noted

end Sizes

end SizedProduct

/-- In exact arithmetic the safe size is zero, and then nothing clears the bounds,
or it clears them and passes its validation at the reference price, unchanged. -/
theorem safe_sizes_are_accepted (product : SizedProduct)
    (positive : 0 < product.stepSize ∧ 0 < product.minSize)
    (intended price : ℚ) (priced : 0 < price) :
    let size := product.calculateSafePositionSize intended price
    (size = 0 ∧ ∀ candidate, ¬product.Clears price candidate) ∨
      (product.Clears price size ∧
        ∀ side,
          (product.priceIncrement ≤ 0 ∨ OnGrid price product.priceIncrement) →
          ¬Slips product.toProductRules side price →
          validateOrder product.toProductRules side (some size) .limit
              (some price) =
            { ok := true
              reason := none
              adjustedQuantity := some size
              adjustedPrice := some price }) := by
  rcases SizedProduct.calculateSafePositionSize_spec positive priced intended with
    dropped | clears
  · exact .inl dropped
  · exact .inr ⟨clears, fun side placed fits =>
      clears.validates positive side placed fits⟩

def coarseCoins (maxSize : Option ℚ) : SizedProduct :=
  { stepSize := 3
    minSize := 2
    priceIncrement := 1 / 100
    minNotional := some 50
    maxSize := maxSize }

/-- Fifty dollars with the buffer take more coins than were intended. -/
theorem coarse_coins_are_accepted :
    let product := coarseCoins (some 100)
    let size := product.calculateSafePositionSize 1 10
    size = 28 / 5 ∧
    ((size = 0 ∧ ∀ candidate, ¬product.Clears 10 candidate) ∨
      (product.Clears 10 size ∧
        ∀ side,
          (product.priceIncrement ≤ 0 ∨ OnGrid 10 product.priceIncrement) →
          ¬Slips product.toProductRules side 10 →
          validateOrder product.toProductRules side (some size) .limit
              (some 10) =
            { ok := true
              reason := none
              adjustedQuantity := some size
              adjustedPrice := some 10 })) :=
  ⟨by decide +kernel,
    safe_sizes_are_accepted (coarseCoins (some 100)) (by decide +kernel) 1 10
      (by norm_num)⟩

/-- A maximum of zero does not cap. -/
theorem zero_maximum_does_not_cap :
    (coarseCoins (some 0)).calculateSafePositionSize 1 10 = 28 / 5 := by
  decide +kernel

end GptTrader
