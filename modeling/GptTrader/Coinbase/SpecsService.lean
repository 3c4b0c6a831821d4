import GptTrader.Core.SafeSizes
import GptTrader.Persistence.OrderRuns

/-!
# Sizes of the specifications service

`SpecsService` (`features/brokerages/coinbase/specs.py`): sizes from a notional,
and the validation of an order.  The branches that cap a size or raise it to the
minimum notional return early, and not every size they return is valid.  Floats
are taken as the numbers they stand for.
-/

namespace GptTrader

/-- `ProductSpec`, as far as the service reads it. -/
structure ProductSpec where
  minSize : ℚ
  stepSize : ℚ
  priceIncrement : ℚ
  minNotional : ℚ
  maxSize : ℚ
  safeBuffer : ℚ

/-- `decimal.DivisionByZero` or `decimal.InvalidOperation`. -/
inductive SizingError where
  | division
  deriving DecidableEq

/-- What `SpecsService.validate_order` returns. -/
structure SpecsValidation where
  valid : Bool
  adjustedSize : Option ℚ
  adjustedPrice : Option ℚ
  reasons : List String

namespace ProductSpec

variable (spec : ProductSpec)

def quantizeSize (size : ℚ) : ℚ :=
  if spec.stepSize ≤ 0 then size else ⌊size / spec.stepSize⌋ * spec.stepSize

def sizeWithMinimum (rawSize : ℚ) : ℚ × String :=
  let safeSize := rawSize * (1 - spec.safeBuffer)
  let quantized := spec.quantizeSize safeSize
  if quantized < spec.minSize then
    let buffered := spec.minSize * (1 + spec.safeBuffer)
    let quantized := spec.quantizeSize buffered
    (if quantized < spec.minSize then spec.minSize else quantized,
      "adjusted_to_min_with_buffer")
  else (quantized, "within_limits")

def calculateSafePositionSize (targetNotional markPrice : ℚ) :
    Except SizingError (ℚ × String) :=
  if markPrice = 0 then .error .division
  else
    let (quantized, reason) := spec.sizeWithMinimum (targetNotional / markPrice)
    if spec.maxSize < quantized then .ok (spec.maxSize, "capped_at_maximum")
    else if quantized * markPrice < spec.minNotional then
      let minSize := spec.quantizeSize
        (spec.minNotional * (1 + spec.safeBuffer) / markPrice)
      if minSize ≤ spec.maxSize then .ok (minSize, "adjusted_for_min_notional")
      else .ok (0, "cannot_meet_min_notional")
    else .ok (quantized, reason)

/-- `validate_order`, of an order for a side and type. -/
def validateOrder (formats : TextFormats) (side : OrderSide)
    (orderType : OrderType) (size : ℚ) (price : Option ℚ) : SpecsValidation :=
  let show' := fun value => formats.showDecimal (.finite value)
  let quantized := spec.quantizeSize size
  let reasons :=
    if quantized ≠ size then ["size_quantized_to_" ++ show' quantized] else []
  if quantized < spec.minSize then
    { valid := false
      adjustedSize := some quantized
      adjustedPrice := none
      reasons := reasons ++ ["size_below_minimum_" ++ show' spec.minSize] }
  else if spec.maxSize < quantized then
    { valid := false
      adjustedSize := some quantized
      adjustedPrice := none
      reasons := reasons ++ ["size_above_maximum_" ++ show' spec.maxSize] }
  else
    match orderType.priced, price with
    | true, some price =>
        let quantizedPrice :=
          quantizePriceSideAware price spec.priceIncrement side
        let reasons :=
          if quantizedPrice ≠ price then
            reasons ++ ["price_quantized_to_" ++ show' quantizedPrice]
          else reasons
        if quantized * quantizedPrice < spec.minNotional then
          { valid := false
            adjustedSize := some quantized
            adjustedPrice := some quantizedPrice
            reasons := reasons ++
              ["notional_below_minimum_" ++ show' spec.minNotional] }
        else
          { valid := true
            adjustedSize := some quantized
            adjustedPrice := some quantizedPrice
            reasons := reasons }
    | _, price =>
        { valid := true
          adjustedSize := some quantized
          adjustedPrice := price
          reasons := reasons }

/-! ## What validation asks of a size -/

/-- The size is within every limit, at a price. -/
structure Allows (price size : ℚ) : Prop where
  whole : spec.quantizeSize size = size
  least : spec.minSize ≤ size
  most : size ≤ spec.maxSize
  notional : spec.minNotional ≤ size * price

/-- What the target buys less the buffer, on the step and not below the minimum,
which takes the buffer where the step allows it. -/
def soughtSize (targetNotional markPrice : ℚ) : ℚ :=
  let bought :=
    spec.quantizeSize (targetNotional / markPrice * (1 - spec.safeBuffer))
  if spec.minSize ≤ bought then bought
  else max spec.minSize
    (spec.quantizeSize (spec.minSize * (1 + spec.safeBuffer)))

def notionalSize (markPrice : ℚ) : ℚ :=
  spec.quantizeSize (spec.minNotional * (1 + spec.safeBuffer) / markPrice)

def OnStep (size : ℚ) : Prop :=
  spec.stepSize ≤ 0 ∨ OnGrid size spec.stepSize

/-- The limits agree on a target: a maximum that caps it is on the step, reaches the
minimum size and is worth the minimum notional; a minimum size that it is raised to
is on the step; and some size within the buffer is worth the minimum notional. -/
structure LimitsAgree (targetNotional markPrice : ℚ) : Prop where
  capped : spec.maxSize < spec.soughtSize targetNotional markPrice →
    spec.maxSize = 0 ∨
      (spec.OnStep spec.maxSize ∧ spec.minSize ≤ spec.maxSize ∧
        spec.minNotional ≤ spec.maxSize * markPrice)
  kept : spec.soughtSize targetNotional markPrice ≤ spec.maxSize →
    spec.minNotional ≤ spec.soughtSize targetNotional markPrice * markPrice →
      spec.soughtSize targetNotional markPrice = spec.minSize →
        spec.minSize = 0 ∨ spec.OnStep spec.minSize
  raised : spec.soughtSize targetNotional markPrice ≤ spec.maxSize →
    spec.soughtSize targetNotional markPrice * markPrice < spec.minNotional →
      spec.notionalSize markPrice ≤ spec.maxSize →
        spec.notionalSize markPrice = 0 ∨
          ∃ size, spec.OnStep size ∧ spec.minSize ≤ size ∧
            spec.minNotional ≤ size * markPrice ∧
            size * markPrice ≤ spec.minNotional * (1 + spec.safeBuffer)

def OnIncrement (price : ℚ) : Prop :=
  spec.priceIncrement ≤ 0 ∨ OnGrid price spec.priceIncrement

/-- The size is zero, or a limit order of it at the mark price is valid on either
side with the size unchanged. -/
def PassesOwnValidation (formats : TextFormats) (targetNotional markPrice : ℚ) :
    Prop :=
  ∃ size reason,
    spec.calculateSafePositionSize targetNotional markPrice =
      .ok (size, reason) ∧
    (size = 0 ∨
      (∀ side,
        let checked :=
          spec.validateOrder formats side .limit size (some markPrice)
        checked.valid = true ∧ checked.adjustedSize = some size) ∧
      spec.minSize ≤ size ∧ spec.minNotional ≤ size * markPrice ∧
      (0 < spec.stepSize → OnGrid size spec.stepSize))

section Sizing

variable {spec : ProductSpec} {price : ℚ}

theorem quantizeSize_idem (size : ℚ) :
    spec.quantizeSize (spec.quantizeSize size) = spec.quantizeSize size := by
  unfold quantizeSize
  split
  · rfl
  · next stepped =>
      rw [mul_div_cancel_right₀ _ (not_le.mp stepped).ne', Int.floor_intCast]

theorem quantizeSize_le (size : ℚ) : spec.quantizeSize size ≤ size := by
  unfold quantizeSize
  split
  · exact le_rfl
  · next stepped =>
      rw [← le_div_iff₀ (not_le.mp stepped)]
      exact Int.floor_le _

theorem onStep_iff (size : ℚ) :
    spec.OnStep size ↔ spec.quantizeSize size = size := by
  unfold OnStep quantizeSize
  constructor
  · intro placed
    split
    · rfl
    · next stepped =>
        have positive := not_le.mp stepped
        obtain ⟨steps, rfl⟩ := placed.resolve_left stepped
        rw [mul_div_cancel_right₀ _ positive.ne', Int.floor_intCast]
  · intro whole
    split at whole
    · next free => exact .inl free
    · exact .inr ⟨⌊size / spec.stepSize⌋, whole.symm⟩

theorem onStep_quantizeSize (size : ℚ) : spec.OnStep (spec.quantizeSize size) :=
  (onStep_iff _).mpr (quantizeSize_idem size)

theorem le_quantizeSize_of_onStep {candidate size : ℚ}
    (placed : spec.OnStep candidate) (below : candidate ≤ size) :
    candidate ≤ spec.quantizeSize size := by
  unfold quantizeSize
  split
  · exact below
  · next stepped =>
      have positive := not_le.mp stepped
      obtain ⟨steps, rfl⟩ := placed.resolve_left stepped
      apply mul_le_mul_of_nonneg_right _ positive.le
      rw [Int.cast_le, Int.le_floor]
      exact (le_div_iff₀ positive).mpr below

theorem quantizePriceSideAware_onIncrement (placed : spec.OnIncrement price)
    (side : OrderSide) :
    quantizePriceSideAware price spec.priceIncrement side = price := by
  by_cases free : spec.priceIncrement ≤ 0
  · exact if_pos free
  · exact (placed.resolve_left free).quantizePriceSideAware (not_le.mp free) side

/-- A limit order at a price on the increment is valid with its size unchanged
exactly when the limits allow the size. -/
theorem validateOrder_iff (formats : TextFormats)
    (placed : spec.OnIncrement price) (side : OrderSide) (size : ℚ) :
    ((spec.validateOrder formats side .limit size (some price)).valid = true ∧
      (spec.validateOrder formats side .limit size (some price)).adjustedSize =
        some size) ↔ spec.Allows price size := by
  have same := quantizePriceSideAware_onIncrement placed side
  unfold validateOrder
  simp only [same, OrderType.priced]
  constructor
  · rintro ⟨valid, unchanged⟩
    split at valid
    · cases valid
    · next least =>
        rw [if_neg least] at unchanged
        split at valid
        · cases valid
        · next most =>
            rw [if_neg most] at unchanged
            split at valid
            · cases valid
            · next notional =>
                rw [if_neg notional] at unchanged
                have whole := Option.some.inj unchanged
                rw [whole] at least most notional
                exact ⟨whole, not_lt.mp least, not_lt.mp most,
                  not_lt.mp notional⟩
  · intro allows
    rw [allows.whole, if_neg allows.least.not_gt, if_neg allows.most.not_gt,
      if_neg allows.notional.not_gt]
    exact ⟨rfl, rfl⟩

/-! ## The size returned -/

theorem sizeWithMinimum_fst (target : ℚ) :
    (spec.sizeWithMinimum (target / price)).1 = spec.soughtSize target price := by
  unfold sizeWithMinimum soughtSize
  dsimp only
  split
  · next short =>
      rw [if_neg (not_le.mpr short)]
      dsimp only
      split
      · next short => exact (max_eq_left short.le).symm
      · next enough => exact (max_eq_right (not_lt.mp enough)).symm
  · next enough => exact (if_pos (not_lt.mp enough)).symm

theorem minSize_le_soughtSize (target : ℚ) :
    spec.minSize ≤ spec.soughtSize target price := by
  unfold soughtSize
  dsimp only
  split
  · assumption
  · exact le_max_left _ _

theorem soughtSize_onStep_or (target : ℚ) :
    spec.OnStep (spec.soughtSize target price) ∨
      spec.soughtSize target price = spec.minSize := by
  unfold soughtSize
  dsimp only
  split
  · exact .inl (onStep_quantizeSize _)
  · rcases max_choice spec.minSize
      (spec.quantizeSize (spec.minSize * (1 + spec.safeBuffer))) with
      least | lifted
    · exact .inr least
    · left
      rw [lifted]
      exact onStep_quantizeSize _

variable (formats : TextFormats) (positive : 0 < price) (target : ℚ)

theorem calculateSafePositionSize_cases (positive : 0 < price) :
    ∃ size reason,
      spec.calculateSafePositionSize target price = .ok (size, reason) ∧
      ((spec.maxSize < spec.soughtSize target price ∧ size = spec.maxSize) ∨
        (spec.soughtSize target price ≤ spec.maxSize ∧
          spec.soughtSize target price * price < spec.minNotional ∧
          ((spec.notionalSize price ≤ spec.maxSize ∧
              size = spec.notionalSize price) ∨
            (spec.maxSize < spec.notionalSize price ∧ size = 0))) ∨
        (spec.soughtSize target price ≤ spec.maxSize ∧
          spec.minNotional ≤ spec.soughtSize target price * price ∧
          size = spec.soughtSize target price)) := by
  unfold calculateSafePositionSize
  rw [if_neg positive.ne']
  have sought : (spec.sizeWithMinimum (target / price)).1 =
      spec.soughtSize target price := sizeWithMinimum_fst target
  generalize spec.sizeWithMinimum (target / price) = sized at sought ⊢
  obtain ⟨quantized, reason⟩ := sized
  have same : quantized = spec.soughtSize target price := sought
  subst same
  dsimp only
  split
  · next capped => exact ⟨_, _, rfl, .inl ⟨capped, rfl⟩⟩
  · next fits =>
      split
      · next short =>
          split
          · next reached =>
              exact ⟨_, _, rfl, .inr (.inl
                ⟨not_lt.mp fits, short, .inl ⟨reached, rfl⟩⟩)⟩
          · next missed =>
              exact ⟨_, _, rfl, .inr (.inl
                ⟨not_lt.mp fits, short, .inr ⟨not_le.mp missed, rfl⟩⟩)⟩
      · next enough =>
          exact ⟨_, _, rfl, .inr (.inr
            ⟨not_lt.mp fits, not_lt.mp enough, rfl⟩)⟩

theorem passes_iff (placed : spec.OnIncrement price) {size : ℚ} {reason : String}
    (returned : spec.calculateSafePositionSize target price =
      .ok (size, reason)) :
    spec.PassesOwnValidation formats target price ↔
      size = 0 ∨ spec.Allows price size := by
  unfold PassesOwnValidation
  constructor
  · intro ⟨size', reason', returned', passes⟩
    rw [returned] at returned'
    cases returned'
    exact passes.imp_right fun valid =>
      (validateOrder_iff formats placed .buy size).mp (valid.1 .buy)
  · intro allowed
    refine ⟨size, reason, returned, allowed.imp_right fun allows => ?_⟩
    refine ⟨fun side => (validateOrder_iff formats placed side size).mpr allows,
      allows.least, allows.notional, fun stepped => ?_⟩
    have onStep := (onStep_iff size).mpr allows.whole
    exact onStep.resolve_left (not_le.mpr stepped)

/-- The size that the minimum notional takes is worth it exactly when some size on the
step is, within the buffer. -/
theorem notionalSize_allows_iff (positive : 0 < price)
    (reached : spec.notionalSize price ≤ spec.maxSize) :
    spec.Allows price (spec.notionalSize price) ↔
      ∃ size, spec.OnStep size ∧ spec.minSize ≤ size ∧
        spec.minNotional ≤ size * price ∧
        size * price ≤ spec.minNotional * (1 + spec.safeBuffer) := by
  constructor
  · intro allows
    refine ⟨spec.notionalSize price, onStep_quantizeSize _, allows.least,
      allows.notional, ?_⟩
    exact (le_div_iff₀ positive).mp (quantizeSize_le _)
  · intro ⟨size, placed, least, notional, within⟩
    have below : size ≤ spec.notionalSize price :=
      le_quantizeSize_of_onStep placed ((le_div_iff₀ positive).mpr within)
    have worth := mul_le_mul_of_nonneg_right below positive.le
    exact ⟨quantizeSize_idem _, least.trans below, reached, notional.trans worth⟩

end Sizing

end ProductSpec

def wholeCoins (maxSize : ℚ) : ProductSpec :=
  { minSize := 1
    stepSize := 1
    priceIncrement := 1 / 100
    minNotional := 10
    maxSize := maxSize
    safeBuffer := 1 / 10 }

end GptTrader
