import GptTrader.Core.Quantization
import GptTrader.LiveTrade.ExposureCheck
import GptTrader.LiveTrade.RiskState

/-!
# The reduce-only gate and the order validator

`apply_reduce_only_mode` clamps a reducing order to the position;
`run_order_validator_guards` then floors the quantity to the step of the
product, and raises it to the minimum of the product when it is below.
-/

namespace GptTrader

/-- What the engine holds as the position of a symbol: nothing, a `Position`, a
dictionary, or a value of another kind. -/
inductive CurrentPosition where
  | missing
  | position (side : String) (quantity : ℚ)
  | entry (side : Option String) (quantity : Option ℚ)
  | other
  deriving DecidableEq

namespace CurrentPosition

variable (lower : String → String)

def size : CurrentPosition → ℚ
  | .missing => 0
  | .position _ quantity => |quantity|
  | .entry _ quantity => |quantity.getD 0|
  | .other => 0

def sideReduces (position : String) (side : OrderSide) (quantity : ℚ) : Bool :=
  decide ((position = "long" ∧ side = .sell ∧ 0 < quantity) ∨
    (position = "short" ∧ side = .buy ∧ 0 < quantity))

def isReduceOnlyOrder (position : CurrentPosition) (side : OrderSide) : Bool :=
  match position with
  | .missing => false
  | .position text quantity => sideReduces (lower text) side quantity
  | .entry text quantity =>
      let text := lower (text.getD "")
      let quantity := quantity.getD 0
      if text = "long" ∨ text = "short" then sideReduces text side quantity
      else
        decide ((0 < quantity ∧ side = .sell) ∨ (quantity < 0 ∧ side = .buy))
  | .other => false

def direction (text : String) (quantity : ℚ) : ℚ :=
  if text = "long" then quantity
  else if text = "short" then -quantity
  else 0

/-- The quantity held, with its sign: by the side, or in an entry without a
side by the quantity. -/
def signed : CurrentPosition → ℚ
  | .missing => 0
  | .position text quantity => direction (lower text) quantity
  | .entry text quantity =>
      let text := lower (text.getD "")
      if text = "long" ∨ text = "short" then direction text (quantity.getD 0)
      else quantity.getD 0
  | .other => 0

def Opposed (position : CurrentPosition) : OrderSide → Prop
  | .sell => 0 < position.signed lower
  | .buy => position.signed lower < 0

variable {lower}

theorem sideReduces_direction {text : String} {side : OrderSide}
    {quantity : ℚ} (reduces : sideReduces text side quantity = true) :
    match side with
    | .sell => 0 < direction text quantity
    | .buy => direction text quantity < 0 := by
  rcases of_decide_eq_true reduces with ⟨rfl, rfl, held⟩ | ⟨rfl, rfl, held⟩
  · exact held
  · change (if "short" = "long" then quantity
      else if "short" = "short" then -quantity else 0) < 0
    rw [if_neg (by decide), if_pos rfl]
    exact neg_neg_of_pos held

theorem opposed_of_isReduceOnlyOrder {position : CurrentPosition}
    {side : OrderSide}
    (reduces : position.isReduceOnlyOrder lower side = true) :
    position.Opposed lower side := by
  cases position with
  | missing => simp [isReduceOnlyOrder] at reduces
  | other => simp [isReduceOnlyOrder] at reduces
  | position text quantity => cases side <;> exact sideReduces_direction reduces
  | entry text quantity =>
      unfold isReduceOnlyOrder at reduces
      unfold Opposed signed
      dsimp only at reduces ⊢
      split at reduces
      · next sided =>
          rw [if_pos sided]
          cases side <;> exact sideReduces_direction reduces
      · next unsided =>
          rw [if_neg unsided]
          rcases of_decide_eq_true reduces with ⟨held, rfl⟩ | ⟨held, rfl⟩
          · exact held
          · exact held

end CurrentPosition

/-- What a gate blocks an order for. -/
inductive GuardRejection where
  | riskManagerUnavailable
  | reduceOnlyEmptyPosition
  | reduceOnlyModeBlocked (reduceOnlyMode dailyPnlTriggered : Bool)
  | productNotFound
  | specViolation (reason : String)
  | preTrade (error : RiskValidationError)
  | slippage (expected limit : ℚ)
  | preview (reason : String)
  deriving DecidableEq

/-- A brake admits reduce-only orders alone. -/
def RiskBrakes.checkOrder (brakes : RiskBrakes) (reduceOnly : Bool) : Bool :=
  if brakes.reduceOnlyMode || brakes.dailyPnlTriggered then reduceOnly else true

/-- Either brake is on. -/
def RiskBrakes.reduceOnlyActive (brakes : RiskBrakes) : Bool :=
  brakes.reduceOnlyMode || brakes.dailyPnlTriggered

/-- The quantity cut to the position. -/
def clampToPosition (position : CurrentPosition) (quantity : ℚ) : ℚ :=
  if position.size < quantity then position.size else quantity

def applyReduceOnlyMode (riskManager : Option RiskBrakes) (quantity : ℚ)
    (reduceOnlyFlag isReducing : Bool) (position : CurrentPosition) :
    Except GuardRejection ℚ := do
  let some brakes := riskManager
    | .error .riskManagerUnavailable
  let quantity ←
    if brakes.reduceOnlyActive = true ∧ isReducing = true ∧
        position ≠ .missing then
      let clamped := clampToPosition position quantity
      if clamped ≤ 0 then .error .reduceOnlyEmptyPosition else .ok clamped
    else .ok quantity
  if brakes.checkOrder reduceOnlyFlag then .ok quantity
  else .error (.reduceOnlyModeBlocked brakes.reduceOnlyMode
    brakes.dailyPnlTriggered)

/-- A snapshot of the market. -/
structure MarketSnapshot where
  spreadBps : ℚ
  depthL1 : ℚ

/-- The validator with what it reads of the broker and of the configuration: the
snapshot (none when it cannot be read) and the answer of an enabled preview. -/
structure OrderValidator where
  limits : Option RiskLimits
  slippageGuardBps : Option ℚ
  snapshot : Option MarketSnapshot
  preview : Option (ℚ → Bool → Except GuardRejection Unit)
  reduceOnlyMode : Bool

namespace OrderValidator

variable (validator : OrderValidator)

/-- `validate_exchange_rules` of a market order. -/
def validateExchangeRules (side : OrderSide) (quantity : ℚ)
    (product : ProductRules) : Except GuardRejection ℚ :=
  let result := validateOrder product side (some quantity) .market none
  if result.ok then .ok (result.adjustedQuantity.getD quantity)
  else .error (.specViolation (result.reason.getD "spec_violation"))

def runPreTradeValidation (symbol : String) (quantity price equity : ℚ)
    (positions : Dict String PositionEntry) : Except GuardRejection Unit :=
  match validator.limits with
  | none => .ok ()
  | some limits =>
      (limits.preTradeValidate .defaultContext symbol quantity price equity
        positions).mapError
        .preTrade

/-- `enforce_slippage_guard`: a snapshot that cannot be read blocks nothing. -/
def enforceSlippageGuard (quantity price : ℚ) : Except GuardRejection Unit :=
  match validator.snapshot, validator.slippageGuardBps with
  | some snapshot, some limit =>
      let depth := if 0 < snapshot.depthL1 then snapshot.depthL1 else 1
      let expected :=
        snapshot.spreadBps + 10000 * (quantity * price / depth) * (1 / 2)
      if limit < expected then .error (.slippage expected limit) else .ok ()
  | _, _ => .ok ()

/-- `maybe_preview_order_async`. -/
def maybePreviewOrder (quantity : ℚ) (reduceOnly : Bool) :
    Except GuardRejection Unit :=
  match validator.preview with
  | none => .ok ()
  | some preview => preview quantity reduceOnly

/-- The flag the order is sent with. -/
def finalizeReduceOnlyFlag (reduceOnly : Bool) : Bool :=
  if validator.reduceOnlyMode then true else reduceOnly

def checkQuantity (symbol : String) (quantity price equity : ℚ)
    (positions : Dict String PositionEntry) (reduceOnly : Bool) :
    Except GuardRejection Unit := do
  validator.runPreTradeValidation symbol quantity price equity positions
  validator.enforceSlippageGuard quantity price
  validator.maybePreviewOrder quantity reduceOnly

end OrderValidator

/-- The engine as the guard chain reads it. -/
structure OrderEngine where
  riskManager : Option RiskBrakes
  position : CurrentPosition
  orderValidator : Option OrderValidator
  /-- What `require_product` finds. -/
  product : Option ProductRules
  /-- What `resolve_effective_price` finds when no price is given. -/
  brokerPrice : ℚ
  positions : List LivePosition

/-- An order as `_validate_and_place_order` has it. -/
structure RequestedOrder where
  symbol : String
  side : OrderSide
  quantity : ℚ
  price : ℚ
  equity : ℚ

/-- What is handed to the submitter. -/
structure GuardedSubmission where
  side : OrderSide
  quantity : ℚ
  effectivePrice : ℚ
  reduceOnly : Bool
  deriving DecidableEq

namespace OrderEngine

variable (lower : String → String) (engine : OrderEngine)
  (order : RequestedOrder)

def resolveEffectivePrice (price : ℚ) : ℚ :=
  if 0 < price then price else engine.brokerPrice

/-- `run_order_validator_guards`, on the quantity and flag of the gates before. -/
def runOrderValidatorGuards (quantity : ℚ) (reduceOnlyFlag : Bool) :
    Except GuardRejection GuardedSubmission :=
  match engine.orderValidator with
  | none =>
      .ok
        { side := order.side
          quantity := quantity
          effectivePrice := order.price
          reduceOnly := reduceOnlyFlag }
  | some validator => do
      let some product := engine.product
        | .error .productNotFound
      let effectivePrice := engine.resolveEffectivePrice order.price
      let quantity ←
        OrderValidator.validateExchangeRules order.side quantity product
      validator.checkQuantity order.symbol quantity effectivePrice order.equity
        (buildPositionsDict lower engine.positions) reduceOnlyFlag
      .ok
        { side := order.side
          quantity := quantity
          effectivePrice := effectivePrice
          reduceOnly := validator.finalizeReduceOnlyFlag reduceOnlyFlag }

def isReducing : Bool :=
  engine.position.isReduceOnlyOrder lower order.side

/-- The guard chain of `_validate_and_place_order`. -/
def guardChain : Except GuardRejection GuardedSubmission := do
  let quantity ←
    applyReduceOnlyMode engine.riskManager order.quantity
      (engine.isReducing lower order) (engine.isReducing lower order)
      engine.position
  engine.runOrderValidatorGuards lower order quantity
    (engine.isReducing lower order)

/-- The submission reduces the position and does not go beyond it. -/
structure Reduces (submission : GuardedSubmission) : Prop where
  flagged : submission.reduceOnly = true
  opposed : engine.position.Opposed lower submission.side
  bounded : submission.quantity ≤ engine.position.size

/-- A reducing order that falls below the minimum of the product, which is more than
the position and passes the checks. -/
structure Overshoots (brakes : RiskBrakes) (validator : OrderValidator)
    (product : ProductRules) : Prop where
  riskManager : engine.riskManager = some brakes
  active : brakes.reduceOnlyActive = true
  orderValidator : engine.orderValidator = some validator
  productFound : engine.product = some product
  reducing : engine.isReducing lower order = true
  nonempty : 0 < clampToPosition engine.position order.quantity
  below : quantizeSize (clampToPosition engine.position order.quantity)
    product.step < product.minSize
  beyond : engine.position.size < quantizeSizeUp product.minSize product.step
  accepted : validator.checkQuantity order.symbol
    (quantizeSizeUp product.minSize product.step)
    (engine.resolveEffectivePrice order.price) order.equity
    (buildPositionsDict lower engine.positions) true = .ok ()

end OrderEngine

/-! ## What the gates let through -/

theorem clampToPosition_le (position : CurrentPosition) (quantity : ℚ) :
    clampToPosition position quantity ≤ position.size := by
  unfold clampToPosition
  split
  · exact le_rfl
  · next within => exact not_lt.mp within

theorem CurrentPosition.ne_missing {lower : String → String}
    {position : CurrentPosition} {side : OrderSide}
    (reduces : position.isReduceOnlyOrder lower side = true) :
    position ≠ .missing := by
  rintro rfl
  simp [isReduceOnlyOrder] at reduces

theorem applyReduceOnlyMode_reducing {brakes : RiskBrakes}
    (active : brakes.reduceOnlyActive = true) {position : CurrentPosition}
    (present : position ≠ .missing) {quantity : ℚ}
    (nonempty : 0 < clampToPosition position quantity) :
    applyReduceOnlyMode (some brakes) quantity true true position =
      .ok (clampToPosition position quantity) := by
  have checked : brakes.checkOrder true = true := by
    simp [RiskBrakes.checkOrder]
  simp [applyReduceOnlyMode, active, present, not_le.mpr nonempty, checked,
    bind, Except.bind]

theorem applyReduceOnlyMode_ok {brakes : RiskBrakes}
    (active : brakes.reduceOnlyActive = true) {position : CurrentPosition}
    {reducing : Bool} (present : reducing = true → position ≠ .missing)
    {quantity clamped : ℚ}
    (passed : applyReduceOnlyMode (some brakes) quantity reducing reducing
      position = .ok clamped) :
    reducing = true ∧ clamped = clampToPosition position quantity ∧
      0 < clamped := by
  cases reducing with
  | false =>
      have blocked : brakes.checkOrder false = false := by
        unfold RiskBrakes.checkOrder
        exact if_pos active
      simp [applyReduceOnlyMode, blocked, bind, Except.bind] at passed
  | true =>
      rcases le_or_gt (clampToPosition position quantity) 0 with empty | nonempty
      · simp [applyReduceOnlyMode, active, present rfl, empty, bind,
          Except.bind] at passed
      · rw [applyReduceOnlyMode_reducing active (present rfl) nonempty] at passed
        cases passed
        exact ⟨rfl, rfl, nonempty⟩

theorem OrderValidator.validateExchangeRules_eq (side : OrderSide)
    (quantity : ℚ) (product : ProductRules) :
    validateExchangeRules side quantity product =
      .ok (product.adjustQuantity quantity) := by
  unfold validateExchangeRules
  rw [validateOrder_market]
  rfl

theorem OrderValidator.finalizeReduceOnlyFlag_true
    (validator : OrderValidator) :
    validator.finalizeReduceOnlyFlag true = true := by
  unfold finalizeReduceOnlyFlag
  split <;> rfl

/-- The adjusted quantity is beyond a bound of the quantity only where it is
raised to the minimum. -/
theorem ProductRules.lt_adjustQuantity_iff {product : ProductRules}
    {quantity bound : ℚ} (nonNegative : 0 ≤ quantity)
    (within : quantity ≤ bound) :
    bound < product.adjustQuantity quantity ↔
      quantizeSize quantity product.step < product.minSize ∧
        bound < quantizeSizeUp product.minSize product.step := by
  have floored : quantizeSize quantity product.step ≤ bound :=
    (quantizeSize_le product.step_pos nonNegative).trans within
  unfold adjustQuantity
  dsimp only
  split
  · next below => simp [below]
  · next enough => simp [enough, floored]

namespace OrderEngine

variable {lower : String → String} {engine : OrderEngine}
  {order : RequestedOrder}

theorem runOrderValidatorGuards_ok {validator : OrderValidator}
    (present : engine.orderValidator = some validator) {quantity : ℚ}
    {flag : Bool} {submission : GuardedSubmission} :
    engine.runOrderValidatorGuards lower order quantity flag = .ok submission ↔
      ∃ product, engine.product = some product ∧
        validator.checkQuantity order.symbol (product.adjustQuantity quantity)
          (engine.resolveEffectivePrice order.price) order.equity
          (buildPositionsDict lower engine.positions) flag = .ok () ∧
        submission =
          { side := order.side
            quantity := product.adjustQuantity quantity
            effectivePrice := engine.resolveEffectivePrice order.price
            reduceOnly := validator.finalizeReduceOnlyFlag flag } := by
  unfold runOrderValidatorGuards
  rw [present]
  cases found : engine.product with
  | none => simp
  | some product =>
      simp only [OrderValidator.validateExchangeRules_eq, Option.some.injEq,
        exists_eq_left', bind, Except.bind]
      cases validator.checkQuantity order.symbol
          (product.adjustQuantity quantity)
          (engine.resolveEffectivePrice order.price) order.equity
          (buildPositionsDict lower engine.positions) flag with
      | error rejection => simp
      | ok _ => simp [eq_comm]

section

variable {brakes : RiskBrakes} (manager : engine.riskManager = some brakes)
variable (active : brakes.reduceOnlyActive = true) {submission : GuardedSubmission}
variable (passed : engine.guardChain lower order = .ok submission)

include brakes manager active submission passed

theorem guardChain_ok :
    engine.isReducing lower order = true ∧
      0 < clampToPosition engine.position order.quantity ∧
      engine.runOrderValidatorGuards lower order
        (clampToPosition engine.position order.quantity) true =
          .ok submission := by
  unfold guardChain at passed
  rw [manager] at passed
  cases gate : applyReduceOnlyMode (some brakes) order.quantity
      (engine.isReducing lower order) (engine.isReducing lower order)
      engine.position with
  | error rejection =>
      rw [gate] at passed
      cases passed
  | ok clamped =>
      rw [gate] at passed
      obtain ⟨reducing, rfl, nonempty⟩ :=
        applyReduceOnlyMode_ok active CurrentPosition.ne_missing gate
      refine ⟨reducing, nonempty, ?_⟩
      rw [← reducing]
      exact passed

/-- Whatever an active chain lets through is flagged, on the other side of the
position and, but for the raise to the minimum, within it. -/
theorem guardChain_reduces
    (within : ∀ validator product,
      ¬engine.Overshoots lower order brakes validator product) :
    engine.Reduces lower submission := by
  obtain ⟨reducing, nonempty, passed⟩ := guardChain_ok manager active passed
  have opposed : engine.position.Opposed lower order.side :=
    CurrentPosition.opposed_of_isReduceOnlyOrder reducing
  have clamped := clampToPosition_le engine.position order.quantity
  cases present : engine.orderValidator with
  | none =>
      unfold runOrderValidatorGuards at passed
      rw [present] at passed
      cases passed
      exact ⟨rfl, opposed, clamped⟩
  | some validator =>
      obtain ⟨product, found, accepted, rfl⟩ :=
        (runOrderValidatorGuards_ok present).mp passed
      refine ⟨validator.finalizeReduceOnlyFlag_true, opposed, ?_⟩
      -- only the raise to the minimum can go beyond the position
      by_contra beyond
      obtain ⟨below, beyond⟩ :=
        (ProductRules.lt_adjustQuantity_iff nonempty.le clamped).mp
          (not_le.mp beyond)
      have raised : product.adjustQuantity
          (clampToPosition engine.position order.quantity) =
            quantizeSizeUp product.minSize product.step := if_pos below
      rw [raised] at accepted
      exact within validator product
        { riskManager := manager
          active := active
          orderValidator := present
          productFound := found
          reducing := reducing
          nonempty := nonempty
          below := below
          beyond := beyond
          accepted := accepted }

end

theorem Overshoots.guardChain {brakes : RiskBrakes}
    {validator : OrderValidator} {product : ProductRules}
    (overshoots : engine.Overshoots lower order brakes validator product) :
    ∃ submission, engine.guardChain lower order = .ok submission ∧
      engine.position.size < submission.quantity := by
  have gate := applyReduceOnlyMode_reducing overshoots.active
    (CurrentPosition.ne_missing overshoots.reducing) overshoots.nonempty
  have raised : product.adjustQuantity
      (clampToPosition engine.position order.quantity) =
        quantizeSizeUp product.minSize product.step := if_pos overshoots.below
  refine ⟨
    { side := order.side
      quantity := quantizeSizeUp product.minSize product.step
      effectivePrice := engine.resolveEffectivePrice order.price
      reduceOnly := validator.finalizeReduceOnlyFlag true },
    ?_, overshoots.beyond⟩
  unfold OrderEngine.guardChain
  rw [overshoots.riskManager, overshoots.reducing, gate]
  refine (runOrderValidatorGuards_ok overshoots.orderValidator).mpr
    ⟨product, overshoots.productFound, ?_, ?_⟩
  · rw [raised]
    exact overshoots.accepted
  · rw [raised]

/-- Under a brake only reducing orders pass. -/
def ReducesWhenActive (lower : String → String) (engine : OrderEngine)
    (order : RequestedOrder) : Prop :=
  ∀ brakes, engine.riskManager = some brakes →
    brakes.reduceOnlyActive = true →
      ∀ submission, engine.guardChain lower order = .ok submission →
        engine.Reduces lower submission

/-- In exact arithmetic reduce-only mode reduces exactly when the minimum of the
product does not take the order beyond the position. -/
theorem reducesWhenActive_iff (lower : String → String) (engine : OrderEngine)
    (order : RequestedOrder) :
    engine.ReducesWhenActive lower order ↔
      ∀ brakes validator product,
        ¬engine.Overshoots lower order brakes validator product := by
  constructor
  · intro reduces brakes validator product overshoots
    obtain ⟨submission, passed, beyond⟩ := overshoots.guardChain
    have within := (reduces brakes overshoots.riskManager overshoots.active
      submission passed).bounded
    exact absurd within (not_le.mpr beyond)
  · intro within brakes manager active submission passed
    exact guardChain_reduces manager active passed (within brakes)

end OrderEngine

section Example

def halfContract : OrderEngine where
  riskManager := some { RiskBrakes.released with
    dailyPnlTriggered := true
    reduceOnlyMode := true
    reduceOnlyReason := "daily_loss_limit_breached" }
  position := .position "long" (1 / 2)
  orderValidator := some
    { limits := none
      slippageGuardBps := none
      snapshot := none
      preview := none
      reduceOnlyMode := true }
  product := some
    { stepSize := 1
      minSize := 1
      priceIncrement := 1 / 100
      minNotional := none }
  brokerPrice := 100
  positions := []

def closeHalf : RequestedOrder where
  symbol := "BTC-USD"
  side := .sell
  quantity := 1 / 2
  price := 100
  equity := 1000

/-- Closing half a contract sells a whole one. -/
theorem closeHalf_not_reducesWhenActive :
    ¬halfContract.ReducesWhenActive id closeHalf := by
  intro reduces
  have passed : halfContract.guardChain id closeHalf = .ok
      { side := .sell
        quantity := 1
        effectivePrice := 100
        reduceOnly := true } := by decide +kernel
  have bounded := (reduces _ rfl rfl _ passed).bounded
  revert bounded
  decide +kernel

end Example

end GptTrader
