import GptTrader.Core.OrderIntent
import GptTrader.Library.Dict
import GptTrader.LiveTrade.OrderSubmission

/-!
# Simulated fills

When an order of a backtest fills and at which price
(`backtesting/simulation/fill_model.py`), and what the fill costs
(`fee_calculator.py`).  Decimals are exact here.
-/

namespace GptTrader

/-- `Candle` of `core/market.py`: a price bar, without checks. -/
structure PriceBar where
  ts : ℤ
  openPrice : ℚ
  high : ℚ
  low : ℚ
  close : ℚ
  volume : ℚ
  deriving DecidableEq

/-- `Quote`, without its symbol. -/
structure MarketQuote where
  bid : ℚ
  ask : ℚ
  last : ℚ
  ts : ℤ

/-- `Order`, as the simulated broker keeps it. -/
structure SimulatedOrder where
  id : String
  symbol : String
  side : OrderSide
  type : OrderType
  quantity : ℚ
  status : BrokerOrderStatus
  filledQuantity : ℚ
  price : Option ℚ
  stopPrice : Option ℚ
  tif : TimeInForce
  clientId : Option String
  avgFillPrice : Option ℚ
  submittedAt : Option ℤ
  updatedAt : Option ℤ
  createdAt : Option ℤ

/-- `FillResult`, without its reason. -/
structure FillResult where
  filled : Bool
  fillPrice : Option ℚ
  fillQuantity : Option ℚ
  fillTime : Option ℤ
  isMaker : Bool
  slippageBps : Option ℚ

/-- `FillResult(filled=False, ...)`. -/
def FillResult.unfilled : FillResult :=
  { filled := false
    fillPrice := none
    fillQuantity := none
    fillTime := none
    isMaker := false
    slippageBps := none }

/-- What the simulation raises. -/
inductive SimulationError where
  | valueError (message : String)
  | insufficientFunds (required available : ℚ)
  | divisionByZero
  deriving DecidableEq

def simulatedQuotient (left right : ℚ) : Except SimulationError ℚ :=
  if right = 0 then .error .divisionByZero else .ok (left / right)

/-! ## Fees -/

/-- The fee tiers of the venue. -/
inductive FeeTier where
  | tier0
  | tier1
  | tier2
  | tier3
  | tier4
  | tier5
  | tier6
  | tier7
  deriving DecidableEq, Repr

/-- `FeeRate`, in basis points. -/
structure FeeRate where
  makerBps : ℚ
  takerBps : ℚ

/-- `FEE_TIER_RATES`. -/
def FeeTier.rates : FeeTier → FeeRate
  | .tier0 => ⟨60, 80⟩
  | .tier1 => ⟨40, 60⟩
  | .tier2 => ⟨25, 40⟩
  | .tier3 => ⟨15, 25⟩
  | .tier4 => ⟨10, 20⟩
  | .tier5 => ⟨5, 15⟩
  | .tier6 => ⟨3, 10⟩
  | .tier7 => ⟨0, 5⟩

/-- `FeeCalculator.calculate`, for the tier of the broker. -/
def FeeTier.calculate (tier : FeeTier) (notional : ℚ) (isMaker : Bool) : ℚ :=
  notional * (if isMaker then tier.rates.makerBps else tier.rates.takerBps) /
    10000

/-! ## Fills -/

structure OrderFillModel where
  slippageBps : Dict String ℚ
  spreadImpactPct : ℚ
  limitVolumeThreshold : ℚ
  enableQueuePriority : Bool

namespace OrderFillModel

variable (model : OrderFillModel)

def getSlippage (symbol : String) : ℚ :=
  match model.slippageBps.get? symbol with
  | some slippage => slippage
  | none =>
      if "BTC".toList.isPrefixOf symbol.toList then 2
      else if "ETH".toList.isPrefixOf symbol.toList then 2
      else 5

/-- `fill_market_order`, without a next bar. -/
def fillMarketOrder (order : SimulatedOrder) (bar : PriceBar)
    (bestBid bestAsk : ℚ) : Except SimulationError FillResult :=
  let base := bar.close
  let slippage := model.getSlippage order.symbol
  let spread := bestAsk - bestBid
  let mid := (bestBid + bestAsk) / 2
  let spreadCost := spread * model.spreadImpactPct / 2
  let slippageCost := base * slippage / 10000
  let price := match order.side with
    | .buy => base + spreadCost + slippageCost
    | .sell => base - spreadCost - slippageCost
  (simulatedQuotient |price - mid| mid).map fun moved =>
    { filled := true
      fillPrice := some price
      fillQuantity := some order.quantity
      fillTime := some bar.ts
      isMaker := false
      slippageBps := some (moved * 10000) }

def isPriceTouched (limit : ℚ) (side : OrderSide) (bar : PriceBar) : Bool :=
  match side with
  | .buy => decide (bar.low ≤ limit)
  | .sell => decide (limit ≤ bar.high)

def hasSufficientVolume (size volume : ℚ) : Bool :=
  decide (size * model.limitVolumeThreshold ≤ volume)

def estimateQueueFillPercentage (order : SimulatedOrder) (bar : PriceBar) :
    Except SimulationError ℚ :=
  (simulatedQuotient bar.volume order.quantity).map fun ratio =>
    if 10 ≤ ratio then 1
    else if 5 ≤ ratio then 8 / 10
    else if 2 ≤ ratio then 5 / 10
    else 2 / 10

def tryFillLimitOrder (order : SimulatedOrder) (bar : PriceBar) :
    Except SimulationError FillResult :=
  match order.price with
  | none => .error (.valueError "Limit order must have price")
  | some limit =>
      if ¬isPriceTouched limit order.side bar then .ok .unfilled
      else if ¬model.hasSufficientVolume order.quantity bar.volume then
        .ok .unfilled
      else
        let estimated := if model.enableQueuePriority then
            estimateQueueFillPercentage order bar
          else .ok 1
        estimated.map fun part =>
          if part < 1 / 10 then .unfilled
          else
            { filled := true
              fillPrice := some limit
              fillQuantity := some (order.quantity * part)
              fillTime := some bar.ts
              isMaker := true
              slippageBps := some 0 }

def isStopTriggered (stop : ℚ) (side : OrderSide) (bar : PriceBar) : Bool :=
  match side with
  | .buy => decide (stop ≤ bar.high)
  | .sell => decide (bar.low ≤ stop)

/-- `try_fill_stop_order`: a triggered stop fills as a market order. -/
def tryFillStopOrder (order : SimulatedOrder) (bar : PriceBar)
    (bestBid bestAsk : ℚ) : Except SimulationError FillResult :=
  match order.stopPrice with
  | none => .error (.valueError "Stop order must have stop_price")
  | some stop =>
      if ¬isStopTriggered stop order.side bar then .ok .unfilled
      else
        model.fillMarketOrder
          { order with
            type := .market
            filledQuantity := 0
            price := none
            stopPrice := none
            avgFillPrice := none
            createdAt := none }
          bar bestBid bestAsk

end OrderFillModel

end GptTrader
