import GptTrader.Backtesting.OrderOutcomes

/-!
# Prices of simulated fills

A limit order fills at its limit, on a bar that reached it.  A stop order fills on a bar
that reached its stop, as a market order: the limit of a stop-limit order is not looked
at, so its fill is within the limit only where the market price is.
-/

namespace GptTrader

/-- The price is no worse than the limit. -/
def OrderSide.Within (side : OrderSide) (limit price : ℚ) : Prop :=
  match side with
  | .buy => price ≤ limit
  | .sell => limit ≤ price

theorem OrderSide.within_refl (side : OrderSide) (limit : ℚ) :
    side.Within limit limit := by
  cases side with
  | buy => exact le_refl limit
  | sell => exact le_refl limit

namespace ProcessedFill

variable (processed : ProcessedFill)

/-- What the order asks of the price of its fill, and of the bar that fills it. -/
structure PriceRespected (order : SimulatedOrder) (bar : PriceBar) (price : ℚ) :
    Prop where
  within : order.type = .limit ∨ order.type = .stopLimit →
    ∀ limit ∈ order.price, order.side.Within limit price
  touched : order.type = .limit → order.price = some price ∧
    OrderFillModel.isPriceTouched price order.side bar = true
  triggered : order.type = .stop ∨ order.type = .stopLimit →
    ∃ stop ∈ order.stopPrice,
      OrderFillModel.isStopTriggered stop order.side bar = true

def RespectsPrices : Prop :=
  ∃ bar bid ask price,
    processed.broker.marketView processed.order.symbol = some (bar, bid, ask) ∧
      processed.price = some price ∧
      PriceRespected processed.order bar price

/-- For a stop-limit order the close of the bar, with half the charged part of the
spread and the slippage, is within the limit. -/
def StopsWithinLimit : Prop :=
  processed.order.type = .stopLimit →
    ∀ limit ∈ processed.order.price,
      ∀ bar bid ask,
        processed.broker.marketView processed.order.symbol =
            some (bar, bid, ask) →
          processed.order.side.Within limit
            (processed.broker.fillModel.takerPrice processed.order bar bid ask)

/-- A fill respects the prices of its order exactly when it is within the limit as a
market order, if it is of a stop-limit order. -/
theorem Made.respectsPrices_iff {processed : ProcessedFill}
    (made : processed.Made) :
    processed.RespectsPrices ↔ processed.StopsWithinLimit := by
  obtain ⟨bar, bid, ask, price, view, filled, priced, source⟩ := made
  have at_price : processed.price = some price := by
    unfold ProcessedFill.price
    rw [if_pos filled]
    exact priced
  have respects_iff : processed.RespectsPrices ↔
      PriceRespected processed.order bar price := by
    constructor
    · rintro ⟨barToo, bidToo, askToo, priceToo, viewToo, pricedToo, respected⟩
      rw [view] at viewToo
      rw [at_price] at pricedToo
      cases viewToo
      cases pricedToo
      exact respected
    · intro respected
      exact ⟨bar, bid, ask, price, view, at_price, respected⟩
  have stops_iff : processed.StopsWithinLimit ↔
      (processed.order.type = .stopLimit → ∀ limit ∈ processed.order.price,
        processed.order.side.Within limit
          (processed.broker.fillModel.takerPrice processed.order bar bid ask)) := by
    unfold StopsWithinLimit
    rw [view]
    constructor
    · intro stops type limit given
      exact stops type limit given bar bid ask rfl
    · intro stops type limit given barToo bidToo askToo same
      cases same
      exact stops type limit given
  rw [respects_iff, stops_iff]
  cases source with
  | market type taken =>
      rw [type]
      refine ⟨fun _ stopped => (by cases stopped), fun _ => ⟨?_, ?_, ?_⟩⟩
      · rw [type]
        rintro (limited | stopped)
        · cases limited
        · cases stopped
      · intro limited
        rw [type] at limited
        cases limited
      · rw [type]
        rintro (stopped | stopped)
        · cases stopped
        · cases stopped
  | limit type given touched =>
      rw [type]
      refine ⟨fun _ stopped => (by cases stopped), fun _ => ⟨?_, ?_, ?_⟩⟩
      · intro _ limit member
        obtain rfl := Option.some.inj (given.symm.trans member)
        exact OrderSide.within_refl _ _
      · exact fun _ => ⟨given, touched⟩
      · rw [type]
        rintro (stopped | stopped)
        · cases stopped
        · cases stopped
  | stop type stop given triggered taken =>
      have not_limit : processed.order.type ≠ .limit := by
        intro limited
        rw [limited] at type
        rcases type with stopped | stopped
        · cases stopped
        · cases stopped
      constructor
      · intro respected stopped limit member
        rw [← taken]
        exact respected.within (.inr stopped) limit member
      · intro stops
        refine ⟨?_, fun limited => absurd limited not_limit, ?_⟩
        · rintro (limited | stopped) limit member
          · exact absurd limited not_limit
          · rw [taken]
            exact stops stopped limit member
        · exact fun _ => ⟨stop, given, triggered⟩

end ProcessedFill

def stopLimitPurchase : SimulatedOrderArgs :=
  { id := "entry"
    symbol := "COIN"
    side := .buy
    type := .stopLimit
    quantity := some 1
    price := some 105
    stopPrice := some 105
    clientId := none
    reduceOnly := false
    leverage := none
    tif := .gtc }

end GptTrader
