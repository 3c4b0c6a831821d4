import GptTrader.Backtesting.FillModel
import GptTrader.Library.DictSums
import GptTrader.Paper.HybridBroker

/-!
# The simulated broker

`backtesting/simulation/broker.py` with `accounting.py`: orders of a backtest fill
against the current bar of their symbol, and each fill moves the USDC balance, the
margin on hold, the positions and the completed trades.  Funding is left out, and
so are the candle history and the equity curve, which nothing here reads.  A call
that raises leaves what it has changed until then.
-/

namespace GptTrader

inductive TradeSide where
  | long
  | short
  deriving DecidableEq, Repr

/-- `Position`, without its symbol. -/
structure SimulatedPosition where
  quantity : ℚ
  entryPrice : ℚ
  markPrice : ℚ
  unrealizedPnl : ℚ
  realizedPnl : ℚ
  side : TradeSide
  leverage : Option ℤ

inductive TradeOutcome where
  | win
  | loss
  | breakeven
  deriving DecidableEq, Repr

/-- `CompletedTrade`, without its random identifier. -/
structure CompletedTrade where
  symbol : String
  side : TradeSide
  entryTime : ℤ
  entryPrice : ℚ
  exitTime : ℤ
  exitPrice : ℚ
  quantity : ℚ
  realizedPnl : ℚ
  feesPaid : ℚ
  netPnl : ℚ
  outcome : TradeOutcome
  holdTimeSeconds : ℤ

/-- The profit before fees, as an exact rational. -/
def TradeSide.gain (side : TradeSide) (entry exit quantity : ℚ) : ℚ :=
  match side with
  | .long => (exit - entry) * quantity
  | .short => (entry - exit) * quantity

/-- `CompletedTrade.from_position_close`, in exact arithmetic. -/
def CompletedTrade.fromPositionClose (symbol : String) (side : TradeSide)
    (entryTime : ℤ) (entryPrice : ℚ) (exitTime : ℤ)
    (exitPrice quantity feesPaid : ℚ) : CompletedTrade :=
  let realized := side.gain entryPrice exitPrice quantity
  let net := realized - feesPaid
  { symbol := symbol
    side := side
    entryTime := entryTime
    entryPrice := entryPrice
    exitTime := exitTime
    exitPrice := exitPrice
    quantity := quantity
    realizedPnl := realized
    feesPaid := feesPaid
    netPnl := net
    outcome := if 0 < net then .win else if net < 0 then .loss else .breakeven
    holdTimeSeconds := (exitTime - entryTime).tdiv 1000000 }

/-! ## Margin arithmetic -/

/-- `value or other`. -/
def orLeverage (leverage other : Option ℤ) : Option ℤ :=
  match leverage with
  | none => other
  | some value => if value = 0 then other else some value

/-- `Decimal(leverage or 1)`. -/
def leverageFactor (leverage : Option ℤ) : ℚ :=
  match orLeverage leverage none with
  | none => 1
  | some value => value

def lockMargin (balance : PaperBalance) (notional : ℚ) (leverage : Option ℤ) :
    PaperBalance :=
  let margin := notional / leverageFactor leverage
  { total := balance.total
    available := balance.available - margin
    hold := balance.hold + margin }

def releaseMargin (balance : PaperBalance) (notional : ℚ)
    (leverage : Option ℤ) : PaperBalance :=
  let margin := notional / leverageFactor leverage
  { total := balance.total
    available := balance.available + margin
    hold := max 0 (balance.hold - margin) }

def creditPnl (balance : PaperBalance) (pnl : ℚ) : PaperBalance :=
  { total := balance.total + pnl
    available := balance.available + pnl
    hold := balance.hold }

/-! ## The broker -/

/-- The counters of the broker. -/
structure BrokerStatistics where
  totalFeesPaid : ℚ
  totalTrades : ℕ
  winningTrades : ℕ
  losingTrades : ℕ
  totalSlippageBps : ℚ

/-- The order book and its history. -/
structure BrokerOrders where
  openOrders : Dict String SimulatedOrder
  filledOrders : Dict String SimulatedOrder
  cancelledOrders : Dict String SimulatedOrder
  orderHistory : List SimulatedOrder

/-- `SimulatedBroker`; its balances have USDC only. -/
structure SimulatedBroker where
  initialEquity : ℚ
  feeTier : FeeTier
  fillModel : OrderFillModel
  usdc : PaperBalance
  positions : Dict String SimulatedPosition
  orders : BrokerOrders
  currentBar : Dict String PriceBar
  currentQuote : Dict String MarketQuote
  completedTrades : List CompletedTrade
  positionEntryTimes : Dict String ℤ
  positionEntryFees : Dict String ℚ
  statistics : BrokerStatistics
  simulationTime : Option ℤ

/-- What the chaos engine does to an order. -/
inductive ChaosOutcome where
  | disabled
  | passed
  | rejected
  | partialFill (percent : ℚ)
  deriving DecidableEq

/-- The arguments of `place_order`, with its random identifier. -/
structure SimulatedOrderArgs where
  id : String
  symbol : String
  side : OrderSide
  type : OrderType
  quantity : Option ℚ
  price : Option ℚ
  stopPrice : Option ℚ
  clientId : Option String
  reduceOnly : Bool
  leverage : Option ℤ
  tif : TimeInForce

namespace SimulatedBroker

def fresh (initialEquity : ℚ) (feeTier : FeeTier) (fillModel : OrderFillModel) :
    SimulatedBroker :=
  { initialEquity := initialEquity
    feeTier := feeTier
    fillModel := fillModel
    usdc := { total := initialEquity, available := initialEquity, hold := 0 }
    positions := .empty
    orders :=
      { openOrders := .empty
        filledOrders := .empty
        cancelledOrders := .empty
        orderHistory := [] }
    currentBar := .empty
    currentQuote := .empty
    completedTrades := []
    positionEntryTimes := .empty
    positionEntryFees := .empty
    statistics := ⟨0, 0, 0, 0, 0⟩
    simulationTime := none }

/-! ## Positions -/

def openedSide (side : OrderSide) : TradeSide :=
  match side with
  | .buy => .long
  | .sell => .short

def signedQuantity (side : TradeSide) (quantity : ℚ) : ℚ :=
  match side with
  | .long => quantity
  | .short => -quantity

def openPosition (broker : SimulatedBroker) (symbol : String) (side : TradeSide)
    (quantity price : ℚ) (leverage : Option ℤ) : SimulatedBroker :=
  { broker with
    positions := broker.positions.set symbol
      { quantity := signedQuantity side quantity
        entryPrice := price
        markPrice := price
        unrealizedPnl := 0
        realizedPnl := 0
        side := side
        leverage := leverage }
    positionEntryTimes := match broker.simulationTime with
      | none => broker.positionEntryTimes
      | some time => broker.positionEntryTimes.set symbol time
    positionEntryFees := broker.positionEntryFees.set symbol 0
    usdc := lockMargin broker.usdc (quantity * price) leverage }

/-- `_modify_position`, of a fill on the side of the position, in exact arithmetic. -/
def addToPosition (broker : SimulatedBroker) (symbol : String)
    (position : SimulatedPosition) (quantity price : ℚ)
    (leverage : Option ℤ) : Except SimulationError Unit × SimulatedBroker :=
  let oldQuantity := |position.quantity|
  let newQuantity := oldQuantity + quantity
  match simulatedQuotient
      (oldQuantity * position.entryPrice + quantity * price) newQuantity with
  | .error error => (.error error, broker)
  | .ok newEntry =>
      (.ok (),
        { broker with
          positions := broker.positions.set symbol
            { quantity := signedQuantity position.side newQuantity
              entryPrice := newEntry
              markPrice := price
              unrealizedPnl := 0
              realizedPnl := position.realizedPnl
              side := position.side
              leverage := orLeverage leverage position.leverage }
          usdc := lockMargin broker.usdc (quantity * price) leverage })

def closeRatio (closing old : ℚ) : ℚ :=
  if 0 < old then closing / old else 1

/-- Release the margin of what is closed, credit its gain and record the trade. -/
def closePart (broker : SimulatedBroker) (symbol : String)
    (position : SimulatedPosition) (closing price tradeFees : ℚ) :
    SimulatedBroker :=
  let realized := position.side.gain position.entryPrice price closing
  let statistics := broker.statistics
  { broker with
    usdc := creditPnl
      (releaseMargin broker.usdc (closing * position.entryPrice)
        position.leverage) realized
    statistics :=
      { statistics with
        winningTrades := statistics.winningTrades +
          if 0 < realized then 1 else 0
        losingTrades := statistics.losingTrades +
          if realized < 0 then 1 else 0 }
    completedTrades :=
      match broker.positionEntryTimes.get? symbol, broker.simulationTime with
      | some entryTime, some exitTime =>
          broker.completedTrades ++ [CompletedTrade.fromPositionClose symbol
            position.side entryTime position.entryPrice exitTime price closing
            tradeFees]
      | _, _ => broker.completedTrades }

/-- `_modify_position`, of a fill against the position. -/
def reducePosition (broker : SimulatedBroker) (symbol : String)
    (position : SimulatedPosition) (side : TradeSide) (quantity price : ℚ)
    (leverage : Option ℤ) : SimulatedBroker :=
  let oldQuantity := |position.quantity|
  let closing := min quantity oldQuantity
  let remaining := oldQuantity - closing
  let totalFees := (broker.positionEntryFees.get? symbol).getD 0
  let tradeFees := totalFees * closeRatio closing oldQuantity
  let closed := broker.closePart symbol position closing price tradeFees
  if 0 < remaining then
    { closed with
      positionEntryFees :=
        broker.positionEntryFees.set symbol (totalFees - tradeFees)
      positions := broker.positions.set symbol
        { quantity := signedQuantity position.side remaining
          entryPrice := position.entryPrice
          markPrice := price
          unrealizedPnl := 0
          realizedPnl := position.realizedPnl +
            position.side.gain position.entryPrice price closing
          side := position.side
          leverage := position.leverage } }
  else
    let flat :=
      { closed with
        positionEntryTimes := broker.positionEntryTimes.erase symbol
        positionEntryFees := broker.positionEntryFees.erase symbol
        positions := broker.positions.erase symbol }
    let flipping := quantity - oldQuantity
    if 0 < flipping then
      flat.openPosition symbol side flipping price leverage
    else flat

/-- `_update_position` and `_modify_position`. -/
def updatePosition (broker : SimulatedBroker) (symbol : String)
    (side : OrderSide) (quantity price : ℚ) (leverage : Option ℤ) :
    Except SimulationError Unit × SimulatedBroker :=
  match broker.positions.get? symbol with
  | none =>
      (.ok (), broker.openPosition symbol (openedSide side) quantity price
        leverage)
  | some position =>
      if openedSide side = position.side then
        broker.addToPosition symbol position quantity price leverage
      else
        (.ok (), broker.reducePosition symbol position (openedSide side) quantity
          price leverage)

/-! ## Fills -/

/-- `fill.fill_quantity or order.quantity`. -/
def filledQuantityOf (order : SimulatedOrder) (fill : FillResult) : ℚ :=
  match fill.fillQuantity with
  | none => order.quantity
  | some quantity => if quantity = 0 then order.quantity else quantity

/-- `_deduct_fee`, with the fee added to the entry fees of the symbol. -/
def chargeFee (broker : SimulatedBroker) (symbol : String) (fee : ℚ) :
    SimulatedBroker :=
  let statistics := broker.statistics
  { broker with
    statistics :=
      { statistics with totalFeesPaid := statistics.totalFeesPaid + fee }
    positionEntryFees := broker.positionEntryFees.set symbol
      ((broker.positionEntryFees.get? symbol).getD 0 + fee)
    usdc :=
      { total := broker.usdc.total - fee
        available := broker.usdc.available - fee
        hold := broker.usdc.hold } }

def recordFill (broker : SimulatedBroker) (order : SimulatedOrder)
    (slippage : Option ℚ) : SimulatedBroker :=
  let statistics := broker.statistics
  let orders := broker.orders
  { broker with
    statistics :=
      { statistics with
        totalTrades := statistics.totalTrades + 1
        totalSlippageBps := statistics.totalSlippageBps + slippage.getD 0 }
    orders :=
      { orders with
        filledOrders := orders.filledOrders.set order.id order
        orderHistory := orders.orderHistory ++ [order] } }

/-- The fee of a fill at the tier's rate. -/
def feeOf (broker : SimulatedBroker) (order : SimulatedOrder)
    (fill : FillResult) (price : ℚ) : ℚ :=
  broker.feeTier.calculate (filledQuantityOf order fill * price) fill.isMaker

def processFill (broker : SimulatedBroker) (order : SimulatedOrder)
    (fill : FillResult) (leverage : Option ℤ) :
    Except SimulationError SimulatedOrder × SimulatedBroker :=
  match fill.filled, fill.fillPrice with
  | true, some price =>
      let quantity := filledQuantityOf order fill
      let filled := { order with
        filledQuantity := quantity
        status := if quantity < order.quantity then .partiallyFilled else .filled
        avgFillPrice := some price
        updatedAt := fill.fillTime }
      let charged :=
        broker.chargeFee order.symbol (broker.feeOf order fill price)
      match charged.updatePosition order.symbol order.side quantity price
          leverage with
      | (.error error, broker) => (.error error, broker)
      | (.ok (), broker) =>
          (.ok filled, broker.recordFill filled fill.slippageBps)
  | _, _ => (.ok { order with status := .rejected }, broker)

def marketView (broker : SimulatedBroker) (symbol : String) :
    Option (PriceBar × ℚ × ℚ) :=
  match broker.currentBar.get? symbol, broker.currentQuote.get? symbol with
  | none, none => none
  | some bar, some quote => some (bar, quote.bid, quote.ask)
  | some bar, none =>
      let spread := bar.high - bar.low
      some (bar, bar.close - spread / 4, bar.close + spread / 4)
  | none, some quote =>
      let mid := (quote.bid + quote.ask) / 2
      some
        ({ ts := quote.ts
           openPrice := mid
           high := quote.ask
           low := quote.bid
           close := mid
           volume := 0 }, quote.bid, quote.ask)

/-- The fill that `_execute_market_order` tries. -/
def marketFill (broker : SimulatedBroker) (order : SimulatedOrder)
    (fillQuantity : Option ℚ) : Except SimulationError (Option FillResult) :=
  match broker.marketView order.symbol with
  | none => .ok none
  | some (bar, bid, ask) =>
      (broker.fillModel.fillMarketOrder order bar bid ask).map fun fill =>
        match fillQuantity with
        | none => some fill
        | some quantity =>
            if quantity ≤ 0 then some { fill with filled := false }
            else some { fill with
              fillQuantity := some (min quantity order.quantity) }

def executeMarketOrder (broker : SimulatedBroker) (order : SimulatedOrder)
    (leverage : Option ℤ) (fillQuantity : Option ℚ) :
    Except SimulationError SimulatedOrder × SimulatedBroker :=
  match broker.marketFill order fillQuantity with
  | .error error => (.error error, broker)
  | .ok none => (.ok { order with status := .rejected }, broker)
  | .ok (some fill) => broker.processFill order fill leverage

/-- The fill that `_execute_ioc_limit_order` tries. -/
def iocFill (broker : SimulatedBroker) (order : SimulatedOrder) :
    Except SimulationError (Option FillResult) :=
  match broker.marketView order.symbol with
  | none => .ok none
  | some (bar, _, _) =>
      (broker.fillModel.tryFillLimitOrder order bar).map some

def cancelInto (broker : SimulatedBroker) (order : SimulatedOrder) :
    SimulatedOrder × SimulatedBroker :=
  let cancelled := { order with
    status := .cancelled
    updatedAt := broker.simulationTime }
  let orders := broker.orders
  (cancelled,
    { broker with
      orders :=
        { orders with
          cancelledOrders := orders.cancelledOrders.set order.id cancelled
          orderHistory := orders.orderHistory ++ [cancelled] } })

def executeIocLimitOrder (broker : SimulatedBroker) (order : SimulatedOrder)
    (leverage : Option ℤ) :
    Except SimulationError SimulatedOrder × SimulatedBroker :=
  match broker.iocFill order with
  | .error error => (.error error, broker)
  | .ok none => (.ok { order with status := .rejected }, broker)
  | .ok (some fill) =>
      if fill.filled then broker.processFill order fill leverage
      else
        let (cancelled, broker) := broker.cancelInto order
        (.ok cancelled, broker)

/-! ## Orders -/

/-- `_apply_chaos_to_order`: the order, and how much of it may fill. -/
def applyChaosToOrder (order : SimulatedOrder) (chaos : ChaosOutcome) :
    SimulatedOrder × Option ℚ :=
  match chaos with
  | .disabled => (order, none)
  | chaos =>
      let processed := match chaos with
        | .rejected => { order with status := .rejected }
        | .partialFill percent => { order with
            filledQuantity := order.quantity * (percent / 100)
            status := .partiallyFilled }
        | _ => order
      if processed.status = .partiallyFilled ∧ 0 < processed.filledQuantity then
        ({ processed with filledQuantity := 0, status := .pending },
          some processed.filledQuantity)
      else (processed, none)

/-- The price `_validate_margin` takes. -/
def validationPrice (broker : SimulatedBroker) (order : SimulatedOrder) :
    Except SimulationError ℚ :=
  match broker.currentQuote.get? order.symbol with
  | some quote => .ok (match order.side with
      | .buy => quote.ask
      | .sell => quote.bid)
  | none =>
      match broker.currentBar.get? order.symbol with
      | some bar => .ok bar.close
      | none =>
          match order.price with
          | some price => .ok price
          | none => .error (.valueError
              ("No price available for " ++ order.symbol))

def validateMargin (broker : SimulatedBroker) (order : SimulatedOrder)
    (leverage : Option ℤ) : Except SimulationError Unit :=
  match broker.validationPrice order with
  | .error error => .error error
  | .ok price =>
      let required := order.quantity * price / leverageFactor leverage
      let available := broker.usdc.available
      if available < required then .error (.insufficientFunds required available)
      else .ok ()

/-- `Decimal(str(price)) if price else None`. -/
def givenPrice (price : Option ℚ) : Option ℚ :=
  price.filter fun price => decide (price ≠ 0)

/-- The order that `place_order` creates. -/
def newOrder (broker : SimulatedBroker) (args : SimulatedOrderArgs)
    (quantity : ℚ) : SimulatedOrder :=
  { id := args.id
    symbol := args.symbol
    side := args.side
    type := args.type
    quantity := quantity
    status := .pending
    filledQuantity := 0
    price := givenPrice args.price
    stopPrice := givenPrice args.stopPrice
    tif := args.tif
    clientId := args.clientId
    avgFillPrice := none
    submittedAt := broker.simulationTime
    updatedAt := none
    createdAt := broker.simulationTime }

/-- The order moved to the rejected ones. -/
def rejectInto (broker : SimulatedBroker) (order : SimulatedOrder)
    (time : Option ℤ) : SimulatedOrder × SimulatedBroker :=
  let rejected := { order with updatedAt := time }
  let orders := broker.orders
  (rejected,
    { broker with
      orders :=
        { orders with orderHistory := orders.orderHistory ++ [rejected] } })

/-- `place_order`, once the margin is validated. -/
def routeOrder (broker : SimulatedBroker) (order : SimulatedOrder)
    (leverage : Option ℤ) (chaos : ChaosOutcome) :
    Except SimulationError SimulatedOrder × SimulatedBroker :=
  if order.type = .market then
    let (order, fillQuantity) := applyChaosToOrder order chaos
    if order.status = .rejected then
      let (rejected, broker) := broker.rejectInto order broker.simulationTime
      (.ok rejected, broker)
    else broker.executeMarketOrder order leverage fillQuantity
  else if order.type = .limit ∧ order.tif = .ioc then
    broker.executeIocLimitOrder order leverage
  else
    let submitted := { order with status := .submitted }
    let orders := broker.orders
    (.ok submitted,
      { broker with
        orders :=
          { orders with
            openOrders := orders.openOrders.set order.id submitted } })

def placeOrder (broker : SimulatedBroker) (args : SimulatedOrderArgs)
    (chaos : ChaosOutcome) :
    Except SimulationError SimulatedOrder × SimulatedBroker :=
  match args.quantity with
  | none => (.error (.valueError "Order quantity is required"), broker)
  | some quantity =>
      let order := broker.newOrder args quantity
      let validated := if args.reduceOnly then .ok ()
        else broker.validateMargin order args.leverage
      match validated with
      | .error error => (.error error, broker)
      | .ok () => broker.routeOrder order args.leverage chaos

def cancelOrder (broker : SimulatedBroker) (orderId : String) :
    Bool × SimulatedBroker :=
  match broker.orders.openOrders.get? orderId with
  | none => (false, broker)
  | some order =>
      let orders := broker.orders
      let popped := { broker with
        orders := { orders with openOrders := orders.openOrders.erase orderId } }
      (true, (popped.cancelInto order).2)

/-! ## Bars -/

/-- The position marked at a price. -/
def updatePositionMarks (broker : SimulatedBroker) (symbol : String)
    (mark : ℚ) : SimulatedBroker :=
  match broker.positions.get? symbol with
  | none => broker
  | some position =>
      { broker with
        positions := broker.positions.set symbol
          { position with
            markPrice := mark
            unrealizedPnl := position.side.gain position.entryPrice mark
              |position.quantity| } }

/-- An open order against a new bar. -/
def pendingFill (broker : SimulatedBroker) (order : SimulatedOrder)
    (bar : PriceBar) (quote : MarketQuote) (fillQuantity : Option ℚ) :
    Except SimulationError (Option FillResult) :=
  let tried : Except SimulationError (Option FillResult) :=
    match order.type with
    | .market => .ok none
    | .limit => (broker.fillModel.tryFillLimitOrder order bar).map some
    | .stop | .stopLimit =>
        (broker.fillModel.tryFillStopOrder order bar quote.bid quote.ask).map
          some
  tried.map fun fill => (fill.filter FillResult.filled).map fun fill =>
    match fillQuantity with
    | none => fill
    | some quantity =>
        { fill with
          fillQuantity := some (min quantity
            (match fill.fillQuantity with
              | none => quantity
              | some filled => if filled = 0 then quantity else filled)) }

def setOpenOrder (broker : SimulatedBroker) (orderId : String)
    (order : SimulatedOrder) : SimulatedBroker :=
  let orders := broker.orders
  { broker with
    orders := { orders with openOrders := orders.openOrders.set orderId order } }

def dropOpenOrder (broker : SimulatedBroker) (orderId : String) :
    SimulatedBroker :=
  let orders := broker.orders
  { broker with
    orders := { orders with openOrders := orders.openOrders.erase orderId } }

/-- One order of `_check_pending_orders`. -/
def checkPendingOrder (broker : SimulatedBroker) (bar : PriceBar)
    (quote : MarketQuote) (chaos : String → ChaosOutcome)
    (entry : String × SimulatedOrder) :
    Except SimulationError Unit × SimulatedBroker :=
  let (order, fillQuantity) := applyChaosToOrder entry.2 (chaos entry.1)
  if chaos entry.1 ≠ .disabled ∧ order.status = .rejected then
    (.ok (), ((broker.dropOpenOrder entry.1).rejectInto order (some bar.ts)).2)
  else
    let changed := broker.setOpenOrder entry.1 order
    match changed.pendingFill order bar quote fillQuantity with
    | .error error => (.error error, changed)
    | .ok none => (.ok (), changed)
    | .ok (some fill) =>
        let (result, broker) :=
          (changed.dropOpenOrder entry.1).processFill order fill none
        (result.map fun _ => (), broker)

/-- The orders of `_check_pending_orders`, one after the other. -/
def checkOrders (bar : PriceBar) (quote : MarketQuote)
    (chaos : String → ChaosOutcome) :
    SimulatedBroker → List (String × SimulatedOrder) →
    Except SimulationError Unit × SimulatedBroker
  | broker, [] => (.ok (), broker)
  | broker, entry :: rest =>
      match broker.checkPendingOrder bar quote chaos entry with
      | (.error error, broker) => (.error error, broker)
      | (.ok (), broker) => checkOrders bar quote chaos broker rest

/-- The quote that `update_bar` makes up. -/
def synthesizedQuote (bar : PriceBar) : MarketQuote :=
  let spread := (bar.high - bar.low) / 4
  { bid := bar.close - spread / 2
    ask := bar.close + spread / 2
    last := bar.close
    ts := bar.ts }

/-- The broker when `update_bar` comes to the pending orders. -/
def markBar (broker : SimulatedBroker) (symbol : String) (bar : PriceBar) :
    SimulatedBroker :=
  { broker with
    currentBar := broker.currentBar.set symbol bar
    currentQuote :=
      broker.currentQuote.set symbol (synthesizedQuote bar) }
    |>.updatePositionMarks symbol bar.close

def ordersToProcess (broker : SimulatedBroker) (symbol : String) :
    List (String × SimulatedOrder) :=
  broker.orders.openOrders.entries.filter fun entry =>
    decide (entry.2.symbol = symbol)

/-- `update_bar`, with `_check_pending_orders`. -/
def updateBar (broker : SimulatedBroker) (symbol : String) (bar : PriceBar)
    (chaos : String → ChaosOutcome) :
    Except SimulationError Unit × SimulatedBroker :=
  let marked := broker.markBar symbol bar
  match checkOrders bar (synthesizedQuote bar) chaos marked
      (marked.ordersToProcess symbol) with
  | (.error error, broker) => (.error error, broker)
  | (.ok (), broker) => (.ok (), { broker with simulationTime := some bar.ts })

end SimulatedBroker

end GptTrader
