import Mathlib.Data.Nat.Digits.Lemmas
import GptTrader.Core.OrderIntent
import GptTrader.LiveTrade.OrderSubmission
import GptTrader.Library.DictSums
import GptTrader.Python.DecimalContext

/-!
# The hybrid paper broker

`HybridPaperBroker` (`features/brokerages/paper/hybrid.py`): market prices come
from outside, orders are filled at once.  Prices and quantities are finite; what
a quote request would answer is given with each call.  Logging, products and
candles are left out.
-/

namespace GptTrader

/-- `Balance`, under its asset. -/
structure PaperBalance where
  total : ℚ
  available : ℚ
  hold : ℚ
  deriving DecidableEq

/-- `Position`, under its symbol; every position is long. -/
structure HybridPosition where
  quantity : ℚ
  entryPrice : ℚ
  markPrice : ℚ
  unrealizedPnl : ℚ
  realizedPnl : ℚ
  deriving DecidableEq

/-- The time in force of an order: the default, or what the caller passed. -/
inductive PaperTif where
  | inForce (value : TimeInForce)
  | given (value : Json)

/-- The order the broker returns and keeps. -/
structure PaperOrder where
  id : String
  clientId : Option String
  symbol : String
  side : OrderSide
  type : OrderType
  quantity : ℚ
  price : Option ℚ
  stopPrice : Option ℚ
  tif : PaperTif
  status : BrokerOrderStatus
  filledQuantity : ℚ
  avgFillPrice : Option ℚ
  submittedAt : DateTime
  updatedAt : DateTime

def PaperOrder.observed (order : PaperOrder) : ObservedOrder :=
  { clientId := order.clientId
    symbol := some order.symbol
    side := some order.side.value
    orderType := some order.type.value
    quantity := some (.finite order.quantity)
    reduceOnly := none
    status := some order.status.value
    filledQuantity := some (.finite order.filledQuantity)
    fillPrice := order.avgFillPrice.map .finite }

/-- A side as a text or as an enumeration value. -/
inductive SideArg where
  | text (value : String)
  | side (value : OrderSide)

/-- An order type as a text or as an enumeration value. -/
inductive TypeArg where
  | text (value : String)
  | type (value : OrderType)

/-- What is read of a dictionary payload.  Its side may be missing or empty; the
sizes are those its `market_market_ioc` configuration gives, if it has one. -/
structure PaperPayload where
  productId : Option String
  symbol : Option String
  side : Option (Option SideArg)
  baseSize : Option ℚ
  quoteSize : Option ℚ

/-- `symbol_or_payload`. -/
inductive PlaceTarget where
  | missing
  | symbol (value : String)
  | payload (value : PaperPayload)

/-- The arguments of `place_order`. -/
structure PlaceOrderArgs where
  target : PlaceTarget
  side : Option SideArg
  orderType : TypeArg
  quantity : Option ℚ
  limitPrice : Option ℚ
  /-- The keyword arguments that are read. -/
  symbolKeyword : Option String
  priceKeyword : Option ℚ
  stopPrice : Option ℚ
  tif : Option Json
  reduceOnly : Bool
  clientId : Option (Option String)

/-- `order.broker_kwargs()`, as arguments of `place_order`. -/
def OrderIntent.brokerKwargs (intent : OrderIntent) : PlaceOrderArgs :=
  { target := .missing
    side := some (.side intent.side)
    orderType := .type intent.orderType
    quantity := some intent.quantity
    limitPrice := none
    symbolKeyword := some intent.symbol
    priceKeyword := intent.price
    stopPrice := intent.stopPrice
    tif := some intent.tif
    reduceOnly := intent.reduceOnly
    clientId := some (some intent.clientOrderId) }

/-- `decimal.DivisionByZero`: slippage of minus all basis points. -/
inductive PaperBrokerError where
  | divisionByZero
  deriving DecidableEq

structure HybridPaperBroker where
  slippageBps : ℤ
  commissionBps : ℚ
  orderIdPrefix : String
  orderCounter : ℕ
  balances : Dict String PaperBalance
  positions : Dict String HybridPosition
  orders : Dict String PaperOrder
  lastPrices : Dict String ℚ

/-- `f"{counter:06d}"`. -/
def counterText (counter : ℕ) : String :=
  let digits := (Nat.digits 10 counter).reverse.map Nat.digitChar
  .ofList (List.replicate (6 - digits.length) '0' ++ digits)

namespace HybridPaperBroker

variable (context : DecimalContext) (formats : TextFormats)

def fresh (orderIdPrefix : String) (initialEquity : ℚ) (slippageBps : ℤ)
    (commissionBps : ℚ) : HybridPaperBroker :=
  { slippageBps := slippageBps
    commissionBps := commissionBps
    orderIdPrefix := orderIdPrefix
    orderCounter := 0
    balances := Dict.empty.set "USD"
      { total := initialEquity, available := initialEquity, hold := 0 }
    positions := .empty
    orders := .empty
    lastPrices := .empty }

/-! ## Prices -/

/-- `get_quote`, whose answer is given. -/
def getQuote (symbol : String) (quoted : Option ℚ)
    (broker : HybridPaperBroker) : HybridPaperBroker :=
  match quoted with
  | none => broker
  | some price => { broker with lastPrices := broker.lastPrices.set symbol price }

/-- `_get_current_price`: the cached price, else a fresh quote. -/
def getCurrentPrice (symbol : String) (quoted : Option ℚ)
    (broker : HybridPaperBroker) : Option ℚ × HybridPaperBroker :=
  match broker.lastPrices.get? symbol with
  | some price => (some price, broker)
  | none => (quoted, broker.getQuote symbol quoted)

/-! ## Balances and positions -/

/-- The two assets of a symbol. -/
def parseSymbol (symbol : String) : String × String :=
  let base := symbol.toList.takeWhile (· ≠ '-')
  let quote := (symbol.toList.dropWhile (· ≠ '-')).drop 1
  (formats.upper (.ofList base),
    formats.upper (if quote.isEmpty then "USD" else .ofList quote))

def baseAsset (symbol : String) : String :=
  formats.upper (parseSymbol formats symbol).1

def quoteAsset (symbol : String) : String :=
  formats.upper (parseSymbol formats symbol).2

def balanceOf (broker : HybridPaperBroker) (asset : String) : PaperBalance :=
  (broker.balances.get? asset).getD { total := 0, available := 0, hold := 0 }

def adjustBalance (asset : String) (delta : ℚ) (broker : HybridPaperBroker) :
    HybridPaperBroker :=
  let balance := broker.balanceOf asset
  { broker with
    balances := broker.balances.set asset
      { total := context.add balance.total delta
        available := context.add balance.available delta
        hold := balance.hold } }

/-- The balances after a fill. -/
def updateBalancesFromFill (symbol : String) (side : OrderSide)
    (quantity fillPrice commission : ℚ) (broker : HybridPaperBroker) :
    HybridPaperBroker :=
  let notional := context.mul fillPrice quantity
  let base := baseAsset formats symbol
  let quote := quoteAsset formats symbol
  match side with
  | .buy =>
      broker.adjustBalance context quote
          (context.neg (context.add notional commission))
        |>.adjustBalance context base quantity
  | .sell =>
      broker.adjustBalance context base (context.neg quantity)
        |>.adjustBalance context quote (context.sub notional commission)

/-- The position after a fill. -/
def updatePositionFromFill (symbol : String) (side : OrderSide)
    (quantity fillPrice : ℚ) (broker : HybridPaperBroker) :
    HybridPaperBroker :=
  if quantity ≤ 0 then broker
  else
    match broker.positions.get? symbol, side with
    | none, .sell => broker
    | none, .buy =>
        { broker with
          positions := broker.positions.set symbol
            { quantity := quantity
              entryPrice := fillPrice
              markPrice := fillPrice
              unrealizedPnl := 0
              realizedPnl := 0 } }
    | some position, .buy =>
        let newQuantity := context.add position.quantity quantity
        if newQuantity ≤ 0 then broker
        else
          { broker with
            positions := broker.positions.set symbol
              { position with
                quantity := newQuantity
                entryPrice := context.div
                  (context.add
                    (context.mul position.entryPrice position.quantity)
                    (context.mul fillPrice quantity))
                  newQuantity
                markPrice := fillPrice
                unrealizedPnl := 0 } }
    | some position, .sell =>
        let closing := min position.quantity quantity
        let realized :=
          context.mul (context.sub fillPrice position.entryPrice) closing
        let remaining := context.sub position.quantity closing
        if remaining ≤ 0 then
          { broker with positions := broker.positions.erase symbol }
        else
          { broker with
            positions := broker.positions.set symbol
              { position with
                quantity := remaining
                markPrice := fillPrice
                realizedPnl := context.add position.realizedPnl realized
                unrealizedPnl := 0 } }

/-! ## Orders -/

def orderId (broker : HybridPaperBroker) (counter : ℕ) : String :=
  "PAPER_" ++ broker.orderIdPrefix ++ "_" ++ counterText counter

def rejectedOrder (orderId symbol : String) (side : OrderSide) (quantity : ℚ)
    (now : DateTime) : PaperOrder :=
  { id := orderId
    clientId := some orderId
    symbol := symbol
    side := side
    type := .market
    quantity := quantity
    price := none
    stopPrice := none
    tif := .inForce .gtc
    status := .rejected
    filledQuantity := 0
    avgFillPrice := none
    submittedAt := now
    updatedAt := now }

/-- `1 + slippage_bps / 10000`. -/
def slippageMultiplier (broker : HybridPaperBroker) : ℚ :=
  context.add 1 (context.div broker.slippageBps 10000)

def limitedPrice (side : OrderSide) (type : OrderType) (limit : Option ℚ)
    (price : ℚ) : ℚ :=
  match limit with
  | none => price
  | some limit =>
      if limit ≠ 0 ∧ type = .limit then
        match side with
        | .buy => if limit < price then limit else price
        | .sell => if price < limit then limit else price
      else price

def fillPrice (broker : HybridPaperBroker) (side : OrderSide)
    (type : OrderType) (limit : Option ℚ) (price : ℚ) :
    Except PaperBrokerError ℚ :=
  let multiplier := broker.slippageMultiplier context
  match side with
  | .buy => .ok (limitedPrice side type limit (context.mul price multiplier))
  | .sell =>
      if multiplier = 0 then .error .divisionByZero
      else .ok (limitedPrice side type limit (context.div price multiplier))

def commission (broker : HybridPaperBroker) (notional : ℚ) : ℚ :=
  context.div (context.mul notional broker.commissionBps) 10000

def acceptedQuantity (broker : HybridPaperBroker) (symbol : String)
    (side : OrderSide) (quantity price : ℚ) (reduceOnly : Bool) : Option ℚ :=
  match side with
  | .buy =>
      let notional := context.mul price quantity
      let required := context.add notional (broker.commission context notional)
      if (broker.balanceOf (quoteAsset formats symbol)).available < required then
        none
      else some quantity
  | .sell =>
      let available := (broker.balanceOf (baseAsset formats symbol)).available
      if available ≤ 0 then none
      else if available < quantity then
        if reduceOnly then some available else none
      else some quantity

/-- Fill an accepted order. -/
def fillOrder (broker : HybridPaperBroker) (orderId : String)
    (args : PlaceOrderArgs) (symbol : String) (side : OrderSide)
    (type : OrderType) (quantity price : ℚ) (now : DateTime) :
    PaperOrder × HybridPaperBroker :=
  let commission := broker.commission context (context.mul price quantity)
  let filled :=
    broker.updateBalancesFromFill context formats symbol side quantity price
        commission
      |>.updatePositionFromFill context symbol side quantity price
  let order : PaperOrder :=
    { id := orderId
      clientId := args.clientId.getD (some orderId)
      symbol := symbol
      side := side
      type := type
      quantity := quantity
      price := some price
      stopPrice := args.stopPrice
      tif := (args.tif.map .given).getD (.inForce .gtc)
      status := .filled
      filledQuantity := quantity
      avgFillPrice := some price
      submittedAt := now
      updatedAt := now }
  (order, { filled with orders := filled.orders.set orderId order })

/-- `quantity or Decimal("0.001")`. -/
def orMinimum : Option ℚ → ℚ
  | none => 1 / 1000
  | some quantity => if quantity = 0 then 1 / 1000 else quantity

/-- What is left of `place_order` once the arguments are read. -/
def placeParsed (broker : HybridPaperBroker) (orderId : String)
    (args : PlaceOrderArgs) (symbol : String) (side : OrderSide)
    (type : OrderType) (quantity limit : Option ℚ) (quoted : Option ℚ)
    (now : DateTime) :
    Except PaperBrokerError PaperOrder × HybridPaperBroker :=
  let (current, broker) := broker.getCurrentPrice symbol quoted
  match current with
  | none =>
      (.ok (rejectedOrder orderId symbol side (quantity.getD 0) now), broker)
  | some current =>
      match broker.fillPrice context side type limit current with
      | .error error => (.error error, broker)
      | .ok price =>
          let fillQuantity := orMinimum quantity
          if fillQuantity ≤ 0 then
            (.ok (rejectedOrder orderId symbol side 0 now), broker)
          else
            match broker.acceptedQuantity context formats symbol side
                fillQuantity price args.reduceOnly with
            | none =>
                (.ok (rejectedOrder orderId symbol side fillQuantity now),
                  broker)
            | some accepted =>
                let (order, broker) := broker.fillOrder context formats orderId
                  args symbol side type accepted price now
                (.ok order, broker)

/-- `OrderSide.BUY if side.lower() == "buy" else OrderSide.SELL`. -/
def sideOf : Option SideArg → OrderSide
  | none => .buy
  | some (.side side) => side
  | some (.text text) => if formats.lower text = "buy" then .buy else .sell

/-- `payload.get("side", side) or "BUY"`. -/
def payloadSide (payload : PaperPayload) (side : Option SideArg) :
    Option SideArg :=
  match payload.side.getD side with
  | some (.text text) => if text = "" then none else some (.text text)
  | side => side

def typeOf : TypeArg → OrderType
  | .type type => type
  | .text text => if formats.lower text = "market" then .market else .limit

/-- `value or other`, of texts. -/
def orText (value : Option String) (other : String) : String :=
  match value with
  | none => other
  | some text => if text = "" then other else text

def payloadQuantity (broker : HybridPaperBroker) (payload : PaperPayload)
    (symbol : String) (quantity quoted : Option ℚ) :
    Option ℚ × HybridPaperBroker :=
  match payload.baseSize, payload.quoteSize with
  | some size, _ => (some size, broker)
  | none, some size =>
      let (current, broker) := broker.getCurrentPrice symbol quoted
      match current.filter (· ≠ 0) with
      | some price => (some (context.div size price), broker)
      | none => (some (1 / 1000), broker)
  | none, none => (quantity, broker)

/-- `place_order`: the returned order, and the broker afterwards. -/
def placeOrder (broker : HybridPaperBroker) (args : PlaceOrderArgs)
    (quoted : Option ℚ) (now : DateTime) :
    Except PaperBrokerError PaperOrder × HybridPaperBroker :=
  let counter := broker.orderCounter + 1
  let orderId := broker.orderId counter
  let broker := { broker with orderCounter := counter }
  let limit := args.limitPrice.or args.priceKeyword
  let type := typeOf formats args.orderType
  match args.target with
  | .payload payload =>
      let symbol := orText payload.productId (orText payload.symbol "")
      let side := sideOf formats (payloadSide payload args.side)
      let (quantity, broker) :=
        broker.payloadQuantity context payload symbol args.quantity quoted
      broker.placeParsed context formats orderId args symbol side type quantity
        limit quoted now
  | .symbol symbol =>
      broker.placeParsed context formats orderId args symbol
        (sideOf formats args.side) type args.quantity limit quoted now
  | .missing =>
      broker.placeParsed context formats orderId args
        (args.symbolKeyword.getD "") (sideOf formats args.side) type
        args.quantity limit quoted now

/-- A stored order cancelled. -/
def cancelOrder (broker : HybridPaperBroker) (orderId : String) :
    Bool × HybridPaperBroker :=
  match broker.orders.get? orderId with
  | some order =>
      (true, { broker with
        orders := broker.orders.set orderId { order with status := .cancelled } })
  | none => (false, broker)

def getOrder (broker : HybridPaperBroker) (orderId : String) :
    Option PaperOrder :=
  broker.orders.get? orderId

end HybridPaperBroker

end GptTrader
