import GptTrader.Persistence.OrdersAccounting

/-!
# Venue events and the orders store

`CoinbaseUserEventHandler` (`features/brokerages/coinbase/user_event_handler.py`)
persists order updates and cumulative fills.  An event without a client
identifier falls back to its order identifier.  Parsed fields which are absent
are empty strings.
-/

namespace GptTrader

/-- An order update of the user channel. -/
structure OrderUpdateEvent where
  orderId : String
  clientOrderId : String
  productId : String
  status : String
  side : String
  orderType : String
  size : Decimal
  filledSize : Decimal
  price : Option Decimal
  averagePrice : Option Decimal
  timestamp : Option DateTime

/-- A fill of the user channel. -/
structure FillEvent where
  orderId : String
  clientOrderId : String
  productId : String
  side : String
  fillPrice : Decimal
  fillSize : Decimal
  sequence : Option ℤ
  timestamp : Option DateTime

/-- A handler and the store it persists to. -/
structure UserEventHandler where
  botId : String
  store : OrdersStore
  recentFillKeys : List String
  dedupeLimit : ℕ

/-- A computation on the handler and its store. -/
abbrev HandlerTx : Type → Type :=
  Tx StoreError UserEventHandler

namespace UserEventHandler

/-- `first or second` for strings. -/
def orElse (first second : String) : String :=
  if first = "" then second else first

/-- The order identifier, else the client's. -/
def resolvedOrderId (orderId clientOrderId : String) : String :=
  orElse orderId clientOrderId

/-- The client identifier, else the order's. -/
def resolvedClientId (orderId clientOrderId : String) : String :=
  orElse clientOrderId (resolvedOrderId orderId clientOrderId)

/-- A store transaction run by the handler. -/
def onStore {α : Type} (body : StoreTx α) : HandlerTx α :=
  fun handler =>
    let outcome := body handler.store
    (outcome.1, { handler with store := outcome.2 })

variable (context : OrdersContext)

def normalizeStatus (status : String) : OrderStatus :=
  let normalized := context.formats.lower (strip status)
  if normalized = "pending" then .pending
  else if normalized = "open" then .open
  else if normalized = "partially_filled" then .partiallyFilled
  else if normalized = "filled" then .filled
  else if normalized = "cancelled" then .cancelled
  else if normalized = "canceled" then .cancelled
  else if normalized = "rejected" then .rejected
  else if normalized = "expired" then .expired
  else if normalized = "failed" then .failed
  else .open

/-- `value.lower() if value else "unknown"`. -/
def lowerOrUnknown (value : String) : String :=
  if value = "" then "unknown" else context.formats.lower value

/-- Where a stored row came from. -/
def eventMetadata (eventType : String) : Dict String Json :=
  .ofList [("source", .str "ws_user_event"), ("event_type", .str eventType)]

def updateRecord (botId : String) (event : OrderUpdateEvent)
    (now : DateTime) : OrderRecord :=
  { orderId := resolvedOrderId event.orderId event.clientOrderId
    clientOrderId := resolvedClientId event.orderId event.clientOrderId
    symbol := event.productId
    side := lowerOrUnknown context event.side
    orderType := lowerOrUnknown context event.orderType
    quantity := event.size
    price := event.price
    status := normalizeStatus context event.status
    filledQuantity := event.filledSize
    averageFillPrice := event.averagePrice
    createdAt := event.timestamp.getD now
    updatedAt := now
    botId := some botId
    timeInForce := "GTC"
    metadata := some (eventMetadata "order_update")
    checksum := none }

def persistStatements (record : OrderRecord) : StoreTx Unit := do
  let _ ← OrdersStore.upsertByClientId context record true
  OrdersStore.recordObservation context record "ws_user_event"

def persist (record : OrderRecord) : StoreTx Unit :=
  OrdersStore.transaction true (persistStatements context record)

/-- The event names an order. -/
def identified (orderId clientOrderId : String) : Bool :=
  decide (resolvedOrderId orderId clientOrderId ≠ "" ∧
    resolvedClientId orderId clientOrderId ≠ "")

def handleOrderUpdate (event : OrderUpdateEvent) (now : DateTime) :
    HandlerTx Unit := do
  let botId ← Tx.view UserEventHandler.botId
  if identified event.orderId event.clientOrderId then
    onStore (Tx.handle
      (persist context (updateRecord context botId event now))
      fun _ => pure ())
  else pure ()

/-- What a cumulative fill asks for: nothing, an observation of fills already
recorded, or an advanced record and the newly filled quantity. -/
inductive FillUpdate where
  | ignored
  | observed (record : OrderRecord)
  | advanced (record : OrderRecord) (delta : Decimal)

def fillRecord (botId : String) (event : FillEvent) (now : DateTime)
    (orderType timeInForce : String) (quantity : Decimal)
    (price averageFillPrice : Option Decimal) (status : OrderStatus)
    (createdAt : DateTime) : OrderRecord :=
  { orderId := resolvedOrderId event.orderId event.clientOrderId
    clientOrderId := resolvedClientId event.orderId event.clientOrderId
    symbol := event.productId
    side := lowerOrUnknown context event.side
    orderType := orderType
    quantity := quantity
    price := price
    status := status
    filledQuantity := event.fillSize
    averageFillPrice := averageFillPrice
    createdAt := createdAt
    updatedAt := now
    botId := some botId
    timeInForce := timeInForce
    metadata := some (eventMetadata "fill")
    checksum := none }

def isPositive (value : Decimal) : Except StoreError Bool :=
  (Decimal.lt (.finite 0) value).mapError .python

/-- `fill_price if fill_price > 0 else (existing price or fill_price)`. -/
def fillPriceOr (fillPrice : Decimal) (recorded : Option Decimal) :
    Except StoreError Decimal := do
  if ← isPositive fillPrice then .ok fillPrice
  else .ok ((OrderRecord.nonzero recorded).getD fillPrice)

/-- Filled when the quantity is reached. -/
def fillStatus (quantity filled : Decimal) : Except StoreError OrderStatus := do
  if ← isPositive quantity then
    if ← (filled.lt quantity).mapError .python then .ok .partiallyFilled
    else .ok .filled
  else .ok .partiallyFilled

/-- A fill added to the stored order. -/
def fillOfExisting (botId : String) (event : FillEvent) (now : DateTime)
    (existing : OrderRecord) : Except StoreError FillUpdate := do
  let delta ← (event.fillSize.sub existing.filledQuantity).mapError .python
  if ← isPositive delta then
    let averagePrice ← fillPriceOr event.fillPrice existing.averageFillPrice
    let status ← fillStatus existing.quantity event.fillSize
    .ok (.advanced
      (fillRecord context botId event now existing.orderType
        existing.timeInForce existing.quantity existing.price
        (some averagePrice) status existing.createdAt)
      delta)
  else
    .ok (.observed
      { existing with
        filledQuantity := event.fillSize
        averageFillPrice := some event.fillPrice
        updatedAt := now })

def fillUpdate (botId : String) (event : FillEvent) (now : DateTime)
    (existing : Option OrderRecord) : Except StoreError FillUpdate := do
  if ← isPositive event.fillSize then
    match existing with
    | some existing => fillOfExisting context botId event now existing
    | none =>
        .ok (.advanced
          (fillRecord context botId event now "unknown" "GTC" event.fillSize
            none (some event.fillPrice) .partiallyFilled
            (event.timestamp.getD now))
          event.fillSize)
  else .ok .ignored

/-- The record of a fill's order: by client identifier, else by order
identifier with a valid checksum. -/
def fillContext (database : OrdersDatabase) (event : FillEvent) :
    Except StoreError (Option OrderRecord) := do
  let existing ← database.getOrderByClientOrderId context
    (resolvedClientId event.orderId event.clientOrderId)
  match existing with
  | some existing => .ok (some existing)
  | none =>
      match database.getOrder
          (resolvedOrderId event.orderId event.clientOrderId) with
      | none => .ok none
      | some existing =>
          if existing.checksumIsValid context then .ok (some existing)
          else .error (.value "Stored fill context failed checksum validation")

def updateOrdersForFillInner (botId : String) (event : FillEvent)
    (now : DateTime) : StoreTx Decimal := do
  if identified event.orderId event.clientOrderId then
    let existing ← OrdersStore.select fun database =>
      fillContext context database event
    let update ← OrdersStore.lift (fillUpdate context botId event now existing)
    match update with
    | .ignored => pure (.finite 0)
    | .observed record =>
        OrdersStore.recordObservation context record "websocket"
        pure (.finite 0)
    | .advanced record delta =>
        persist context record
        pure delta
  else pure (.finite 0)

def updateOrdersForFill (botId : String) (event : FillEvent)
    (now : DateTime) : StoreTx Decimal :=
  OrdersStore.transaction true
    (updateOrdersForFillInner context botId event now)

def fillEventKey (event : FillEvent) : String :=
  "|".intercalate
    [event.orderId, event.clientOrderId, event.productId,
      context.formats.showDecimal event.fillPrice,
      context.formats.showDecimal event.fillSize,
      (event.timestamp.map context.formats.showDateTime).getD "",
      match event.sequence with
      | none => ""
      | some sequence => if sequence = 0 then "" else toString sequence]

def recordFillKey (key : String) (handler : UserEventHandler) :
    UserEventHandler :=
  let keys := handler.recentFillKeys ++ [key]
  { handler with
    recentFillKeys := keys.drop (keys.length - handler.dedupeLimit) }

def forgetFillKey (key : String) (handler : UserEventHandler) :
    UserEventHandler :=
  { handler with recentFillKeys := handler.recentFillKeys.erase key }

/-- A fill booked once for its key. -/
def handleFill (event : FillEvent) (now : DateTime) : HandlerTx Unit := do
  let handler ← Tx.view id
  let key := fillEventKey context event
  if key ∈ handler.recentFillKeys then pure ()
  else
    Tx.modify (recordFillKey key)
    Tx.handle
      (do
        let _ ← onStore (updateOrdersForFill context handler.botId event now)
        pure ())
      fun error => do
        Tx.modify (forgetFillKey key)
        Tx.raise error

end UserEventHandler

end GptTrader
