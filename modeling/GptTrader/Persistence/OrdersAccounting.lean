import GptTrader.Persistence.OrdersStore

/-!
# Fill evidence in the orders database

`OrdersAccounting` (`persistence/orders_accounting.py`): recording an identified
fill, a cumulative observation and an opening baseline.  Each joins the
transaction of the store.
-/

namespace GptTrader

namespace OrdersDatabase

def requireObservedTime (now : DateTime) (moment : ℤ) :
    Except StoreError Unit :=
  if now.instant < moment then
    .error (.integrity
      "Future accounting evidence cannot describe current inventory")
  else .ok ()

/-- The fill of a row, not later than now. -/
def readFact (now : DateTime) (row : FillFactRow) :
    Except StoreError FillFact := do
  let fact ← row.content
  requireObservedTime now fact.executedAt
  if fact.orderId = row.orderId ∧ fact.fillId = row.fillId then .ok fact
  else .error (.integrity "Fill index conflicts with payload")

/-- The fills of an order. -/
def facts (database : OrdersDatabase) (now : DateTime) (orderId : String) :
    Except StoreError (List FillFact) :=
  (database.fillFacts.filter fun row => decide (row.orderId = orderId)).mapM
    (readFact now)

def allFacts (database : OrdersDatabase) (now : DateTime) :
    Except StoreError (List FillFact) :=
  database.fillFacts.mapM (readFact now)

/-- The order a fill belongs to. -/
def fillOrder (context : OrdersContext) (database : OrdersDatabase)
    (fact : FillFact) : Except StoreError (Option OrderRecord) :=
  match database.getOrder fact.orderId with
  | some existing => .ok (some existing)
  | none =>
      if fact.clientOrderId = "" then .ok none
      else database.getOrderByClientOrderId context fact.clientOrderId

/-- The fill fits the order. -/
def fillMatches (context : OrdersContext) (fact : FillFact)
    (existing : OrderRecord) : Except StoreError Unit :=
  if existing.orderId ≠ fact.orderId ∧
      (existing.orderId ≠ existing.clientOrderId ∨
        existing.status ≠ .pending) then
    .error (.integrity "Fill conflicts with acknowledged venue order ID")
  else if existing.checksumIsValid context = false then
    .error (.integrity "Order checksum mismatch during fill admission")
  else if existing.symbol ≠ fact.symbol ∨
      context.formats.lower existing.side ≠ fact.side ∨
      (fact.clientOrderId ≠ "" ∧
        fact.clientOrderId ≠ existing.clientOrderId) then
    .error (.integrity "Fill conflicts with order identity")
  else .ok ()

def baselineAllows (database : OrdersDatabase) (fact : FillFact) :
    Except StoreError Unit :=
  match database.baselines.find? fun row => decide (row.symbol = fact.symbol) with
  | none => .ok ()
  | some row => do
      let { baseline, .. } ← row.content
      if fact.orderId ∈ baseline.coveredOrderIds ∧
          baseline.effectiveAt < fact.executedAt then
        .error (.integrity
          "Fill execution conflicts with explicit baseline coverage")
      else .ok ()

/-- The fills stay within the ordered quantity. -/
def fillsWithinIntent (existing : OrderRecord) (quantity : ℚ) :
    Except StoreError Unit :=
  if existing.intent?.any Json.truthy then do
    if ← (existing.quantity.lt (.finite quantity)).mapError .python then
      .error (.integrity "Identified fills exceed admitted order")
    else .ok ()
  else .ok ()

/-- A fill that is not stored yet. -/
def insertFact (database : OrdersDatabase) (fact : FillFact) :
    Except StoreError OrdersDatabase :=
  if database.fillFacts.any fun row =>
      decide (row.orderId = fact.orderId ∧ row.fillId = fact.fillId) then
    .error (.sqlite "UNIQUE constraint failed: fill_facts")
  else
    .ok
      { database with
        fillFacts := database.fillFacts ++
          [{ orderId := fact.orderId
             fillId := fact.fillId
             content := .ok fact }] }

/-- `_observations`: every stored observation is checked. -/
def observationsValid (database : OrdersDatabase) : Except StoreError Unit :=
  database.observations.forM fun row =>
    match row.content with
    | none => .error (.integrity "Accounting row checksum/shape mismatch")
    | some value =>
        if value.orderId ≠ row.orderId ∨ row.key ≠ row.checksum then
          .error (.integrity "Observation index conflicts with payload")
        else if (positiveValue value.quantity).isNone ∨
            value.notional.any fun notional => (positiveValue notional).isNone then
          .error (.integrity "Invalid accounting decimal")
        else if value.observedAt.aware = false then
          .error (.integrity "Invalid accounting timestamp")
        else .ok ()

/-- `INSERT OR IGNORE` of an observation under its digest. -/
def insertObservation (database : OrdersDatabase) (digest : String)
    (observation : FillObservation) : OrdersDatabase :=
  if database.observations.any fun row =>
      decide (row.orderId = observation.orderId ∧ row.key = digest) then
    database
  else
    { database with
      observations := database.observations ++
        [{ orderId := observation.orderId
           key := digest
           content := some observation
           checksum := digest }] }

/-- `decimal_text(value)`, which compares the value with zero. -/
def decimalText (value : Decimal) : Except StoreError Decimal :=
  if value = .nan true then .error (.python .invalidOperation) else .ok value

def receiptBinding (order : OrderRecord) :
    Except StoreError ReceiptBinding := do
  let quantity ← decimalText order.quantity
  let filledQuantity ← decimalText order.filledQuantity
  let averageFillPrice ← order.averageFillPrice.mapM decimalText
  .ok
    { orderId := order.orderId
      clientOrderId := order.clientOrderId
      symbol := order.symbol
      side := order.side
      quantity := quantity
      filledQuantity := filledQuantity
      averageFillPrice := averageFillPrice
      status := order.status
      intent := order.intent?.getD .null }

/-- A receipt the baseline covers. -/
def coveredReceipt (context : OrdersContext) (database : OrdersDatabase)
    (symbol orderId : String) : Except StoreError (String × ReceiptBinding) :=
  match database.getOrder orderId with
  | none =>
      .error (.integrity
        "Baseline can cover only a matching complete order receipt")
  | some order =>
      if order.symbol ≠ symbol ∨ order.status.venueTerminal = false ∨
          order.checksumIsValid context = false then
        .error (.integrity
          "Baseline can cover only a matching complete order receipt")
      else do
        let binding ← receiptBinding order
        .ok (orderId, binding)

def storedBaseline (database : OrdersDatabase) (symbol : String) :
    Except StoreError (Option BaselinePayload) :=
  match database.baselines.find? fun row => decide (row.symbol = symbol) with
  | none => .ok none
  | some row => row.content.map some

def insertBaseline (database : OrdersDatabase) (payload : BaselinePayload) :
    Except StoreError OrdersDatabase :=
  if database.baselines.any fun row =>
      decide (row.symbol = payload.baseline.symbol) then
    .error (.sqlite "UNIQUE constraint failed: accounting_baselines")
  else
    .ok
      { database with
        baselines := database.baselines ++
          [{ symbol := payload.baseline.symbol
             content := .ok payload }] }

end OrdersDatabase

namespace OrdersStore

variable (context : OrdersContext)

/-- The quantities of the fills, summed exactly. -/
def totalQuantity (facts : List FillFact) : ℚ :=
  (facts.map FillFact.quantity).sum

/-- Quantities times prices, summed exactly. -/
def totalNotional (facts : List FillFact) : ℚ :=
  (facts.map fun fact => fact.quantity * fact.price).sum

def withFills (existing : OrderRecord) (fact : FillFact)
    (quantity notional : ℚ) (complete : Bool) (now : DateTime) : OrderRecord :=
  { existing with
    orderId := fact.orderId
    filledQuantity := .finite quantity
    averageFillPrice := some (.finite (notional / quantity))
    status := if complete then .filled else .partiallyFilled
    updatedAt := now }

def applyFills (existing : OrderRecord) (fact : FillFact)
    (quantity notional : ℚ) (now : DateTime) : StoreTx Unit := do
  let advanced ← lift
    ((existing.filledQuantity.lt (.finite quantity)).mapError .python)
  if advanced then
    Tx.require (existing.status.venueTerminal = false)
      (.integrity "Identified fills exceed terminal receipt")
    let complete ← lift
      ((Decimal.eq (.finite quantity) existing.quantity).mapError .python)
    let _ ← upsertByClientId context
      (withFills existing fact quantity notional complete now) true
    pure ()
  else pure ()

def recordFillBody (fact : FillFact) (now : DateTime) : StoreTx Bool := do
  let existing ← select fun database => database.fillOrder context fact
  lift (existing.toList.forM (OrdersDatabase.fillMatches context fact))
  let facts ← select fun database => database.facts now fact.orderId
  match facts.find? fun item =>
      decide (item.orderId = fact.orderId ∧ item.fillId = fact.fillId) with
  | some duplicate =>
      Tx.require (duplicate = fact)
        (.integrity "Fill ID reused with different payload")
      pure false
  | none =>
      select fun database => database.baselineAllows fact
      let sameOrder := facts.filter fun item =>
        decide (item.orderId = fact.orderId)
      Tx.require
        (∀ item ∈ sameOrder, item.symbol = fact.symbol ∧ item.side = fact.side)
        (.integrity "Order fill facts conflict")
      let quantity := totalQuantity (sameOrder ++ [fact])
      let notional := totalNotional (sameOrder ++ [fact])
      lift (existing.toList.forM fun existing =>
        OrdersDatabase.fillsWithinIntent existing quantity)
      write fun database => database.insertFact fact
      match existing with
      | none => pure true
      | some existing =>
          applyFills context existing fact quantity notional now
          pure true

/-- A fill recorded once, with its order. -/
def recordFill (fact : FillFact) (now : DateTime) : StoreTx Bool := do
  lift (OrdersDatabase.requireObservedTime now fact.executedAt)
  transaction true (recordFillBody context fact now)

/-- What an order record reports as filled, if anything. -/
def observationOf (order : OrderRecord) (source : String) :
    Except StoreError (Option FillObservation) :=
  match decimalValue order.filledQuantity with
  | none => .error (.integrity "Invalid accounting decimal")
  | some quantity =>
      if quantity ≤ 0 then .ok none
      else
        let observation := fun price : Option ℚ =>
          { orderId := order.orderId
            clientOrderId := order.clientOrderId
            symbol := order.symbol
            side := context.formats.lower order.side
            quantity := .finite quantity
            notional := price.map fun price => .finite (quantity * price)
            averagePrice := price.map fun price => .finite price
            observedAt := order.updatedAt
            source := source }
        match order.averageFillPrice with
        | none => .ok (some (observation none))
        | some reported =>
            match positiveValue reported with
            | some price => .ok (some (observation (some price)))
            | none => .error (.integrity "Invalid accounting decimal")

/-- What a receipt reports, once. -/
def recordObservation (order : OrderRecord) (source : String) :
    StoreTx Unit := do
  let observation ← lift (observationOf context order source)
  match observation with
  | none => pure ()
  | some observation =>
      transaction true do
        write fun database =>
          .ok (database.insertObservation
            (context.observationDigest observation) observation)
        select fun database => database.observationsValid

def recordBaselineBody (baseline : PositionBaseline) (now : DateTime) :
    StoreTx Unit := do
  let bindings ← select fun database => baseline.coveredOrderIds.mapM
    (database.coveredReceipt context baseline.symbol)
  let payload : BaselinePayload :=
    { baseline := baseline
      coveredReceipts := bindings }
  match ← select fun database => database.storedBaseline baseline.symbol with
  | some stored =>
      Tx.require (stored = payload)
        (.integrity "Opening baseline is immutable")
  | none =>
      let facts ← select fun database => database.allFacts now
      Tx.require
        (∀ fact ∈ facts, fact.orderId ∈ baseline.coveredOrderIds →
          fact.executedAt ≤ baseline.effectiveAt)
        (.integrity "Baseline conflicts with identified later execution")
      write fun database => database.insertBaseline payload

/-- A baseline, stored once. -/
def recordBaseline (baseline : PositionBaseline) (now : DateTime) :
    StoreTx Unit := do
  lift (OrdersDatabase.requireObservedTime now baseline.effectiveAt)
  transaction true (recordBaselineBody context baseline now)

end OrdersStore

end GptTrader
