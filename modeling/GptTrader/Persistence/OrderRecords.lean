import GptTrader.Library.Dict
import GptTrader.Core.FillAccounting
import GptTrader.Core.OrderIntent

/-!
# Persistent order records

The data contract of the orders database (`persistence/orders_models.py`) and
the checks an update of a stored record has to pass
(`OrdersStore._preserve_intent`).

Quantities and prices are exact decimals.  JSON metadata is a dictionary, so
merging two of them keeps every key once.
-/

namespace GptTrader

/-- Order lifecycle states of the orders database. -/
inductive OrderStatus where
  | pending
  | open
  | partiallyFilled
  | filled
  | cancelled
  | rejected
  | expired
  | failed
  deriving DecidableEq, Repr

namespace OrderStatus

def value : OrderStatus → String
  | .pending => "pending"
  | .open => "open"
  | .partiallyFilled => "partially_filled"
  | .filled => "filled"
  | .cancelled => "cancelled"
  | .rejected => "rejected"
  | .expired => "expired"
  | .failed => "failed"

/-- Definitive venue outcomes; `failed` is an internal uncertainty. -/
def venueTerminal : OrderStatus → Bool
  | .filled => true
  | .cancelled => true
  | .expired => true
  | .rejected => true
  | _ => false

end OrderStatus

/-- The exceptions of the orders database.  `AccountingIntegrityError` is a
`ValueError`. -/
inductive StoreError where
  | write (message : String)
  | integrity (message : String)
  | value (message : String)
  | sqlite (message : String)
  | python (error : PyError)
  deriving DecidableEq

namespace StoreError

def ofReceipt : ReceiptError → StoreError
  | .python error => .python error
  | error => .value error.message

/-- `except (sqlite3.Error, WriteError, ValueError, ArithmeticError)`. -/
def expected : StoreError → Bool
  | .python .keyError => false
  | .python .typeError => false
  | .python .attributeError => false
  | .python .recursionError => false
  | _ => true

/-- `except (sqlite3.Error, WriteError)`. -/
def refused : StoreError → Bool
  | .write _ => true
  | .sqlite _ => true
  | _ => false

end StoreError

/-- A row of the orders table. -/
structure OrderRecord where
  orderId : String
  clientOrderId : String
  symbol : String
  side : String
  orderType : String
  quantity : Decimal
  price : Option Decimal
  status : OrderStatus
  filledQuantity : Decimal
  averageFillPrice : Option Decimal
  createdAt : DateTime
  updatedAt : DateTime
  botId : Option String
  timeInForce : String
  metadata : Option (Dict String Json)
  checksum : Option String

/-- What an order checksum covers. -/
inductive ChecksumPayload where
  | critical (orderId symbol side : String) (quantity : Decimal)
      (price : Option Decimal)
  | full (record : OrderRecord)

/-- What the orders database takes from outside: text conversions and the
SHA-256 of a payload's canonical JSON. -/
structure OrdersContext where
  formats : TextFormats
  digest : ChecksumPayload → String
  observationDigest : FillObservation → String

namespace OrderRecord

/-- `str(value) if value else None`. -/
def nonzero (value : Option Decimal) : Option Decimal :=
  value.filter fun value => !value.isZero

/-- `record.metadata or {}`. -/
def facts (record : OrderRecord) : Dict String Json :=
  record.metadata.getD Dict.empty

def intent? (record : OrderRecord) : Option Json :=
  record.facts.get? "intent"

def checksumVersion (record : OrderRecord) : Json :=
  (record.facts.get? "record_checksum_version").getD (.int 1)

/-- Version 2 binds identity, lifecycle, fills, metadata and timestamps;
historical rows keep their original checksum. -/
def computeChecksum (context : OrdersContext) (record : OrderRecord) :
    Except StoreError String :=
  if record.checksumVersion = .int 2 then
    .ok (context.digest
      (.full
        { record with
          price := nonzero record.price
          averageFillPrice := nonzero record.averageFillPrice
          checksum := none }))
  else if record.checksumVersion = .int 1 then
    .ok (context.digest
      (.critical record.orderId record.symbol record.side record.quantity
        (nonzero record.price)))
  else .error (.value "Unsupported order checksum version")

/-- The row is as it was written. -/
def checksumIsValid (context : OrdersContext) (record : OrderRecord) : Bool :=
  if record.checksumVersion = .int 1 ∨ record.checksumVersion = .int 2 then
    if record.intent?.isSome ∧ record.checksumVersion ≠ .int 2 then false
    else
      match record.checksum with
      | none => decide (record.checksumVersion = .int 1)
      | some stored =>
          if stored = "" then decide (record.checksumVersion = .int 1)
          else decide (record.computeChecksum context = .ok stored)
  else false

def stored (record : OrderRecord) (checksum : String) : OrderRecord :=
  { record with
    price := nonzero record.price
    averageFillPrice := nonzero record.averageFillPrice
    metadata := record.metadata.filter fun metadata => !metadata.entries.isEmpty
    checksum := some checksum }

/-- `_row_to_record`. -/
def ofRow (row : OrderRecord) : OrderRecord :=
  { row with
    timeInForce := if row.timeInForce = "" then "GTC" else row.timeInForce }

def observed (record : OrderRecord) : ObservedOrder :=
  { clientId := some record.clientOrderId
    symbol := some record.symbol
    side := some record.side
    orderType := some record.orderType
    quantity := some record.quantity
    reduceOnly := none
    status := some record.status.value
    filledQuantity := some record.filledQuantity
    fillPrice := record.averageFillPrice }

end OrderRecord

section Updates

variable (context : OrdersContext)

def immutableKey (original metadata : Dict String Json) (key : String) :
    Except StoreError Unit :=
  match metadata.get? key with
  | none => .ok ()
  | some given =>
      if given.same ((original.get? key).getD .null) then .ok ()
      else .error (.write ("Order update conflicts with immutable " ++ key))

/-- Merge the metadata of an admitted order and check the receipt. -/
def keepIntent (existing order : OrderRecord) :
    Except StoreError OrderRecord :=
  match existing.facts.get? "intent" with
  | some payload => do
      immutableKey existing.facts order.facts "intent"
      immutableKey existing.facts order.facts "record_checksum_version"
      immutableKey existing.facts order.facts "reduce_only"
      immutableKey existing.facts order.facts "leverage"
      let order :=
        { order with
          metadata := some (existing.facts.merge order.facts)
          createdAt := existing.createdAt }
      let intent ←
        (OrderIntent.fromDict context.formats payload).mapError .python
      (intent.validateReceipt context.formats order.observed).mapError
        StoreError.ofReceipt
      .ok order
  | none =>
      if (order.facts.get? "record_checksum_version").any
          fun version => version.same (.int 2) then
        .ok { order with createdAt := existing.createdAt }
      else .ok order

def fillAdvances (existing order : OrderRecord) : Except StoreError Unit := do
  if !order.filledQuantity.isFinite then
    .error (.write "Order update has invalid fill quantity")
  else if ← (order.filledQuantity.lt (.finite 0)).mapError .python then
    .error (.write "Order update has invalid fill quantity")
  else if ← (order.filledQuantity.lt existing.filledQuantity).mapError
      .python then
    .error (.write "Order update decreases observed fill quantity")
  else .ok ()

/-- The receipt of a terminal order as `_preserve_intent` compares it. -/
def sameReceipt (existing order : OrderRecord) : Except PyError Bool :=
  if order.status = existing.status ∧ order.orderId = existing.orderId ∧
      order.clientOrderId = existing.clientOrderId ∧
      order.symbol = existing.symbol ∧
      context.formats.lower order.side = context.formats.lower existing.side then do
    if ← order.quantity.eq existing.quantity then
      if ← order.filledQuantity.eq existing.filledQuantity then
        match existing.averageFillPrice with
        | none => .ok true
        | some price =>
            match order.averageFillPrice with
            | none => .ok false
            | some reported => reported.eq price
      else .ok false
    else .ok false
  else .ok false

def preserveIntent (existing order : OrderRecord) :
    Except StoreError OrderRecord := do
  let order ← keepIntent context existing order
  fillAdvances existing order
  if existing.status.venueTerminal then
    if ← (sameReceipt context existing order).mapError .python then .ok order
    else .error (.write "Order update conflicts with terminal fill receipt")
  else .ok order

end Updates

end GptTrader
