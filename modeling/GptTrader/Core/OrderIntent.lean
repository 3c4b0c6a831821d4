import GptTrader.Python.Values

/-!
# Admitted order intents

The immutable order contract shared by the paper and the direct broker paths
(`core/order_intent.py`), with the trading enumerations it uses.  Constructing
an intent checks it, so the checks are fields of the structures.
-/

namespace GptTrader

inductive OrderSide where
  | buy
  | sell
  deriving DecidableEq, Repr

/-- The kinds of orders. -/
inductive OrderType where
  | market
  | limit
  | stop
  | stopLimit
  deriving DecidableEq, Repr

/-- The lifecycle of an order as a broker reports it. -/
inductive BrokerOrderStatus where
  | pending
  | submitted
  | partiallyFilled
  | filled
  | cancelled
  | rejected
  | expired
  | failed
  deriving DecidableEq, Repr

def OrderSide.value : OrderSide → String
  | .buy => "BUY"
  | .sell => "SELL"

def OrderType.value : OrderType → String
  | .market => "MARKET"
  | .limit => "LIMIT"
  | .stop => "STOP"
  | .stopLimit => "STOP_LIMIT"

def BrokerOrderStatus.value : BrokerOrderStatus → String
  | .pending => "PENDING"
  | .submitted => "SUBMITTED"
  | .partiallyFilled => "PARTIALLY_FILLED"
  | .filled => "FILLED"
  | .cancelled => "CANCELLED"
  | .rejected => "REJECTED"
  | .expired => "EXPIRED"
  | .failed => "FAILED"

/-- `OrderSide(value)`. -/
def OrderSide.parse (text : String) : Except PyError OrderSide :=
  if text = "BUY" then .ok .buy
  else if text = "SELL" then .ok .sell
  else .error .valueError

/-- `OrderType(value)`. -/
def OrderType.parse (text : String) : Except PyError OrderType :=
  if text = "MARKET" then .ok .market
  else if text = "LIMIT" then .ok .limit
  else if text = "STOP" then .ok .stop
  else if text = "STOP_LIMIT" then .ok .stopLimit
  else .error .valueError

/-- Why a trade resolved (`CloseoutResolution`). -/
inductive CloseoutResolution where
  | thesisTarget
  | invalidation
  | expiry
  deriving DecidableEq, Repr

/-- The two closing resolutions. -/
def CloseoutResolution.parse (text : String) :
    Except PyError CloseoutResolution :=
  if text = "thesis_target" then .ok .thesisTarget
  else if text = "invalidation" then .ok .invalidation
  else if text = "expiry" then .ok .expiry
  else .error .valueError

/-- What an operation does to its position. -/
inductive ReductionAction where
  | reduce
  | close
  deriving DecidableEq, Repr

def ReductionAction.parse (text : String) : Except PyError ReductionAction :=
  if text = "reduce" then .ok .reduce
  else if text = "close" then .ok .close
  else .error .valueError

def isAsciiAlphanumeric (char : Char) : Bool :=
  ('A' ≤ char && char ≤ 'Z') || ('a' ≤ char && char ≤ 'z') ||
    ('0' ≤ char && char ≤ '9')

/-- Full match of `[A-Za-z0-9][A-Za-z0-9._-]*`. -/
def isSafeDecisionId (text : String) : Bool :=
  match text.toList with
  | [] => false
  | first :: rest =>
      isAsciiAlphanumeric first &&
        rest.all fun char =>
          isAsciiAlphanumeric char || char == '.' || char == '_' || char == '-'

/-- Full match of `[0-9a-f]{64}`. -/
def isRecordHash (text : String) : Bool :=
  decide (text.toList.length = 64) &&
    text.toList.all fun char =>
      ('0' ≤ char && char ≤ '9') || ('a' ≤ char && char ≤ 'f')

/-- Explicit reduction of one immutable entry, never an opening short. -/
@[ext]
structure PositionOperation where
  action : ReductionAction
  targetDecisionId : String
  targetRecordHash : String
  resolution : CloseoutResolution
  safeTarget : isSafeDecisionId targetDecisionId = true
  hashTarget : isRecordHash targetRecordHash = true

instance : DecidableEq PositionOperation :=
  fun _ _ => decidable_of_iff' _ PositionOperation.ext_iff

def ReductionAction.value : ReductionAction → String
  | .reduce => "reduce"
  | .close => "close"

def CloseoutResolution.value : CloseoutResolution → String
  | .thesisTarget => "thesis_target"
  | .invalidation => "invalidation"
  | .expiry => "expiry"

namespace PositionOperation

def toDict (operation : PositionOperation) : Json :=
  .obj
    [("action", .str operation.action.value),
      ("target_decision_id", .str operation.targetDecisionId),
      ("target_record_hash", .str operation.targetRecordHash),
      ("resolution", .str operation.resolution.value)]

/-- The operation, with its fields checked. -/
def make (action target hash resolution : String) :
    Except PyError PositionOperation := do
  let resolution ← CloseoutResolution.parse resolution
  let action ← ReductionAction.parse action
  if safeTarget : isSafeDecisionId target = true then
    if hashTarget : isRecordHash hash = true then
      .ok
        { action := action
          targetDecisionId := target
          targetRecordHash := hash
          resolution := resolution
          safeTarget := safeTarget
          hashTarget := hashTarget }
    else .error .valueError
  else .error .valueError

def hashableText : Json → Except PyError String
  | .str text => .ok text
  | .arr _ => .error .typeError
  | .obj _ => .error .typeError
  | _ => .error .valueError

def patternText : Json → Except PyError String
  | .str text => .ok text
  | _ => .error .typeError

/-- `cls(**payload)`: unexpected and missing keywords are `TypeError`s. -/
def fromDict (payload : Json) : Except PyError PositionOperation :=
  match payload with
  | .obj fields =>
      if fields.all fun entry =>
          entry.1 ∈ ["action", "target_decision_id", "target_record_hash",
            "resolution"] then
        match payload.field? "action", payload.field? "target_decision_id",
            payload.field? "target_record_hash" with
        | some action, some target, some hash => do
            let resolution ← hashableText
              ((payload.field? "resolution").getD (.str "thesis_target"))
            let _ ← CloseoutResolution.parse resolution
            let action ← hashableText action
            let _ ← ReductionAction.parse action
            let target ← patternText target
            if isSafeDecisionId target then
              let hash ← patternText hash
              make action target hash resolution
            else .error .valueError
        | _, _, _ => .error .typeError
      else .error .typeError
  | _ => .error .typeError

end PositionOperation

/-- An admitted order.  A position-targeted order is always reduce-only. -/
@[ext]
structure OrderIntent where
  clientOrderId : String
  symbol : String
  side : OrderSide
  orderType : OrderType
  quantity : ℚ
  price : Option ℚ
  stopPrice : Option ℚ
  tif : Json
  reduceOnly : Bool
  leverage : Json
  positionOperation : Option PositionOperation
  identified : isBlank clientOrderId = false ∧ isBlank symbol = false
  positive : 0 < quantity
  reducing : positionOperation.isSome → reduceOnly = true
  pricesPositive : (∀ value ∈ price, 0 < value) ∧
    ∀ value ∈ stopPrice, 0 < value

instance : DecidableEq OrderIntent :=
  fun _ _ => decidable_of_iff' _ OrderIntent.ext_iff

/-- What a receipt check reads off an order: fields the adapter omits are
absent. -/
structure ObservedOrder where
  clientId : Option String
  symbol : Option String
  side : Option String
  orderType : Option String
  quantity : Option Decimal
  reduceOnly : Option Bool
  status : Option String
  filledQuantity : Option Decimal
  fillPrice : Option Decimal

/-- Why an observed order is not a receipt of an intent.  Both are
`ValueError`s; comparing a signaling NaN is not. -/
inductive ReceiptError where
  | conflict (field : String)
  | malformedFill
  | python (error : PyError)
  deriving DecidableEq

/-- The text of a refused receipt. -/
def ReceiptError.message : ReceiptError → String
  | .conflict field => "Broker receipt " ++ field ++ " conflicts with intent"
  | .malformedFill => "Broker receipt contains malformed fill values"
  | .python _ => ""

namespace OrderIntent

theorem unpriced : (∀ value ∈ (none : Option ℚ), 0 < value) ∧
    ∀ value ∈ (none : Option ℚ), 0 < value := by
  simp

theorem unreduced : (none : Option PositionOperation).isSome = true →
    false = true := by
  simp

/-- A finite decimal above zero. -/
def positiveDecimal (value : Decimal) : Except PyError { q : ℚ // 0 < q } :=
  match value with
  | .finite q => if h : 0 < q then .ok ⟨q, h⟩ else .error .valueError
  | _ => .error .valueError

def positivePrice (value : Option Decimal) :
    Except PyError { price : Option ℚ // ∀ q ∈ price, 0 < q } :=
  match value with
  | none => .ok ⟨none, by simp⟩
  | some value => do
      let ⟨q, positive⟩ ← positiveDecimal value
      .ok ⟨some q, by simpa using positive⟩

/-- The checks of `__post_init__`, in order. -/
def make (clientOrderId symbol : String) (side : OrderSide)
    (orderType : OrderType) (quantity : Decimal)
    (price stopPrice : Option Decimal) (tif : Json) (reduceOnly : Bool)
    (leverage : Json) (positionOperation : Option PositionOperation) :
    Except PyError OrderIntent := do
  if identified : isBlank clientOrderId = false ∧ isBlank symbol = false then
    let ⟨quantity, positive⟩ ← positiveDecimal quantity
    if reducing : positionOperation.isSome → reduceOnly = true then
      let ⟨price, pricePositive⟩ ← positivePrice price
      let ⟨stopPrice, stopPositive⟩ ← positivePrice stopPrice
      .ok
        { clientOrderId := clientOrderId
          symbol := symbol
          side := side
          orderType := orderType
          quantity := quantity
          price := price
          stopPrice := stopPrice
          tif := tif
          reduceOnly := reduceOnly
          leverage := leverage
          positionOperation := positionOperation
          identified := identified
          positive := positive
          reducing := reducing
          pricesPositive := ⟨pricePositive, stopPositive⟩ }
    else .error .valueError
  else .error .valueError

variable (formats : TextFormats)

/-- `value.upper()` needs a string. -/
def upperText (value : Json) : Except PyError String :=
  match value with
  | .str text => .ok (formats.upper text)
  | _ => .error .attributeError

/-- `value.strip()` needs a string. -/
def stripText (value : Json) : Except PyError String :=
  match value with
  | .str text => .ok text
  | _ => .error .attributeError

def optionalDecimal (value : Json) : Except PyError (Option Decimal) :=
  match value with
  | .null => .ok none
  | value => (formats.toDecimal value).map some

/-- Decode a stored intent; the checks run after every field decoded. -/
def fromDict (payload : Json) : Except PyError OrderIntent := do
  let clientOrderId ← payload.getItem "client_order_id"
  let symbol ← payload.getItem "symbol"
  let side ← OrderSide.parse (← upperText formats (← payload.getItem "side"))
  let orderType ←
    OrderType.parse (← upperText formats (← payload.getItem "order_type"))
  let quantity ← formats.toDecimal (← payload.getItem "quantity")
  let price ← optionalDecimal formats (← payload.getD "price" .null)
  let stopPrice ← optionalDecimal formats (← payload.getD "stop_price" .null)
  let tif ← payload.getD "tif" .null
  let reduceOnly ← payload.getD "reduce_only" (.bool false)
  let leverage ← payload.getD "leverage" .null
  let positionOperation ←
    match payload.field? "position_operation" with
    | some operation => (PositionOperation.fromDict operation).map some
    | none => .ok none
  let clientOrderId ← stripText clientOrderId
  if isBlank clientOrderId then .error .valueError
  else
    let symbol ← stripText symbol
    if isBlank symbol then .error .valueError
    else
      let _ ← positiveDecimal quantity
      match reduceOnly with
      | .bool reduceOnly =>
          make clientOrderId symbol side orderType quantity price stopPrice tif
            reduceOnly leverage positionOperation
      | _ => .error .valueError

def toDict (intent : OrderIntent) : Json :=
  let decimal := fun value : ℚ => Json.str (formats.showDecimal (.finite value))
  let optional := fun value : Option ℚ => (value.map decimal).getD .null
  let operation := intent.positionOperation.toList.map fun operation =>
    ("position_operation", operation.toDict)
  .obj
    ([("client_order_id", .str intent.clientOrderId),
      ("symbol", .str intent.symbol),
      ("side", .str (formats.lower intent.side.value)),
      ("order_type", .str (formats.lower intent.orderType.value)),
      ("quantity", decimal intent.quantity),
      ("price", optional intent.price),
      ("stop_price", optional intent.stopPrice),
      ("tif", intent.tif),
      ("reduce_only", .bool intent.reduceOnly),
      ("leverage", intent.leverage)] ++ operation)

/-- A receipt field must match the intent. -/
def agrees (field : String) (agreement : Bool) : Except ReceiptError Unit :=
  if agreement then .ok () else .error (.conflict field)

def quantityAgrees (intent : OrderIntent) :
    Option Decimal → Except ReceiptError Unit
  | none => .ok ()
  | some observed =>
      match observed.eq (.finite intent.quantity) with
      | .ok agreement => agrees "quantity" agreement
      | .error error => .error (.python error)

/-- The filled quantity is finite, within the order, and all of it when the
order reports itself filled. -/
def fillAgrees (intent : OrderIntent) (isFilled : Bool) :
    Option Decimal → Except ReceiptError Unit
  | none => .ok ()
  | some (.finite filled) =>
      if filled < 0 ∨ intent.quantity < filled ∨
          (isFilled = true ∧ filled ≠ intent.quantity) then
        .error .malformedFill
      else .ok ()
  | some _ => .error .malformedFill

def fillPriceAgrees : Option Decimal → Except ReceiptError Unit
  | none => .ok ()
  | some (.finite price) =>
      if price ≤ 0 then .error .malformedFill else .ok ()
  | some _ => .error .malformedFill

/-- `validate_receipt`: explicit observed fields only. -/
def validateReceipt (intent : OrderIntent) (order : ObservedOrder) :
    Except ReceiptError Unit := do
  agrees "client_id"
    (order.clientId.all fun observed =>
      decide (observed = "" ∨ observed = intent.clientOrderId))
  agrees "symbol" (order.symbol.all fun observed =>
    decide (observed = intent.symbol))
  agrees "side" (order.side.all fun observed =>
    decide (formats.upper observed = intent.side.value))
  agrees "type" (order.orderType.all fun observed =>
    decide (formats.upper observed = intent.orderType.value))
  quantityAgrees intent order.quantity
  agrees "reduce_only" (order.reduceOnly.all fun observed =>
    decide (observed = intent.reduceOnly))
  fillAgrees intent
    (order.status.any fun status => decide (formats.upper status = "FILLED"))
    order.filledQuantity
  fillPriceAgrees order.fillPrice

end OrderIntent

end GptTrader
