import GptTrader.Library.Program
import GptTrader.Persistence.OrdersStore

/-!
# Submitting orders

`OrderSubmitter.submit_order_with_result` (`order_submission.py`) outside of the
integration mode, with a durable orders store, as a program between calls of the
store and of the broker.  The broker returns orders as `core/account.py` types
them.  Telemetry and event recording never raise for such orders and are left
out.  A submission reads the clock once.
-/

namespace GptTrader

inductive TimeInForce where
  | gtc
  | ioc
  | fok
  deriving DecidableEq, Repr

def TimeInForce.value : TimeInForce → String
  | .gtc => "GTC"
  | .ioc => "IOC"
  | .fok => "FOK"

/-- The order a broker returns (`core/account.py`), without its stop price. -/
structure BrokerOrder where
  id : String
  symbol : String
  side : OrderSide
  type : OrderType
  quantity : Decimal
  status : BrokerOrderStatus
  filledQuantity : Decimal
  price : Option Decimal
  tif : TimeInForce
  clientId : Option String
  avgFillPrice : Option Decimal
  submittedAt : Option DateTime
  updatedAt : Option DateTime
  createdAt : Option DateTime

/-- An exception of a broker call: whether its class is one that is worth
retrying, and its text. -/
structure BrokerError where
  retryable : Bool
  message : String
  deriving DecidableEq

/-- What the broker's call ends with. -/
inductive BrokerReply where
  | raised (error : BrokerError)
  | returned (order : Option BrokerOrder)

inductive SubmissionOutcomeStatus where
  | success
  | rejected
  | failed
  deriving DecidableEq, Repr

/-- `OrderSubmissionOutcome` (`submission_outcome.py`). -/
structure SubmissionOutcome where
  status : SubmissionOutcomeStatus
  orderId : Option String
  reason : Option String
  reasonDetail : Option String
  error : Option String
  deriving DecidableEq

/-- The exceptions of a submission; attempts never raise a Python one. -/
inductive SubmissionError where
  | persistence (message : String)
  | receiptConflict (message : String)
  | exception (error : BrokerError)
  | python (error : PyError)
  deriving DecidableEq

/-- What a submission does outside of itself. -/
inductive SubmissionOp where
  | lookup (clientOrderId : String)
  | reserve (record : OrderRecord)
  | persist (record : OrderRecord)
  | place (intent : OrderIntent)

/-- What each operation answers. -/
def SubmissionReply : SubmissionOp → Type
  | .lookup _ => Except StoreError (Option OrderRecord)
  | .reserve _ => Except StoreError (Option OrderRecord)
  | .persist _ => Except StoreError WriteResult
  | .place _ => BrokerReply

/-- A program of the submitter. -/
abbrev SubmissionTx : Type → Type :=
  Program SubmissionOp SubmissionReply SubmissionError

/-- The arguments of a submission that are read. -/
structure SubmissionRequest where
  symbol : String
  side : OrderSide
  orderType : OrderType
  quantity : Decimal
  price : Option Decimal
  stopPrice : Option Decimal
  tif : Option String
  reduceOnly : Bool
  leverage : Option ℤ
  clientOrderId : Option String

/-! ## Statuses and reasons -/

section Texts

/-- `part in text`. -/
def containsText (text part : String) : Bool :=
  text.toList.tails.any fun rest => part.toList.isPrefixOf rest

/-- `text.startswith(part)`. -/
def startsWithText (text part : String) : Bool :=
  part.toList.isPrefixOf text.toList

def containsAny (text : String) (parts : List String) : Bool :=
  parts.any (containsText text)

/-- `text.partition(":")[2]`. -/
def afterColon (text : String) : String :=
  .ofList ((text.toList.dropWhile (· ≠ ':')).drop 1)

/-- `text or None`. -/
def nonempty (text : String) : Option String :=
  if text = "" then none else some text

def stableRejectionCodes : List String :=
  ["broker_rejected", "broker_status", "exchange_rules", "guard_error",
    "guard_failure", "insufficient_funds", "invalid_request", "invalid_size",
    "invalid_price", "mark_staleness", "missing_decision_id", "order_preview",
    "order_validation", "paused", "pre_trade_validation", "quantity_zero",
    "rate_limit", "reduce_only", "security_validation", "slippage_guard",
    "timeout", "network", "market_closed", "unknown"]

/-- The code and the detail of a reason without a code of its own. -/
def classifyReason (raw lowered : String) : String × Option String :=
  if lowered ∈ ["reduce_only_not_reducing", "reduce_only_empty_position",
      "reduce_only_mode_blocked"] then ("reduce_only", some lowered)
  else if containsAny lowered ["reduce_only", "reduce-only"] then
    ("reduce_only", some raw)
  else if lowered = "security_validation_failed" then
    ("security_validation", none)
  else if containsText lowered "security validation failed" then
    ("security_validation", some raw)
  else if containsText lowered "mark" && containsText lowered "stale" then
    ("mark_staleness", some raw)
  else if containsText lowered "slippage" then ("slippage_guard", some raw)
  else if containsText lowered "preview" then ("order_preview", some raw)
  else if containsAny lowered ["size", "quantity", "amount", "notional"] &&
      containsAny lowered ["min", "max", "minimum", "maximum", "below", "above",
        "outside", "invalid", "too small", "too large", "less", "greater",
        "step", "increment"] then ("invalid_size", some raw)
  else if containsAny lowered ["price", "tick", "increment", "step"] &&
      containsAny lowered ["tick", "increment", "step", "invalid", "price",
        "below", "above", "outside"] then ("invalid_price", some raw)
  else if containsText lowered "rejected" then ("broker_rejected", some raw)
  else if containsAny lowered ["exchange", "rule", "min_", "minimum", "step",
      "tick", "increment"] then ("exchange_rules", some raw)
  else if containsAny lowered ["leverage", "exposure", "liquidation", "mmr",
      "risk"] then ("pre_trade_validation", some raw)
  else if containsAny lowered ["insufficient", "margin", "balance", "funds"] then
    ("insufficient_funds", some raw)
  else if containsAny lowered ["rate_limit", "rate limit", "429", "too many"] then
    ("rate_limit", some raw)
  else if containsAny lowered ["timeout", "timed out", "deadline"] then
    ("timeout", some raw)
  else if containsAny lowered ["network", "connection", "socket", "dns",
      "ssl"] then ("network", some raw)
  else if containsAny lowered ["market closed", "trading halt", "suspended"] then
    ("market_closed", some raw)
  else if containsAny lowered ["invalid", "spec"] then
    ("invalid_request", some raw)
  else ("unknown", some raw)

variable (formats : TextFormats)

/-- `normalize_rejection_reason` (`rejection_reason.py`). -/
def normalizeRejectionReason (reason : String) : String × Option String :=
  let raw := strip reason
  let lowered := formats.lower raw
  if raw = "" then ("unknown", none)
  else if lowered ∈ stableRejectionCodes then (lowered, none)
  else if startsWithText lowered "paused:" then
    ("paused", nonempty (afterColon raw))
  else if startsWithText lowered "guard_error:" then
    ("guard_error", nonempty (afterColon raw))
  else if startsWithText lowered "guard_failure:" then
    ("guard_failure", nonempty (afterColon raw))
  else if startsWithText lowered "broker_status_" then
    ("broker_status",
      nonempty (.ofList (raw.toList.drop "broker_status_".length)))
  else if containsText lowered "order rejected by broker" then
    let detail := strip (afterColon raw)
    if detail = "" then ("broker_rejected", none)
    else ("broker_status", some detail)
  else classifyReason raw lowered

/-- A retry may help. -/
def isTransientSubmissionError (error : BrokerError) (reason : String) : Bool :=
  error.retryable || decide (reason ∈ ["timeout", "network", "rate_limit"])

def unsupportedStatus (normalized : String) : BrokerError :=
  { retryable := false
    message := "Unsupported execution status '" ++ normalized ++
      "' (order_submission:_normalize_status)" }

/-- `execution_status_for_store` (`status_codec.py`). -/
def executionStatusForStore (status : String) :
    Except BrokerError OrderStatus :=
  let normalized := String.ofList
    ((formats.lower (strip status)).toList.map fun char =>
      if char = '-' then '_' else char)
  if normalized = "" then .ok .open
  else if normalized = "pending" then .ok .pending
  else if normalized ∈ ["submitted", "open", "new", "retry", "retrying"] then
    .ok .open
  else if normalized ∈ ["partially_filled", "partial_fill", "partial"] then
    .ok .partiallyFilled
  else if normalized = "filled" then .ok .filled
  else if normalized ∈ ["cancelled", "canceled"] then .ok .cancelled
  else if normalized = "rejected" then .ok .rejected
  else if normalized = "expired" then .ok .expired
  else if normalized = "failed" then .ok .failed
  else .error (unsupportedStatus normalized)

end Texts

/-! ## The submitter -/

/-- What a receipt is checked on. -/
def BrokerOrder.observed (order : BrokerOrder) : ObservedOrder :=
  { clientId := order.clientId
    symbol := some order.symbol
    side := some order.side.value
    orderType := some order.type.value
    quantity := some order.quantity
    reduceOnly := none
    status := some order.status.value
    filledQuantity := some order.filledQuantity
    fillPrice := order.avgFillPrice }

/-- The settings of the submitter. -/
structure OrderSubmitter where
  botId : String
  enableRetries : Bool
  storeInitialized : Bool

namespace SubmissionOutcome

/-- `_uncertain_outcome`. -/
def uncertain (error : String) : SubmissionOutcome :=
  { status := .failed
    orderId := none
    reason := some "submission_uncertain"
    reasonDetail := some error
    error := some error }

def success (orderId : String) : SubmissionOutcome :=
  { status := .success
    orderId := some orderId
    reason := none
    reasonDetail := none
    error := none }

def payloadConflict : SubmissionOutcome :=
  { status := .rejected
    orderId := none
    reason := some "validation"
    reasonDetail := some "client_order_id payload conflict"
    error := none }

def missingDecisionId : SubmissionOutcome :=
  { status := .rejected
    orderId := none
    reason := some "missing_decision_id"
    reasonDetail := some "client_order_id_required"
    error := none }

def brokerRejected : SubmissionOutcome :=
  { status := .rejected
    orderId := none
    reason := some "broker_rejected"
    reasonDetail := none
    error := none }

end SubmissionOutcome

namespace SubmissionRequest

/-- `_normalize_decision_id`. -/
def decisionId (request : SubmissionRequest) : Option String :=
  (request.clientOrderId.map strip).filter (· ≠ "")

def intent (request : SubmissionRequest) (submitId : String) :
    Except PyError OrderIntent :=
  OrderIntent.make submitId request.symbol request.side request.orderType
    request.quantity request.price request.stopPrice
    ((request.tif.map Json.str).getD .null) request.reduceOnly
    ((request.leverage.map Json.int).getD .null) none

end SubmissionRequest

namespace OrderSubmitter

variable (context : OrdersContext)

def normalizeTimestamp (now : DateTime) : Option DateTime → DateTime
  | none => now
  | some moment => if moment.aware then moment else { moment with offset := some 0 }

/-- `metadata["reduce_only"]` and `metadata["leverage"]`. -/
def submissionMetadata (request : SubmissionRequest)
    (metadata : Dict String Json) : Dict String Json :=
  let metadata := metadata.set "reduce_only" (.bool request.reduceOnly)
  match request.leverage with
  | none => metadata
  | some leverage => metadata.set "leverage" (.int leverage)

/-- The row of a request. -/
def requestRecord (submitter : OrderSubmitter) (request : SubmissionRequest)
    (now : DateTime) (submitId : String) (status : OrderStatus)
    (metadata : Dict String Json) : OrderRecord :=
  { orderId := submitId
    clientOrderId := submitId
    symbol := request.symbol
    side := context.formats.lower request.side.value
    orderType := context.formats.lower request.orderType.value
    quantity := request.quantity
    price := request.price
    status := status
    filledQuantity := .finite 0
    averageFillPrice := none
    createdAt := now
    updatedAt := now
    botId := some submitter.botId
    timeInForce := request.tif.getD "GTC"
    metadata := some metadata
    checksum := none }

/-- The record `_record_pending_submission` reserves. -/
def pendingRecord (submitter : OrderSubmitter) (request : SubmissionRequest)
    (now : DateTime) (submitId : String) (intent : OrderIntent) : OrderRecord :=
  submitter.requestRecord context request now submitId .pending
    (submissionMetadata request (.ofList
      [("intent", intent.toDict context.formats),
        ("record_checksum_version", .int 2)]))

/-- The record `_record_final_submission` writes. -/
def finalRecord (submitter : OrderSubmitter) (now : DateTime)
    (submitId : String) (order : BrokerOrder) (status : OrderStatus)
    (metadata : Dict String Json) : OrderRecord :=
  let createdAt := normalizeTimestamp now (order.createdAt.or order.submittedAt)
  { orderId := order.id
    clientOrderId :=
      ((order.clientId.filter (· ≠ "")).getD submitId)
    symbol := order.symbol
    side := context.formats.lower order.side.value
    orderType := context.formats.lower order.type.value
    quantity := order.quantity
    price := order.price
    status := status
    filledQuantity := order.filledQuantity
    averageFillPrice := order.avgFillPrice
    createdAt := createdAt
    updatedAt := normalizeTimestamp now (order.updatedAt.or (some createdAt))
    botId := some submitter.botId
    timeInForce := order.tif.value
    metadata := some metadata
    checksum := none }

def isOwnReceipt (record : OrderRecord) : Bool :=
  match record.intent? with
  | none => true
  | some payload =>
      match OrderIntent.fromDict context.formats payload with
      | .error _ => false
      | .ok intent =>
          match intent.validateReceipt context.formats record.observed with
          | .error _ => false
          | .ok _ => true

def getExistingRecord (submitter : OrderSubmitter) (submitId : String) :
    SubmissionTx (Option OrderRecord) :=
  if submitter.storeInitialized then do
    let reply : Except StoreError (Option OrderRecord) ←
      .request (SubmissionOp.lookup submitId)
    match reply with
    | .error _ => .raise (.persistence
        "Orders store lookup unavailable; never resend")
    | .ok record =>
        if record.all (isOwnReceipt context) then pure record
        else .raise (.persistence
          "Orders store lookup unavailable; never resend")
  else .raise (.persistence "Orders store initialization failed")

def recordPendingSubmission (submitter : OrderSubmitter)
    (request : SubmissionRequest) (now : DateTime) (submitId : String)
    (intent : OrderIntent) : SubmissionTx (Option OrderRecord) := do
  let reply : Except StoreError (Option OrderRecord) ← .request (SubmissionOp.reserve
    (submitter.pendingRecord context request now submitId intent))
  match reply with
  | .error _ => .raise (.persistence
      "Cannot reserve durable order identity; no submission")
  | .ok existing => pure existing

def persistOrder (record : OrderRecord) : SubmissionTx Unit := do
  let reply : Except StoreError WriteResult ← .request (SubmissionOp.persist record)
  match reply with
  | .ok .ok => pure ()
  | _ => .raise (.persistence
      "Orders store write unavailable; outcome uncertain")

/-- `dict(previous.metadata or {}) if previous else {}`. -/
def previousMetadata (previous : Option OrderRecord) : Dict String Json :=
  (previous.map OrderRecord.facts).getD .empty

def recordFinalSubmission (submitter : OrderSubmitter)
    (request : SubmissionRequest) (now : DateTime) (submitId : String)
    (order : BrokerOrder) (status : OrderStatus) : SubmissionTx Unit := do
  let previous ← submitter.getExistingRecord context submitId
  persistOrder (submitter.finalRecord context now submitId order status
    (submissionMetadata request (previousMetadata previous)))

/-- The row of a failed attempt. -/
def recordFailedSubmission (submitter : OrderSubmitter)
    (request : SubmissionRequest) (now : DateTime) (submitId : String)
    (status : OrderStatus) : SubmissionTx Unit := do
  let previous ← submitter.getExistingRecord context submitId
  persistOrder (submitter.requestRecord context request now submitId status
    (submissionMetadata request (previousMetadata previous)))

def sameIntent (stored intent : OrderIntent) : Bool :=
  decide (stored.clientOrderId = intent.clientOrderId) &&
    decide (stored.symbol = intent.symbol) &&
    decide (stored.side = intent.side) &&
    decide (stored.orderType = intent.orderType) &&
    decide (stored.quantity = intent.quantity) &&
    decide (stored.price = intent.price) &&
    decide (stored.stopPrice = intent.stopPrice) &&
    stored.tif.same intent.tif &&
    decide (stored.reduceOnly = intent.reduceOnly) &&
    stored.leverage.same intent.leverage &&
    decide (stored.positionOperation = intent.positionOperation)

def sameNames (record : OrderRecord) (intent : OrderIntent) : Bool :=
  decide (record.clientOrderId = intent.clientOrderId) &&
    decide (record.symbol = intent.symbol) &&
    decide (context.formats.lower record.side =
      context.formats.lower intent.side.value) &&
    decide (context.formats.lower record.orderType =
      context.formats.lower intent.orderType.value)

/-- The stored intent is the same. -/
def matchesStored (record : OrderRecord) (payload : Json)
    (intent : OrderIntent) : Except PyError Bool := do
  let stored ← OrderIntent.fromDict context.formats payload
  if sameIntent stored intent && sameNames context record stored then
    record.quantity.eq (.finite stored.quantity)
  else .ok false

def samePrice : Option Decimal → Option ℚ → Except PyError Bool
  | none, none => .ok true
  | some recorded, some asked => recorded.eq (.finite asked)
  | _, _ => .ok false

def matchesLegacy (record : OrderRecord) (intent : OrderIntent) :
    Except PyError Bool := do
  if !sameNames context record intent then .ok false
  else if !(← record.quantity.eq (.finite intent.quantity)) then .ok false
  else if !(← samePrice record.price intent.price) then .ok false
  else
    .ok ((if intent.tif.truthy then (Json.str record.timeInForce).same intent.tif
        else decide (record.timeInForce = "GTC")) &&
      ((record.facts.get? "reduce_only").getD (.bool false)).same
        (.bool intent.reduceOnly) &&
      ((record.facts.get? "leverage").getD .null).same intent.leverage &&
      intent.stopPrice.isNone)

/-- `except (KeyError, TypeError, ValueError, ArithmeticError)`. -/
def mismatchError : PyError → Bool
  | .attributeError => false
  | .recursionError => false
  | _ => true

def intentMatches (record : OrderRecord) (intent : OrderIntent) :
    Except PyError Bool :=
  match record.intent? with
  | some payload =>
      match matchesStored context record payload intent with
      | .ok same => .ok same
      | .error error => if mismatchError error then .ok false else .error error
  | none => matchesLegacy context record intent

def handleExistingSubmissionOutcome (record : OrderRecord) (submitId : String) :
    SubmissionOutcome :=
  let orderId := if record.orderId = "" then submitId else record.orderId
  match record.status with
  | .pending => .uncertain
      "pending intent has no broker acknowledgment; never resend"
  | .open => .success orderId
  | .partiallyFilled => .success orderId
  | .filled => .success orderId
  | status =>
      let (reason, detail) := normalizeRejectionReason context.formats
        ("broker_status_" ++ status.value)
      { status := .rejected
        orderId := some orderId
        reason := some reason
        reasonDetail := detail
        error := none }

def validateReceipt (order : Option BrokerOrder) (intent : OrderIntent) :
    SubmissionTx Unit :=
  match order with
  | none => pure ()
  | some order =>
      match intent.validateReceipt context.formats order.observed with
      | .ok _ => pure ()
      | .error error => .raise (.receiptConflict error.message)

def processRejection (submitter : OrderSubmitter) (request : SubmissionRequest)
    (now : DateTime) (submitId : String) (order : BrokerOrder)
    (status : OrderStatus) : SubmissionTx (Option String) := do
  submitter.recordFinalSubmission context request now submitId order status
  .raise (.exception
    { retryable := false
      message := "Order rejected by broker: " ++ order.status.value })

/-- `_handle_order_result`: the identifier of an order that was accepted. -/
def handleOrderResult (submitter : OrderSubmitter) (request : SubmissionRequest)
    (now : DateTime) (submitId : String) (order : Option BrokerOrder) :
    SubmissionTx (Option String) :=
  match order.filter fun order => order.id ≠ "" with
  | none => do
      submitter.recordFailedSubmission context request now submitId .rejected
      pure none
  | some order => do
      let status ← Program.lift
        ((executionStatusForStore context.formats order.status.value).mapError
          .exception)
      if context.formats.upper order.status.value ∈
          ["REJECTED", "CANCELLED", "FAILED"] then
        submitter.processRejection context request now submitId order status
      else
        submitter.recordFinalSubmission context request now submitId order status
        pure (some order.id)

/-- The order sent to the broker. -/
def executeBrokerOrder (intent : OrderIntent) :
    SubmissionTx (Option BrokerOrder) := do
  let reply : BrokerReply ← .request (SubmissionOp.place intent)
  match reply with
  | .raised error => .raise (.exception error)
  | .returned order => pure order

/-- One attempt to send the order. -/
def attempt (submitter : OrderSubmitter) (request : SubmissionRequest)
    (now : DateTime) (submitId : String) (intent : OrderIntent) :
    SubmissionTx SubmissionOutcome := do
  let order ← executeBrokerOrder intent
  validateReceipt context order intent
  let result ← submitter.handleOrderResult context request now submitId order
  match result with
  | some orderId => pure (.success orderId)
  | none => pure .brokerRejected

/-- A failure that no retry mends. -/
def failSubmission (submitter : OrderSubmitter) (request : SubmissionRequest)
    (now : DateTime) (submitId : String) (error : BrokerError) :
    SubmissionTx SubmissionOutcome :=
  let (reason, detail) := normalizeRejectionReason context.formats error.message
  Program.handle
    (do
      submitter.recordFailedSubmission context request now submitId .failed
      pure
        { status :=
            if reason ∈ ["broker_rejected", "broker_status"] then .rejected
            else .failed
          orderId := none
          reason := some reason
          reasonDetail := detail
          error := some error.message })
    fun
      | .persistence message => pure (.uncertain message)
      | other => .raise other

def attempts (submitter : OrderSubmitter) (request : SubmissionRequest)
    (now : DateTime) (submitId : String) (intent : OrderIntent) :
    ℕ → SubmissionTx SubmissionOutcome
  | 0 => .raise (.exception
      { retryable := false
        message := "Order submission exited retry loop without producing " ++
          "an outcome" })
  | left + 1 =>
      Program.handle (submitter.attempt context request now submitId intent)
        fun
          | .persistence message => pure (.uncertain message)
          | .receiptConflict message => pure (.uncertain message)
          | .python error => .raise (.python error)
          | .exception error =>
              if 0 < left ∧ isTransientSubmissionError error
                  (normalizeRejectionReason context.formats
                    error.message).1 = true then
                attempts submitter request now submitId intent left
              else submitter.failSubmission context request now submitId error

/-- `SUBMISSION_RETRY_POLICY.max_attempts`, or one attempt. -/
def maxAttempts (submitter : OrderSubmitter) : ℕ :=
  if submitter.enableRetries then 2 else 1

/-- The record found or reserved for the client identifier; without one the
submission is ours to make. -/
def existingRecord (submitter : OrderSubmitter) (request : SubmissionRequest)
    (now : DateTime) (submitId : String) (intent : OrderIntent) :
    SubmissionTx (Option OrderRecord) := do
  let existing ← submitter.getExistingRecord context submitId
  match existing with
  | some record => pure (some record)
  | none =>
      submitter.recordPendingSubmission context request now submitId intent

/-- `_submit_order_inner_result`. -/
def submitOrderInner (submitter : OrderSubmitter) (request : SubmissionRequest)
    (now : DateTime) (submitId : String) (intent : OrderIntent) :
    SubmissionTx SubmissionOutcome :=
  Program.andThen
    (submitter.existingRecord context request now submitId intent)
    fun
      | .error (.persistence message) => pure (.uncertain message)
      | .error other => .raise other
      | .ok (some record) => do
          let same ← Program.lift
            ((intentMatches context record intent).mapError .python)
          if same then
            pure (handleExistingSubmissionOutcome context record submitId)
          else pure .payloadConflict
      | .ok none =>
          submitter.attempts context request now submitId intent
            submitter.maxAttempts

/-- `submit_order_with_result`; an invalid intent raises before anything is
done. -/
def submitOrderWithResult (submitter : OrderSubmitter)
    (request : SubmissionRequest) (now : DateTime) :
    SubmissionTx SubmissionOutcome :=
  match request.decisionId with
  | none => pure .missingDecisionId
  | some submitId => do
      let intent ← Program.lift ((request.intent submitId).mapError .python)
      submitter.submitOrderInner context request now submitId intent

end OrderSubmitter

/-! ## What the operations do -/

/-- A store transaction on its own. -/
def committed {α : Type} (body : StoreTx α) (database : OrdersDatabase) :
    Except StoreError α × OrdersDatabase :=
  ((body (.fresh database)).1, (body (.fresh database)).2.database)

/-- What an operation replies and leaves, if the store does not fail; the
broker's reply is given. -/
def performSubmission (context : OrdersContext) (broker : BrokerReply) :
    (op : SubmissionOp) → OrdersDatabase → SubmissionReply op × OrdersDatabase
  | .lookup clientOrderId, database =>
      (database.getOrderByClientOrderId context clientOrderId, database)
  | .reserve record, database =>
      committed (OrdersStore.reserveSubmission context record) database
  | .persist record, database =>
      committed (OrdersStore.upsertByClientId context record true) database
  | .place _, database => (broker, database)

end GptTrader
