import GptTrader.Core.OrderIntent
import GptTrader.Library.Dict
import GptTrader.Library.Replay
import GptTrader.Library.Transaction

/-!
# The paper execution journal

The durable submission intents and broker receipts of
`trade_ideas/execution_journal.py`.  The journal is one append-only stream of
JSON lines.  Its reader checks every line against what the earlier lines
established; each writer makes its own checks and appends one line.

A writer runs in a transaction of the state store, so it is a computation over
the stored lines that may raise.
-/

namespace GptTrader

namespace ExecutionJournal

/-- What the journal raises: `ExecutionJournalIntegrityError`,
`PaperReceiptConflictError`, a `ValueError` of the reader, or what a built-in
conversion raises. -/
inductive JournalError where
  | python (error : PyError)
  | invalid (message : String)
  | conflict (message : String)
  | integrity (message : String)
  | unreadable (cause : JournalError)
  deriving DecidableEq

/-- The text of a journal error. -/
def JournalError.message : JournalError → String
  | .python _ => ""
  | .invalid message => message
  | .conflict message => message
  | .integrity message => message
  | .unreadable cause => "Invalid paper execution journal: " ++ cause.message

/-- The exceptions the reader reports as an invalid journal.  Attribute and
recursion errors, and its own integrity errors, pass through. -/
def JournalError.caught : JournalError → Bool
  | .python .attributeError => false
  | .python .recursionError => false
  | .python _ => true
  | .invalid _ => true
  | .conflict _ => true
  | .integrity _ => false
  | .unreadable _ => false

/-- The conversions the journal uses and `payload_hash` of a JSON value. -/
structure JournalContext where
  formats : TextFormats
  payloadHash : Json → String

/-- A dictionary given to a writer: the JSON value it is stored as, and what
`payload_hash` says of the dictionary itself, which differ where a nested mapping has
keys that are not strings. -/
structure Payload where
  value : Json
  digest : String

/-- What the journal holds of a decision. -/
structure ExecutionJournalEntry where
  decisionId : String
  recordHash : Json
  intent : Json
  receipt : Option Json
  reconciled : Bool
  deriving DecidableEq

/-- What the reader accumulates: the entries and the simulated operation
identities. -/
structure JournalReading where
  entries : Dict String ExecutionJournalEntry
  simulated : List String

def JournalReading.empty : JournalReading :=
  { entries := Dict.empty
    simulated := [] }

abbrev Reads (α : Type) : Type :=
  Except JournalError α

def python {α : Type} (outcome : Except PyError α) : Reads α :=
  outcome.mapError .python

def demand (condition : Bool) (error : JournalError) : Reads Unit :=
  if condition then .ok () else .error error

@[simp] theorem python_ok {α : Type} (value : α) :
    python (.ok value) = .ok value :=
  rfl

theorem python_eq_ok {α : Type} {outcome : Except PyError α} {value : α} :
    python outcome = .ok value ↔ outcome = .ok value :=
  Outcome.mapError_eq_ok

@[simp] theorem demand_true (error : JournalError) : demand true error = .ok () :=
  rfl

theorem demand_eq_ok {condition : Bool} {error : JournalError} {result : Unit} :
    demand condition error = .ok result ↔ condition = true := by
  cases condition with
  | false => simp [demand]
  | true => simp [demand]

def brokerStatuses (formats : TextFormats) : List String :=
  [BrokerOrderStatus.pending, .submitted, .partiallyFilled, .filled, .cancelled,
    .rejected, .expired, .failed].map fun status => formats.lower status.value

def isFilled (receipt : Json) : Except PyError Bool :=
  (receipt.getItem "status").map fun status => status.same (.str "filled")

section Validation

variable (context : JournalContext)

/-- The receipt repeats a field of the intent. -/
def fieldAgrees (entry : ExecutionJournalEntry) (receipt : Json)
    (field : String) : Reads Unit := do
  let observed ← python (receipt.getItem field)
  let intended ← python (entry.intent.getItem field)
  demand (observed.same intended)
    (.conflict ("Broker receipt " ++ field ++ " conflicts with intent"))

/-- `not quantity.is_finite() or quantity < 0 or quantity > requested`. -/
def exceeds (quantity requested : Decimal) : Except PyError Bool :=
  if quantity.isFinite then do
    let negative ← quantity.lt (.finite 0)
    if negative then .ok true else requested.lt quantity
  else .ok true

/-- `value is None or not value.is_finite() or value <= 0`. -/
def unpriced : Option Decimal → Bool
  | some (.finite value) => decide (value ≤ 0)
  | _ => true

def observedAfter (receipt : Json) (timestamp : DateTime) :
    Except PyError Unit := do
  let observedAt ← context.formats.toDateTime (← receipt.getItem "observed_at")
  if observedAt.aware then
    let early ← observedAt.lt timestamp
    if early then .error .valueError else .ok ()
  else .error .valueError

/-- The quantity of a receipt. -/
def validateQuantity (entry : ExecutionJournalEntry) (receipt : Json)
    (filled : Bool) : Reads Unit := do
  let quantity ← python
    (receipt.getItem "quantity" >>= context.formats.toDecimal)
  let requested ← python
    (entry.intent.getItem "quantity" >>= context.formats.toDecimal)
  let excessive ← python (exceeds quantity requested)
  demand (!excessive) (.conflict "Broker receipt quantity exceeds intent")
  let complete ← python
    (if filled then quantity.eq requested else .ok true)
  demand complete
    (.conflict "Terminal receipt must fill the complete intent")

def receiptPrice (receipt : Json) : Except PyError (Option Decimal) := do
  match ← receipt.getItem "price" with
  | .null => .ok none
  | price => (context.formats.toDecimal price).map some

/-- The times of a receipt are in order. -/
def validateTimes (entry : ExecutionJournalEntry) (receipt : Json) :
    Reads Unit := do
  let timestamp ← python
    (receipt.getItem "filled_at" >>= context.formats.toDateTime)
  demand timestamp.aware (.conflict "Receipt timestamp requires timezone")
  if entry.intent.hasKey "position_operation" then
    (observedAfter context receipt timestamp).mapError fun _ =>
      .conflict "Targeted receipt requires valid observation time"
  else .ok ()

/-- The checks of a receipt. -/
def validateReceipt (entry : ExecutionJournalEntry) (receipt : Json) :
    Reads Unit := do
  fieldAgrees entry receipt "client_order_id"
  fieldAgrees entry receipt "symbol"
  fieldAgrees entry receipt "side"
  let decisionId ← python (receipt.getItem "decision_id")
  demand (decisionId.same (.str entry.decisionId))
    (.conflict "Broker receipt identity missing or conflicting")
  let orderId ← python (receipt.getItem "order_id")
  demand orderId.truthy
    (.conflict "Broker receipt identity missing or conflicting")
  let status ← python (receipt.getItem "status")
  let known ← python (status.isOneOf (brokerStatuses context.formats))
  demand known (.conflict "Unknown broker receipt status")
  let filled := status.same (.str "filled")
  validateQuantity context entry receipt filled
  let price ← python (receiptPrice context receipt)
  demand (!(filled && unpriced price))
    (.conflict "Filled receipt requires a finite positive price")
  validateTimes context entry receipt

def simulatedIdentity (operation : PositionOperation) : String :=
  "simulated-close-" ++ operation.targetRecordHash

def positiveField (payload : Json) (field : String) : Reads Unit := do
  let value ← python (payload.getItem field >>= context.formats.toDecimal)
  demand (!unpriced (some value))
    (.integrity "Invalid simulated resolution value")

def validateResolutionTimes (payload : Json) : Reads Unit := do
  let observedAt ← python
    (payload.getItem "observed_at" >>= context.formats.toDateTime)
  demand observedAt.aware
    (.integrity "Simulated resolution cannot precede observation evidence")
  let resolvedAt ← python
    (payload.getItem "resolved_at" >>= context.formats.toDateTime)
  let late ← python (observedAt.lt resolvedAt)
  demand (!late)
    (.integrity "Simulated resolution cannot precede observation evidence")
  demand resolvedAt.aware
    (.integrity "Simulated resolution requires timestamp")

/-- `CloseoutResolution(value)`: every other value is a `ValueError`. -/
def parseResolution : Json → Except PyError CloseoutResolution
  | .str text => CloseoutResolution.parse text
  | _ => .error .valueError

/-- `_validate_simulated_resolution`, given what `payload_hash` says of the
event's payload.  Returns the pinned target. -/
def validateSimulatedResolution (event : Json) (digest : String) :
    Reads PositionOperation := do
  let payload ← python (event.getItem "resolution")
  let target ← python (payload.getItem "target_decision_id")
  let hash ← python (payload.getItem "target_record_hash")
  let operation ← python (PositionOperation.fromDict
    (.obj [("action", .str "close"), ("target_decision_id", target),
      ("target_record_hash", hash)]))
  let checksum ← python (event.getItem "checksum")
  demand (checksum.same (.str digest))
    (.integrity "Invalid simulated resolution identity/checksum")
  let operationId ← python (payload.getItem "operation_id")
  demand operationId.truthy
    (.integrity "Invalid simulated resolution identity/checksum")
  positiveField context payload "quantity"
  positiveField context payload "price"
  demand (operationId.same (.str (simulatedIdentity operation)))
    (.integrity "Simulated close identity does not pin target")
  validateResolutionTimes context payload
  let _ ← python (payload.getItem "resolution" >>= parseResolution)
  let source ← python (payload.getItem "source")
  demand (source.same (.str "simulated_candle_resolution"))
    (.integrity "Simulated resolution requires explicit evidence")
  let evidence ← python (payload.getItem "evidence")
  demand evidence.truthy
    (.integrity "Simulated resolution requires explicit evidence")
  .ok operation

end Validation

section Reader

variable (context : JournalContext)

/-- A decision id used as a key.  Only strings become keys, because an intent is
stored under the client order id it was checked against. -/
def journalKey : Json → Except PyError (Option String)
  | .str id => .ok (some id)
  | .arr _ => .error .typeError
  | .obj _ => .error .typeError
  | _ => .ok none

def JournalReading.current (reading : JournalReading) (key : Option String) :
    Option ExecutionJournalEntry :=
  key.bind reading.entries.get?

/-- A simulated closing, once for each identity. -/
def readSimulated (reading : JournalReading) (event : Json) :
    Reads JournalReading := do
  let payload ← python (event.getItem "resolution")
  let operation ← validateSimulatedResolution context event
    (context.payloadHash payload)
  -- The payload's operation id was checked to be this identity.
  let operationId := simulatedIdentity operation
  demand (decide (operationId ∉ reading.simulated) &&
      (reading.entries.get? operationId).isNone)
    (.invalid "Duplicate simulated operation identity")
  .ok { reading with simulated := reading.simulated ++ [operationId] }

/-- The checks of a stored intent that need no other line. -/
def validateIntent (key : Option String) (intent : Json) : Reads String := do
  let _ ← python (OrderIntent.fromDict context.formats intent)
  let client ← python (intent.getItem "client_order_id")
  match key with
  | none => .error (.invalid "invalid intent identity or side")
  | some id =>
    demand (client.same (.str id)) (.invalid "invalid intent identity or side")
    let side ← python (intent.getItem "side")
    let sided ← python (side.isOneOf ["buy", "sell"])
    demand sided (.invalid "invalid intent identity or side")
    let quantity ← python
      (intent.getItem "quantity" >>= context.formats.toDecimal)
    demand (!unpriced (some quantity)) (.invalid "invalid intent quantity")
    let symbol ← python (intent.getItem "symbol")
    demand symbol.truthy (.invalid "unsupported paper entry intent")
    let orderType ← python (intent.getItem "order_type")
    demand (orderType.same (.str "market"))
      (.invalid "unsupported paper entry intent")
    let reduceOnly ← python (intent.getItem "reduce_only")
    demand (decide (reduceOnly = .bool false) ||
        intent.hasKey "position_operation")
      (.invalid "unsupported paper entry intent")
    .ok id

/-- An intent, once for each decision. -/
def readIntent (reading : JournalReading) (key : Option String)
    (event : Json) : Reads JournalReading := do
  demand ((reading.current key).isNone &&
      key.all fun id => decide (id ∉ reading.simulated))
    (.invalid "duplicate intent")
  let intent ← python (event.getItem "intent")
  let id ← validateIntent context key intent
  let intentHash ← python (event.getItem "intent_hash")
  demand (intentHash.same (.str (context.payloadHash intent)))
    (.invalid "intent hash mismatch")
  let recordHash ← python (event.getItem "record_hash")
  .ok
    { reading with
      entries := reading.entries.set id
        { decisionId := id
          recordHash := recordHash
          intent := intent
          receipt := none
          reconciled := false } }

/-- A receipt of a decision with an intent. -/
def readReceipt (reading : JournalReading) (key : Option String)
    (event : Json) : Reads JournalReading := do
  match reading.current key with
  | none => .error (.invalid "receipt without unique pending intent")
  | some entry =>
    demand (entry.receipt.isNone && !entry.reconciled)
      (.invalid "receipt without unique pending intent")
    let receipt ← python (event.getItem "receipt")
    let intentHash ← python (event.getItem "intent_hash")
    demand (intentHash.same (.str (context.payloadHash entry.intent)))
      (.invalid "receipt hash mismatch")
    let receiptHash ← python (event.getItem "receipt_hash")
    demand (receiptHash.same (.str (context.payloadHash receipt)))
      (.invalid "receipt hash mismatch")
    validateReceipt context entry receipt
    .ok
      { reading with
        entries := reading.entries.set entry.decisionId
          { entry with receipt := some receipt } }

def readReconciled (reading : JournalReading) (key : Option String)
    (event : Json) : Reads JournalReading := do
  match reading.current key with
  | none => .error (.invalid "reconciliation without unique receipt")
  | some entry =>
    match entry.receipt with
    | none => .error (.invalid "reconciliation without unique receipt")
    | some receipt =>
      let filled ← python (isFilled receipt)
      demand (filled && !entry.reconciled)
        (.invalid "reconciliation without unique receipt")
      let receiptHash ← python (event.getItem "receipt_hash")
      demand (receiptHash.same (.str (context.payloadHash receipt)))
        (.invalid "reconciled receipt hash mismatch")
      .ok
        { reading with
          entries := reading.entries.set entry.decisionId
            { entry with reconciled := true } }

/-- One event of the journal. -/
def readEvent (reading : JournalReading) (event : Json) :
    Reads JournalReading := do
  let kind ← python (event.getItem "kind")
  if kind = .str "simulated_resolution" then readSimulated context reading event
  else
    let decisionId ← python (event.getItem "decision_id")
    let key ← python (journalKey decisionId)
    if kind = .str "intent" then readIntent context reading key event
    else if kind = .str "receipt" then readReceipt context reading key event
    else if kind = .str "reconciled" then
      readReconciled context reading key event
    else .error (.invalid "unknown journal event")

/-- One line of the journal. -/
def readLine (reading : JournalReading) : StoredLine → Reads JournalReading
  | .blank => .ok reading
  | .malformed error => .error (.python error)
  | .json event => readEvent context reading event

def report (error : JournalError) : JournalError :=
  if error.caught then .unreadable error else error

/-- The whole journal, up to its first error. -/
def readLines (lines : List StoredLine) : Reads JournalReading :=
  (replay (readLine context) .empty lines).mapError report

/-- `entries()`. -/
def entries (lines : List StoredLine) :
    Reads (Dict String ExecutionJournalEntry) :=
  (readLines context lines).map JournalReading.entries

def collectResolution (records : Dict Json Json) :
    StoredLine → Reads (Dict Json Json)
  | .blank => .ok records
  | .malformed error => .error (.python error)
  | .json event => do
      let kind ← python (event.getItem "kind")
      if kind = .str "simulated_resolution" then
        let payload ← python (event.getItem "resolution")
        let operationId ← python (payload.getItem "operation_id")
        demand (records.get? operationId).isNone
          (.integrity "Duplicate simulated resolution identity")
        .ok (records.set operationId payload)
      else .ok records

/-- `simulated_resolutions()`. -/
def simulatedResolutions (lines : List StoredLine) : Reads (List Json) := do
  let _ ← entries context lines
  let records ← replay collectResolution Dict.empty lines
  .ok records.values

end Reader

section Writers

variable (context : JournalContext)

/-- A computation on the journal's lines. -/
abbrev JournalTx (α : Type) : Type :=
  Tx JournalError (List StoredLine) α

def append (event : Json) : JournalTx Unit :=
  Tx.modify fun lines => lines ++ [.json event]

def intentEvent (decisionId recordHash : String) (intent : Payload) : Json :=
  .obj
    [("kind", .str "intent"), ("decision_id", .str decisionId),
      ("record_hash", .str recordHash), ("intent", intent.value),
      ("intent_hash", .str intent.digest)]

def receiptEvent (decisionId : String) (entry : ExecutionJournalEntry)
    (receipt : Payload) : Json :=
  .obj
    [("kind", .str "receipt"), ("decision_id", .str decisionId),
      ("intent_hash", .str (context.payloadHash entry.intent)),
      ("receipt_hash", .str receipt.digest), ("receipt", receipt.value)]

def reconciledEvent (decisionId : String) (receipt : Json) : Json :=
  .obj
    [("kind", .str "reconciled"), ("decision_id", .str decisionId),
      ("receipt_hash", .str (context.payloadHash receipt))]

def simulatedEvent (payload : Payload) : Json :=
  .obj
    [("kind", .str "simulated_resolution"), ("resolution", payload.value),
      ("checksum", .str payload.digest)]

/-- `record_intent`: the whole journal is read again before the commit. -/
def recordIntent (decisionId recordHash : String) (intent : Payload) :
    JournalTx Unit := do
  let current ← Tx.read (entries context)
  Tx.require ((current.get? decisionId).isNone = true)
    (.integrity "Decision already has a durable intent")
  append (intentEvent decisionId recordHash intent)
  let _ ← Tx.read (entries context)
  pure ()

/-- `record_receipt`: a repeat of the stored receipt changes nothing. -/
def recordReceipt (decisionId : String) (receipt : Payload) :
    JournalTx Unit := do
  let current ← Tx.read (entries context)
  match current.get? decisionId with
  | none => Tx.raise (.integrity "Receipt has no durable intent")
  | some entry =>
    match entry.receipt with
    | some stored =>
      Tx.require (stored.same receipt.value = true)
        (.integrity "Conflicting receipt for the same intent")
    | none => do
      Tx.read fun _ => validateReceipt context entry receipt.value
      append (receiptEvent context decisionId entry receipt)

def markReconciled (decisionId : String) : JournalTx Unit := do
  let current ← Tx.read (entries context)
  match current.get? decisionId with
  | none => Tx.raise (.python .keyError)
  | some entry =>
    if entry.reconciled then pure ()
    else
      match entry.receipt with
      | none =>
        Tx.raise
          (.integrity "Cannot reconcile without a terminal fill receipt")
      | some receipt => do
        let filled ← Tx.read fun _ => python (isFilled receipt)
        Tx.require (filled = true)
          (.integrity "Cannot reconcile without a terminal fill receipt")
        append (reconciledEvent context decisionId receipt)

def sameOperation (payload : Json) : List Json → Except PyError (Option Json)
  | [] => .ok none
  | existing :: rest => do
      let stored ← existing.getItem "operation_id"
      let given ← payload.getItem "operation_id"
      if stored.same given then .ok (some existing)
      else sameOperation payload rest

/-- `record_simulated_resolution`: it looks for its operation id among the
stored resolutions only. -/
def recordSimulatedResolution (payload : Payload) : JournalTx Unit := do
  let stored ← Tx.read (simulatedResolutions context)
  match ← Tx.read fun _ => python (sameOperation payload.value stored) with
  | some existing =>
    Tx.require (existing.same payload.value = true)
      (.integrity "Conflicting simulated resolution")
  | none => do
    let _ ← Tx.read fun _ => validateSimulatedResolution context
      (simulatedEvent payload) payload.digest
    append (simulatedEvent payload)

end Writers

end ExecutionJournal

end GptTrader
