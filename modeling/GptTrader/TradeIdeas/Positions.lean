import GptTrader.TradeIdeas.State

/-!
# Paper positions projected from the execution journal

`trade_ideas/fill_evidence.py` and the readers of
`trade_ideas/position_operations.py`.  A filled entry has the quantity its fill
recorded; filled reduction receipts and simulated closes reduce it, submitted
reductions without a final receipt reserve part of what remains.

The journal's reader accepts only decimals and datetimes that decode, so its
entries are read here in decoded form.
-/

namespace GptTrader

/-- An `ExecutionJournalIntegrityError`. -/
def ServiceError.integrity (message : String) : ServiceError :=
  .plain (.journal (.integrity message)) message

/-- A `PositionOperationAdmissionError`. -/
def ServiceError.inadmissible (message : String) : ServiceError :=
  .plain .positionAdmission message

/-- Raise `error` unless the condition holds. -/
def ensure (condition : Prop) [Decidable condition] (error : ServiceError) :
    Except ServiceError Unit :=
  if condition then .ok () else .error error

theorem ensure_eq_ok {condition : Prop} [Decidable condition]
    {error : ServiceError} {result : Unit} :
    ensure condition error = .ok result ↔ condition := by
  unfold ensure
  split <;> simp_all

section FillEvidence

def afterKey (key text : String) : Option String :=
  if key.toList.isPrefixOf text.toList then
    some (String.ofList (text.toList.drop key.toList.length))
  else none

/-- Provider-neutral facts of one venue-confirmed fill. -/
structure RecordedFill where
  filledAt : ℤ
  price : Option ℚ
  quantity : Option ℚ
  venue : String
  externalOrderId : String
  corruptKeys : List String

/-- A fill as evidence texts. -/
def encodeFillEvidence (env : TradeEnv) (price quantity : Option ℚ)
    (filledAt : Option ℤ) : List String :=
  (price.map fun price => "fill_price=" ++ env.showValue price).toList ++
    (quantity.map fun quantity =>
      "fill_quantity=" ++ env.showValue quantity).toList ++
    (filledAt.map fun filledAt => "fill_time=" ++ env.showTime filledAt).toList

def evidenceValue (event : AuditEvent) (key : String) : Option String :=
  event.evidence.findSome? (afterKey (key ++ "="))

def evidenceAs {α : Type} (decode : String → Option α) (event : AuditEvent)
    (key : String) : Option α × List String :=
  match evidenceValue event key with
  | none => (none, [])
  | some raw =>
      match decode raw with
      | none => (none, [key])
      | some value => (some value, [])

def decodeFinite (env : TradeEnv) (raw : String) : Option ℚ :=
  match env.formats.parseDecimal raw with
  | some (.finite value) => some value
  | _ => none

def decodeAware (env : TradeEnv) (raw : String) : Option ℤ :=
  match env.formats.parseDateTime raw with
  | some moment => if moment.aware then some moment.instant else none
  | none => none

/-- The fill an event's evidence spells. -/
def recordedFill (env : TradeEnv) (event : AuditEvent) : RecordedFill :=
  let price := evidenceAs (decodeFinite env) event "fill_price"
  let quantity := evidenceAs (decodeFinite env) event "fill_quantity"
  let filledAt := evidenceAs (decodeAware env) event "fill_time"
  { filledAt := filledAt.1.getD event.timestamp
    price := price.1
    quantity := quantity.1
    venue := event.venue
    externalOrderId := event.externalOrderId
    corruptKeys := price.2 ++ quantity.2 ++ filledAt.2 }

def filledEvent (events : List AuditEvent) : Option AuditEvent :=
  events.reverse.find? fun event => decide (event.action = .filled)

def recordedFillFromView (env : TradeEnv) (view : TradeIdeaView) :
    Option RecordedFill :=
  (filledEvent view.events).map (recordedFill env)

end FillEvidence

/-- A broker receipt of the journal.  The reader accepts a price that is not
finite only when the receipt is not filled. -/
structure PaperReceipt where
  status : Json
  quantity : ℚ
  price : Option ℚ
  orderId : Json
  filledAt : ℤ

def PaperReceipt.filled (receipt : PaperReceipt) : Bool :=
  receipt.status.same (.str "filled")

def PaperReceipt.released (receipt : PaperReceipt) : Bool :=
  (receipt.status.same (.str "rejected") ||
    receipt.status.same (.str "cancelled") ||
    receipt.status.same (.str "expired")) && decide (receipt.quantity = 0)

/-- A journal entry. -/
structure PaperEntry where
  decisionId : String
  recordHash : Json
  intent : OrderIntent
  receipt : Option PaperReceipt
  reconciled : Bool

/-- A simulated resolution of the journal. -/
structure SimulatedClose where
  operationId : String
  targetDecisionId : String
  targetRecordHash : String
  quantity : ℚ
  price : ℚ
  resolvedAt : ℤ
  resolution : CloseoutResolution

section Decoding

variable (env : TradeEnv)

def finiteItem (payload : Json) (key : String) : Except PyError ℚ := do
  match ← payload.getItem key >>= env.formats.toDecimal with
  | .finite value => .ok value
  | _ => .error .invalidOperation

def priceItem (payload : Json) : Except PyError (Option ℚ) := do
  match ← ExecutionJournal.receiptPrice env.journal payload with
  | some (.finite value) => .ok (some value)
  | _ => .ok none

def instantItem (payload : Json) (key : String) : Except PyError ℤ := do
  let moment ← payload.getItem key >>= env.formats.toDateTime
  .ok moment.instant

def textItem (payload : Json) (key : String) : Except PyError String := do
  match ← payload.getItem key with
  | .str text => .ok text
  | _ => .error .typeError

/-- The fields of a receipt. -/
def PaperReceipt.decode (receipt : Json) : Except PyError PaperReceipt := do
  let status ← receipt.getItem "status"
  let quantity ← finiteItem env receipt "quantity"
  let price ← priceItem env receipt
  let orderId ← receipt.getItem "order_id"
  let filledAt ← instantItem env receipt "filled_at"
  .ok
    { status := status
      quantity := quantity
      price := price
      orderId := orderId
      filledAt := filledAt }

/-- The fields of a journal entry. -/
def PaperEntry.decode (entry : ExecutionJournal.ExecutionJournalEntry) :
    Except PyError PaperEntry := do
  let intent ← OrderIntent.fromDict env.formats entry.intent
  let receipt ← entry.receipt.mapM (PaperReceipt.decode env)
  .ok
    { decisionId := entry.decisionId
      recordHash := entry.recordHash
      intent := intent
      receipt := receipt
      reconciled := entry.reconciled }

/-- The fields of a simulated closing. -/
def SimulatedClose.decode (payload : Json) : Except PyError SimulatedClose := do
  let operationId ← textItem payload "operation_id"
  let target ← textItem payload "target_decision_id"
  let targetHash ← textItem payload "target_record_hash"
  let quantity ← finiteItem env payload "quantity"
  let price ← finiteItem env payload "price"
  let resolvedAt ← instantItem env payload "resolved_at"
  let resolution ← payload.getItem "resolution" >>=
    ExecutionJournal.parseResolution
  .ok
    { operationId := operationId
      targetDecisionId := target
      targetRecordHash := targetHash
      quantity := quantity
      price := price
      resolvedAt := resolvedAt
      resolution := resolution }

end Decoding

namespace TradeState

variable (env : TradeEnv)

def journalError (error : ExecutionJournal.JournalError) : ServiceError :=
  .plain (.journal error) error.message

/-- `execution_journal.entries()`. -/
def paperEntries : Query (List PaperEntry) :=
  fun store => do
    let entries ← (ExecutionJournal.entries env.journal store.journal).mapError
      journalError
    (entries.values.mapM (PaperEntry.decode env)).mapError .escaped

/-- `execution_journal.simulated_resolutions()`. -/
def simulatedCloses : Query (List SimulatedClose) :=
  fun store => do
    let payloads ←
      (ExecutionJournal.simulatedResolutions env.journal store.journal).mapError
        journalError
    (payloads.mapM (SimulatedClose.decode env)).mapError .escaped

end TradeState

section Intents

/-- A paper market order for an idea. -/
def paperOrder (idea : TradeIdea) (side : OrderSide) (quantity : ℚ) :
    Except ServiceError OrderIntent :=
  if identified : isBlank idea.decisionId = false ∧
      isBlank idea.instrument = false then
    if positive : 0 < quantity then
      .ok
        { clientOrderId := idea.decisionId
          symbol := idea.instrument
          side := side
          orderType := .market
          quantity := quantity
          price := none
          stopPrice := none
          tif := .null
          reduceOnly := idea.reducing
          leverage := .null
          positionOperation := idea.positionOperation
          identified := identified
          positive := positive
          reducing := id
          pricesPositive := OrderIntent.unpriced }
    else .error (.plain (.python .valueError)
      "Order intent quantity must be finite and positive")
  else .error (.plain (.python .valueError)
    "Order intent requires stable client identity and symbol")

def TradeDirection.openingSide : TradeDirection → Option OrderSide
  | .long => some .buy
  | .short => some .sell
  | _ => none

def TradeDirection.closingSide : TradeDirection → Option OrderSide
  | .long => some .sell
  | .short => some .buy
  | _ => none

/-- The entry is about this idea. -/
def validateBinding (env : TradeEnv) (entry : PaperEntry) (idea : TradeIdea) :
    Except ServiceError Unit :=
  let side :=
    if idea.reducing then idea.direction.closingSide
    else idea.direction.openingSide
  let closing := idea.positionOperation.any fun operation =>
    decide (operation.action = .close)
  let quantity :=
    -- The quantity of a close is frozen at its admission.
    if closing && idea.sizingRecommendation.quantity.isNone then
      some entry.intent.quantity
    else idea.sizingRecommendation.quantity
  match side, quantity with
  | some side, some quantity => do
      let expected ← paperOrder idea side quantity
      ensure (entry.recordHash = .str (env.recordHash idea) ∧
          entry.intent = expected)
        (.integrity "Execution intent conflicts with idea")
  | _, _ => .error (.integrity "Execution intent conflicts with idea")

def validateTargetIdentity (env : TradeEnv) (target operationIdea : TradeIdea) :
    Except ServiceError Unit :=
  ensure
    ((operationIdea.positionOperation.any fun operation =>
        decide (operation.targetRecordHash = env.recordHash target ∧
          operation.targetDecisionId = target.decisionId)) = true ∧
      operationIdea.instrument = target.instrument ∧
      operationIdea.productType = target.productType ∧
      operationIdea.direction = target.direction)
    (.integrity "Position operation conflicts with immutable target")

end Intents

/-- One reduction of a position. -/
structure ReductionFact where
  operationId : String
  quantity : ℚ
  price : ℚ
  timestamp : ℤ
  source : String
  resolution : CloseoutResolution

/-- A position with its reductions. -/
structure PaperPosition where
  idea : TradeIdea
  entryQuantity : ℚ
  entryPrice : ℚ
  remaining : ℚ
  reserved : ℚ
  reductions : List ReductionFact

namespace PaperPosition

/-- What no reduction has taken or reserved. -/
def available (position : PaperPosition) : ℚ :=
  position.remaining - position.reserved

/-- The profit of a reduction. -/
def realizedAmount (position : PaperPosition) (fact : ReductionFact) : ℚ :=
  let move := fact.price - position.entryPrice
  fact.quantity * if position.idea.direction = .long then move else -move

/-- The profits of all reductions, summed exactly. -/
def realizedTotal (position : PaperPosition) : ℚ :=
  (position.reductions.map position.realizedAmount).sum

def lastReduction (position : PaperPosition) : Option ℤ :=
  (position.reductions.map ReductionFact.timestamp).max?

end PaperPosition

/-- The journal with the views of every decision it concerns. -/
structure ExecutionSnapshot where
  entries : List PaperEntry
  resolutions : List SimulatedClose
  views : Dict String TradeIdeaView

namespace ExecutionSnapshot

variable (env : TradeEnv)

def targets (entries : List PaperEntry) (resolutions : List SimulatedClose) :
    List String :=
  (entries.filterMap fun entry =>
    entry.intent.positionOperation.map PositionOperation.targetDecisionId) ++
    resolutions.map SimulatedClose.targetDecisionId

def concerns (entries : List PaperEntry) (targets : List String)
    (idea : TradeIdea) (events : List AuditEvent) (decisionId : String) : Bool :=
  (idea.reducing && events.any fun event =>
    decide (event.action = .submitted ∨ event.action = .filled)) ||
  (entries.any fun entry => decide (entry.decisionId = decisionId) &&
    entry.intent.positionOperation.isSome) ||
  decide (decisionId ∈ targets)

def addView (store : TradeState) (entries : List PaperEntry)
    (targets : List String) (views : Dict String TradeIdeaView)
    (latest : String × AuditEvent) :
    Except ServiceError (Dict String TradeIdeaView) := do
  let idea ← store.loadRecordVersion env latest.1 latest.2.recordHash
  if concerns entries targets idea (store.audit.eventsOf latest.1) latest.1 then
    let view ← store.view env latest.1
    .ok (views.set latest.1 view)
  else .ok views

/-- The audited fill is the receipt's. -/
def FillMatches (fill : RecordedFill) (receipt : PaperReceipt) : Prop :=
  fill.quantity = some receipt.quantity ∧ fill.price = receipt.price ∧
    Json.str fill.externalOrderId = receipt.orderId ∧
    fill.filledAt = receipt.filledAt

instance (fill : RecordedFill) (receipt : PaperReceipt) :
    Decidable (FillMatches fill receipt) :=
  inferInstanceAs (Decidable (_ ∧ _))

/-- The receipt confirms the audited fill. -/
def receiptConfirms (view : TradeIdeaView) (entry : PaperEntry) : Bool :=
  match entry.receipt, recordedFillFromView env view with
  | some receipt, some fill => receipt.filled && decide (FillMatches fill receipt)
  | _, _ => false

def validateAdmitted (view : TradeIdeaView) (submission : AuditEvent)
    (entry : PaperEntry) : Except ServiceError Unit := do
  validateBinding env entry view.idea
  ensure (∀ receipt ∈ entry.receipt, submission.timestamp ≤ receipt.filledAt)
    (.integrity "Reduction receipt precedes recorded submission")
  if view.state = .filled then
    ensure (receiptConfirms env view entry = true)
      (.integrity "Audited reduction fill conflicts with durable receipt")
  else
    ensure (entry.reconciled = false)
      (.integrity "Reconciled reduction has no audited fill")

/-- The checks of one view; a reduction that was never admitted remains valid
historical evidence. -/
def validateView (entries : List PaperEntry) (view : TradeIdeaView) :
    Except ServiceError Unit :=
  if view.idea.reducing then
    let submission := (view.events.filter fun event =>
      decide (event.action = .submitted)).getLast?
    let entry := entries.find? fun entry =>
      decide (entry.decisionId = view.idea.decisionId)
    match submission, entry with
    | none, none => .ok ()
    | some submission, some entry => validateAdmitted env view submission entry
    | _, _ => .error (.integrity
        "Admitted reduction is missing its audit or journal intent")
  else .ok ()

/-- `_execution_snapshot`. -/
def take (requested : Option String) : Query ExecutionSnapshot :=
  fun store => do
    let entries ← store.paperEntries env
    let resolutions ← store.simulatedCloses env
    let targets := targets entries resolutions ++ requested.toList
    let views ← store.latestAuditEvents.entries.foldlM
      (addView env store entries targets) Dict.empty
    views.values.forM (validateView env entries)
    ensure (∀ entry ∈ entries, entry.intent.positionOperation.isSome →
        (views.get? entry.decisionId).isSome)
      (.integrity "Reduction intent has no audited operation")
    .ok
      { entries := entries
        resolutions := resolutions
        views := views }

/-- The confirmed fill of an entry. -/
structure ConfirmedEntry where
  quantity : ℚ
  price : ℚ
  filledAt : ℤ
  positive : 0 < quantity ∧ 0 < price

/-- The quantity and basis of a filled entry. -/
def confirmedEntry (view : TradeIdeaView) :
    Except ServiceError ConfirmedEntry :=
  let missing := ServiceError.integrity
    "Target requires a confirmed entry quantity and basis"
  if view.state = .filled ∧ view.idea.positionOperation = none ∧
      (view.idea.direction = .long ∨ view.idea.direction = .short) then
    match recordedFillFromView env view with
    | none => .error missing
    | some fill =>
        match fill.quantity, fill.price with
        | some quantity, some price =>
            if positive : 0 < quantity ∧ 0 < price then
              if fill.corruptKeys = [] then
                .ok
                  { quantity := quantity
                    price := price
                    filledAt := fill.filledAt
                    positive := positive }
              else .error missing
            else .error missing
        | _, _ => .error missing
  else .error missing

/-- What one reduction intent does to its target: it reduced it, released its
reservation or still reserves its quantity. -/
inductive Share where
  | reduced (fact : ReductionFact)
  | released
  | reserved (quantity : ℚ)

def Share.fact? : Share → Option ReductionFact
  | .reduced fact => some fact
  | _ => none

/-- The quantity a share reserves. -/
def Share.quantity : Share → ℚ
  | .reserved quantity => quantity
  | _ => 0

/-- What an operation takes of its target. -/
def share (entry : PaperEntry) (operation : PositionOperation) : Share :=
  match entry.receipt with
  | none => .reserved entry.intent.quantity
  | some receipt =>
      if receipt.filled then
        .reduced
          { operationId := entry.decisionId
            quantity := receipt.quantity
            price := receipt.price.getD 0
            timestamp := receipt.filledAt
            source := "paper_broker_receipt"
            resolution := operation.resolution }
      else if receipt.released then .released
      else .reserved entry.intent.quantity

def targetShare (snapshot : ExecutionSnapshot) (target : TradeIdea)
    (entry : PaperEntry) : Except ServiceError (Option Share) :=
  match entry.intent.positionOperation with
  | none => .ok none
  | some operation =>
      if operation.targetDecisionId = target.decisionId then do
        ensure (operation.targetRecordHash = env.recordHash target)
          (.integrity "Reduction target hash conflicts with entry")
        match snapshot.views.get? entry.decisionId with
        | none => .error (.plain (.python .keyError)
            (env.showRepr entry.decisionId))
        | some view => do
            validateBinding env entry view.idea
            validateTargetIdentity env target view.idea
            .ok (some (share entry operation))
      else .ok none

def simulatedFact (target : TradeIdea) (close : SimulatedClose) :
    Except ServiceError (Option ReductionFact) :=
  if close.targetDecisionId = target.decisionId then do
    ensure (close.targetRecordHash = env.recordHash target)
      (.integrity "Simulated resolution target hash conflicts")
    .ok (some
      { operationId := close.operationId
        quantity := close.quantity
        price := close.price
        timestamp := close.resolvedAt
        source := "simulated_candle_resolution"
        resolution := close.resolution })
  else .ok none

def agreesWithCloseout (projected : PaperPosition)
    (closeout : CloseoutAttribution) : Bool :=
  decide (projected.remaining = 0 ∧ projected.reserved = 0 ∧
    closeout.realizedProfitLossAmount = some projected.realizedTotal ∧
    some closeout.timestamp = projected.lastReduction)

/-- `_position_from_snapshot`. -/
def position (snapshot : ExecutionSnapshot) (targetId : String) :
    Except ServiceError PaperPosition :=
  match snapshot.views.get? targetId with
  | none => .error (.integrity "Admitted reduction target is missing")
  | some view => do
      let fill ← confirmedEntry env view
      let shares ← snapshot.entries.mapM (targetShare env snapshot view.idea)
      let simulated ← snapshot.resolutions.mapM (simulatedFact env view.idea)
      let shares := shares.reduceOption
      let reductions := shares.filterMap Share.fact? ++ simulated.reduceOption
      let reserved := (shares.map Share.quantity).sum
      ensure (∀ fact ∈ reductions, fill.filledAt ≤ fact.timestamp)
        (.integrity "Reduction precedes its target entry fill")
      let remaining :=
        fill.quantity - (reductions.map ReductionFact.quantity).sum
      ensure (0 ≤ remaining ∧ 0 ≤ reserved ∧ reserved ≤ remaining)
        (.integrity "Paper reductions exceed the target quantity")
      let projected : PaperPosition :=
        { idea := view.idea
          entryQuantity := fill.quantity
          entryPrice := fill.price
          remaining := remaining
          reserved := reserved
          reductions := reductions }
      match view.closeoutAttribution with
      | none => .ok projected
      | some closeout =>
          if reductions.isEmpty && decide (reserved = 0) then
            -- Historical full closeouts are retained outcomes.
            .ok { projected with remaining := 0 }
          else if agreesWithCloseout projected closeout then .ok projected
          else .error (.integrity
            "Final attribution conflicts with position facts")

end ExecutionSnapshot

namespace TradeState

variable (env : TradeEnv)

/-- The position of a decision. -/
def position (targetId : String) : Query PaperPosition :=
  fun store => do
    let snapshot ← ExecutionSnapshot.take env (some targetId) store
    snapshot.position env targetId

/-- `positions`, in the order of the target ids. -/
def positions : Query (Dict String PaperPosition) :=
  fun store => do
    let snapshot ← ExecutionSnapshot.take env none store
    let targets := (ExecutionSnapshot.targets snapshot.entries
      snapshot.resolutions).dedup.insertionSort fun left right => left ≤ right
    targets.foldlM (fun found target => do
      let projected ← snapshot.position env target
      .ok (found.set target projected)) Dict.empty

/-- The idea an operation reduces. -/
def reductionTarget (operation : PositionOperation) (idea : TradeIdea) :
    Query TradeIdeaView :=
  fun store =>
    match store.view env operation.targetDecisionId with
    | .error error =>
        if error.kind = .unknownIdea then
          .error (.inadmissible "Reduction target is unknown")
        else .error error
    | .ok target => do
        (validateTargetIdentity env target.idea idea).mapError fun error =>
          .inadmissible error.message
        let basis := (recordedFillFromView env target).any fun fill =>
          fill.price.isSome && fill.quantity.isSome && fill.corruptKeys.isEmpty
        ensure (target.state = .filled ∧
            target.idea.positionOperation = none ∧ basis = true)
          (.inadmissible "Target requires a confirmed entry quantity and basis")
        ensure (target.closeoutAttribution = none)
          (.inadmissible "Position already has a final closeout")
        .ok target

def reductionQuantity (operation : PositionOperation) (idea : TradeIdea) :
    Query ℚ :=
  fun store => do
    let _ ← store.reductionTarget env operation idea
    let projected ← store.position env operation.targetDecisionId
    let asked := idea.sizingRecommendation.quantity
    let quantity :=
      if operation.action = .close then some projected.available else asked
    ensure (operation.action = .close →
        ∀ quantity ∈ asked, quantity = projected.available)
      (.inadmissible "Close quantity must equal unreserved remainder")
    match quantity with
    | none => .error (.inadmissible
        "Reduction exceeds unreserved target quantity")
    | some quantity => do
        ensure (0 < quantity ∧ quantity ≤ projected.available)
          (.inadmissible "Reduction exceeds unreserved target quantity")
        .ok quantity

/-- The order an idea asks for. -/
def intentForIdea (idea : TradeIdea) : Query OrderIntent :=
  fun store => do
    let quantity ←
      match idea.positionOperation with
      | none => .ok idea.sizingRecommendation.quantity
      | some operation => (store.reductionQuantity env operation idea).map some
    let side :=
      if idea.reducing then idea.direction.closingSide
      else idea.direction.openingSide
    match side, quantity with
    | some side, some quantity => paperOrder idea side quantity
    | _, _ => .error (.inadmissible
        "Paper intent requires direction and quantity")

def violationText (error : ServiceError) : Option String :=
  match error.kind with
  | .positionAdmission => some error.message
  | .python .valueError => some error.message
  | .python .keyError => some error.message
  | _ => none

/-- Why an operation is not possible. -/
def positionOperationViolations (idea : TradeIdea) : Query (List String) :=
  fun store =>
    if idea.reducing then
      match store.intentForIdea env idea with
      | .ok _ => .ok []
      | .error error =>
          match violationText error with
          | some text => .ok ["position operation: " ++ text]
          | none => .error error
    else .ok []

end TradeState

/-- The fields of an idea that its exposure depends on. -/
structure Exposure where
  instrument : String
  amount : Option ℚ
  percentOfAccount : Option ℚ
  notional : Option ℚ
  deriving DecidableEq

/-- What an idea puts at risk. -/
def TradeIdea.exposure (idea : TradeIdea) : Exposure :=
  { instrument := idea.instrument
    amount := idea.maxLoss.amount
    percentOfAccount := idea.maxLoss.percentOfAccount
    notional := idea.sizingRecommendation.notional }

/-- `scaled_idea`: derived exposure only. -/
def scaledIdea (idea : TradeIdea) (ratio : ℚ) : Exposure :=
  let scaled := fun value : Option ℚ => value.map fun value => value * ratio
  { instrument := idea.instrument
    amount := scaled idea.maxLoss.amount
    percentOfAccount := scaled idea.maxLoss.percentOfAccount
    notional := scaled idea.sizingRecommendation.notional }

namespace PaperPosition

variable (env : TradeEnv)

/-- The accounting record of one reduction. -/
def reductionRecord (projected : PaperPosition) (fact : ReductionFact) :
    Exposure × CloseoutAttribution :=
  let idea := projected.idea
  let portion := { scaledIdea idea (fact.quantity / projected.entryQuantity) with
    notional := some (fact.quantity * projected.entryPrice) }
  (portion,
    { decisionId := idea.decisionId
      timestamp := fact.timestamp
      actorType := .system
      actorId := fact.source
      terminalEventId := fact.operationId
      recordHash := env.recordHash idea
      resolution := fact.resolution
      -- The loss snapshot keeps the equity denominator of the approval.
      maxLoss := idea.maxLoss.snapshot
      realizedProfitLossAmount := some (projected.realizedAmount fact)
      realizedProfitLossPercent := none
      realizedProfitLossUnavailableReason := ""
      evidence :=
        ["position_reduction:" ++ fact.operationId,
          "quantity=" ++ env.showValue fact.quantity,
          "entry_price=" ++ env.showValue projected.entryPrice,
          "exit_price=" ++ env.showValue fact.price, "source=" ++ fact.source]
      realized := .inl rfl })

end PaperPosition

/-- `reduction_records`: a per-fill view, not persisted closeouts. -/
def TradeState.reductionRecords (env : TradeEnv) :
    Query (List (Exposure × CloseoutAttribution)) :=
  fun store => do
    let positions ← store.positions env
    .ok (positions.values.flatMap fun projected =>
      projected.reductions.map (projected.reductionRecord env))

end GptTrader
