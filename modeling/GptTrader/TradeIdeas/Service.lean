import GptTrader.TradeIdeas.Kernel

/-!
# The lifecycle operations of the trade-idea service

`trade_ideas/service.py`: proposals, reviews, the approval sweep, expiries,
submissions, fills and closeouts.  Every action loads the audited record,
appends one checked event and returns the view.
-/

namespace GptTrader

namespace ServiceTx

variable (env : TradeEnv)

/-- `append_audit` without a venue. -/
def appendAction (idea : TradeIdea) (action : AuditAction)
    (actorType : ActorType) (attribution : Attribution)
    (evidence : List String) : ServiceTx Unit :=
  appendAudit env idea action actorType attribution.actorId attribution.reason
    evidence "" ""

def get (decisionId : String) : ServiceTx TradeIdeaView :=
  ask (TradeState.view env decisionId)

section Proposals

def requireDefaultPreapprovalBrokerTicket (idea : TradeIdea) :
    Except ServiceError Unit :=
  ensure (idea.brokerTicket.venue = .none ∧ idea.brokerTicket.status = .notCreated)
    (.about .preApprovalTicket "broker_ticket"
      ("Trade ideas entering proposed must omit broker_ticket or use " ++
        "broker_ticket venue='none' and status='not_created' before human " ++
        "approval; got venue='" ++ idea.brokerTicket.venue.value ++
        "', status='" ++ idea.brokerTicket.status.value ++ "'"))

/-- The identifier is new. -/
def requireNewDecisionId (decisionId : String) : Query Unit :=
  fun store =>
    ensure (store.latest.get? decisionId = none ∧
        store.audit.currentState decisionId = none)
      (.about .duplicateIdea "decision_id"
        ("Trade idea decision_id '" ++ decisionId ++ "' already exists; use " ++
          "resubmit after requested changes"))

/-- The checks of a proposal. -/
def validateNewProposal (idea : TradeIdea) : Query Unit :=
  fun store => do
    requireDefaultPreapprovalBrokerTicket idea
    requireNewDecisionId idea.decisionId store

/-- `validate_new_proposals`, after the ids seen so far. -/
def validateNewProposals (seen : List String) : List TradeIdea → Query Unit
  | [] => fun _ => .ok ()
  | idea :: rest => fun store => do
      ensure (idea.decisionId ∉ seen)
        (.about .duplicateIdea "decision_id"
          ("Trade idea decision_id '" ++ idea.decisionId ++ "' appears more " ++
            "than once in the proposal batch"))
      validateNewProposal idea store
      validateNewProposals (idea.decisionId :: seen) rest store

/-- The checks of a resubmission. -/
def validateResubmission (idea : TradeIdea) : Query Unit :=
  fun store => do
    requireDefaultPreapprovalBrokerTicket idea
    let _ ← store.requireIdea env idea.decisionId
    let current := store.audit.currentState idea.decisionId
    ensure (current = some .needsChanges)
      (.about .invalidTransition "before_state"
        ("Trade idea '" ++ idea.decisionId ++ "' must be in state " ++
          "'needs_changes' before resubmit; got '" ++ stateText current ++ "'"))
    validateTransition current .proposed

/-- A proposal recorded with its version. -/
def recordProposal (idea : TradeIdea) (actorType : ActorType)
    (attribution : Attribution) (evidence : List String) :
    ServiceTx TradeIdeaView := do
  saveRecord env idea
  appendAction env idea .proposed actorType attribution evidence
  get env idea.decisionId

/-- An idea proposed. -/
def propose (idea : TradeIdea) (actorType : ActorType)
    (attribution : Attribution) (evidence : List String) :
    ServiceTx TradeIdeaView := do
  ask (validateNewProposal idea)
  recordProposal env idea actorType attribution evidence

def proposeBatch (ideas : List TradeIdea) (actorType : ActorType)
    (attribution : Attribution) (evidence : List String) :
    ServiceTx (List TradeIdeaView) := do
  ask (validateNewProposals [] ideas)
  Tx.forEach ideas fun idea => propose env idea actorType attribution evidence

/-- A changed idea proposed again. -/
def resubmit (idea : TradeIdea) (actorType : ActorType)
    (attribution : Attribution) : ServiceTx TradeIdeaView := do
  ask (validateResubmission env idea)
  recordProposal env idea actorType attribution []

end Proposals

section Actions

/-- An action recorded as an event. -/
def recordAction (decisionId : String) (action : AuditAction)
    (actorType : ActorType) (attribution : Attribution) :
    ServiceTx TradeIdeaView := do
  let idea ← ask (TradeState.requireIdea env decisionId)
  appendAction env idea action actorType attribution []
  get env decisionId

def requestChanges (decisionId : String) (attribution : Attribution) :
    ServiceTx TradeIdeaView :=
  recordAction env decisionId .changed .human attribution

def reject (decisionId : String) (actorType : ActorType)
    (attribution : Attribution) : ServiceTx TradeIdeaView :=
  recordAction env decisionId .rejected actorType attribution

def cancel (decisionId : String) (actorType : ActorType)
    (attribution : Attribution) : ServiceTx TradeIdeaView :=
  recordAction env decisionId .cancelled actorType attribution

def expire (decisionId : String) (actorType : ActorType)
    (attribution : Attribution) : ServiceTx TradeIdeaView :=
  recordAction env decisionId .expired actorType attribution

/-- Membership in `EXPIRABLE_STATES`. -/
def expirable (state : TradeIdeaState) : Bool :=
  decide (state = .proposed ∨ state = .needsChanges ∨ state = .approved)

def dueForExpiry (mode : AutonomyMode) (budget : RiskBudget) (now : ℤ)
    (view : TradeIdeaView) : Bool :=
  let expired := view.idea.timeHorizon.expiresAt.any fun expiresAt =>
    decide (expiresAt ≤ now)
  let started := TradeState.reviewStart view.events
  let latency := ApprovalPolicy.reviewLatencyViolation env mode started budget
    now (reviewDeadline env view.idea started budget)
  expirable view.state && (expired || latency.isSome) &&
    sessionIsOpen env view.idea now

/-- The ideas past their time, expired. -/
def expireDueIdeas (actorType : ActorType) (attribution : Attribution) :
    ServiceTx (List TradeIdeaView) := do
  let moment ← now env
  let budget ← ask TradeState.peekBudget
  let resolution ← ask (TradeState.peekAutonomy env)
  let views ← ask (TradeState.listViews env)
  Tx.forEach (views.filter (dueForExpiry env resolution.mode budget moment))
    fun view => expire env view.idea.decisionId actorType attribution

end Actions

section Approvals

/-- `approve`: a denial raises, an admission is recorded. -/
def approve (decisionId : String) (attribution : Attribution) :
    ServiceTx TradeIdeaView := do
  let idea ← ask (TradeState.requireIdea env decisionId)
  let check ← checkApproval env idea .human
  if check.admitted then do
    recordApproval env idea check attribution []
    get env decisionId
  else
    Tx.raise (.refusal
      ("Approval of '" ++ decisionId ++ "' refused: " ++
        "; ".intercalate check.violations) check.violations)

inductive SweepOutcome where
  | approved (view : TradeIdeaView)
  | skipped (decisionId : String) (violations : List String)

structure AutoApprovalSweepResult where
  evaluatedAt : ℤ
  resolution : AutonomyResolution
  outcomes : List SweepOutcome

def skippedAttribution (actorId : String) : Attribution :=
  { actorId := actorId
    reason := "auto-approval: skipped because approval-policy violations remain" }

def approvedAttribution (actorId : String) (check : KernelCheck) :
    Except ServiceError Attribution := do
  let (budget, _) ← check.requireApprovalInputs
  .ok
    { actorId := actorId
      reason := "auto-approval: zero approval-policy violations inside the " ++
        "budget envelope of risk budget version " ++ toString budget.version }

/-- One idea of the automatic approval. -/
def sweepCandidate (actorId : String) (idea : TradeIdea) :
    ServiceTx SweepOutcome := do
  let check ← checkApproval env idea .system
  if check.admitted then do
    let attribution ← lift (approvedAttribution actorId check)
    let evidence ← lift (check.admissionEvidence env)
    recordApproval env idea check attribution evidence
    let view ← get env idea.decisionId
    pure (.approved view)
  else do
    recordDeniedApproval env idea check (skippedAttribution actorId)
    pure (.skipped idea.decisionId check.violations)

def lastUpdate (view : TradeIdeaView) : ℤ :=
  (view.events.getLast?.map AuditEvent.timestamp).getD 0

def sweepCandidates : Query (List TradeIdeaView) :=
  fun store => do
    let views ← store.listViewsIn env .proposed
    .ok (views.insertionSort fun left right =>
      lastUpdate left < lastUpdate right ∨
        (lastUpdate left = lastUpdate right ∧
          left.idea.decisionId ≤ right.idea.decisionId))

/-- `auto_approve_sweep`, given the operator's feature flag. -/
def autoApproveSweep (enabled : Bool) (actorId : String) :
    ServiceTx AutoApprovalSweepResult :=
  if enabled then do
    let moment ← now env
    let resolution ← decisionAutonomy env moment none none
    let violations := autonomyResolutionViolations resolution ++
      violationIf (resolution.mode ≠ .boundedAutonomy)
        ("auto-approval requires audited autonomy mode 'bounded_autonomy'; " ++
          "resolved '" ++ resolution.mode.value ++ "' (source=" ++
          resolution.source.value ++ ")")
    if violations = [] then do
      let candidates ← ask (sweepCandidates env)
      let outcomes ← Tx.forEach candidates fun candidate =>
        sweepCandidate env actorId candidate.idea
      pure
        { evaluatedAt := moment
          resolution := resolution
          outcomes := outcomes }
    else
      Tx.raise (.refusal
        ("Auto-approval sweep refused: " ++ "; ".intercalate violations)
        violations)
  else
    let violation := "auto-approval feature flag is off (default); set " ++
      "GPT_TRADER_IDEAS_AUTO_APPROVAL=1 to enable the Stage 2 sweep"
    Tx.raise (.refusal ("Auto-approval sweep refused: " ++ violation) [violation])

end Approvals

section Execution

def validateAuditVenue (venue : String) : Except ServiceError Unit :=
  ensure (venue = "coinbase" ∨ venue = "manual" ∨ venue = "paper")
    (.about .validation "venue"
      ("Unsupported trade-idea venue '" ++ venue ++
        "'; expected one of: coinbase, manual, paper"))

/-- Where and under which order an action happened. -/
structure VenueOrder where
  venue : String
  externalOrderId : String

def paperEntry (decisionId : String) : Query (Option PaperEntry) :=
  fun store => do
    let entries ← store.paperEntries env
    .ok (entries.find? fun entry => decide (entry.decisionId = decisionId))

/-- The journal holds the order's intent. -/
def requirePaperIntent (idea : TradeIdea) (venue : String) : Query Unit :=
  fun store => do
    let refused := ServiceError.plain .invalidTransition
      "Targeted submission requires an admitted paper intent"
    let entry ← paperEntry env idea.decisionId store
    match entry with
    | none => .error refused
    | some entry => do
        ensure (venue = "paper") refused
        validateBinding env entry idea

def requirePaperReceipt (idea : TradeIdea) (venue : String) :
    Query PaperReceipt :=
  fun store => do
    let refused := ServiceError.plain .invalidTransition
      "Targeted fill requires a durable paper receipt"
    let entry ← paperEntry env idea.decisionId store
    match entry with
    | none => .error refused
    | some entry =>
        match entry.receipt with
        | none => .error refused
        | some receipt => do
            ensure (venue = "paper" ∧ receipt.filled = true) refused
            validateBinding env entry idea
            .ok receipt

/-- The audited fill is the receipt's. -/
def requireFillMatches (view : TradeIdeaView) (receipt : PaperReceipt) :
    Except ServiceError Unit :=
  ensure
    (((recordedFillFromView env view).any fun fill =>
      decide (ExecutionSnapshot.FillMatches fill receipt)) = true)
    (.integrity "Targeted audit fill conflicts with durable receipt")

/-- An approved idea submitted. -/
def recordSubmission (decisionId : String) (actorType : ActorType)
    (attribution : Attribution) (order : VenueOrder) (evidence : List String) :
    ServiceTx TradeIdeaView := do
  lift (validateAuditVenue order.venue)
  let idea ← ask (TradeState.requireIdea env decisionId)
  ask fun store =>
    if idea.reducing then requirePaperIntent env idea order.venue store
    else .ok ()
  appendAudit env idea .submitted actorType attribution.actorId
    attribution.reason evidence order.venue order.externalOrderId
  get env decisionId

/-- A submitted idea filled. -/
def recordFill (decisionId : String) (actorType : ActorType)
    (attribution : Attribution) (order : VenueOrder) (evidence : List String) :
    ServiceTx TradeIdeaView := do
  lift (validateAuditVenue order.venue)
  let idea ← ask (TradeState.requireIdea env decisionId)
  let receipt ← ask fun store =>
    if idea.reducing then
      (requirePaperReceipt env idea order.venue store).map some
    else .ok none
  appendAudit env idea .filled actorType attribution.actorId
    attribution.reason evidence order.venue order.externalOrderId
  let view ← get env decisionId
  lift (match receipt with
    | none => .ok ()
    | some receipt => requireFillMatches env view receipt)
  pure view

end Execution

section Closeouts

/-- What a closeout records of the resolution. -/
structure Resolved where
  resolution : CloseoutResolution
  amount : Option ℚ
  percent : Option ℚ
  unavailableReason : String
  evidence : List String
  resolvedAt : Option ℤ

/-- The time a closeout is resolved at: that of the last reduction fact, when
the target was reduced. -/
def resolutionTime (projected : Option PaperPosition) (resolved : Resolved) :
    Except ServiceError (Option ℤ) := do
  let refused := ServiceError.plain .invalidTransition
  ensure ((projected.any fun projected =>
      decide (projected.reserved ≠ 0)) = false)
    (refused "Pending reduction reservation prevents final attribution")
  match projected.bind PaperPosition.lastReduction, projected with
  | some factTime, some projected => do
      ensure (∀ time ∈ resolved.resolvedAt, time = factTime)
        (refused "Resolution time must match final reduction fact")
      ensure (projected.remaining = 0 ∧
          resolved.amount = some projected.realizedTotal)
        (refused "Final closeout must match fully closed reduction facts")
      .ok (some factTime)
  | _, _ => do
      ensure (resolved.resolvedAt = none)
        (refused "Explicit resolution time requires durable reduction facts")
      .ok none

/-- The closeout of a terminal view. -/
def closeoutOf (view : TradeIdeaView) (terminal : AuditEvent) (timestamp : ℤ)
    (actorType : ActorType) (actorId : String) (resolved : Resolved) :
    Except ServiceError CloseoutAttribution :=
  if realized : resolved.amount.isSome ∨ resolved.percent.isSome ∨
      isBlank resolved.unavailableReason = false then
    .ok
      { decisionId := view.idea.decisionId
        timestamp := timestamp
        actorType := actorType
        actorId := actorId
        terminalEventId := terminal.eventId
        recordHash := terminal.recordHash
        resolution := resolved.resolution
        maxLoss := view.idea.maxLoss.snapshot
        realizedProfitLossAmount := resolved.amount
        realizedProfitLossPercent := resolved.percent
        realizedProfitLossUnavailableReason := resolved.unavailableReason
        evidence := resolved.evidence
        realized := realized }
  else .error (.plain (.python .valueError)
    "realized profit/loss requires amount, percent, or an unavailable reason")

/-- What a closeout is checked against: the terminal view, its last event and
the time it is resolved at. -/
def closeoutBasis (decisionId : String) (resolved : Resolved) :
    Query (TradeIdeaView × AuditEvent × Option ℤ) :=
  fun store => do
    let view ← store.view env decisionId
    ensure (view.state.terminal = true)
      (.about .invalidTransition "after_state"
        ("Trade idea '" ++ decisionId ++ "' must be terminal before closeout " ++
          "attribution; got '" ++ view.state.value ++ "'"))
    ensure (view.idea.positionOperation = none)
      (.plain .invalidTransition
        "A reduction is accounted against its target entry")
    let positions ← store.positions env
    let time ← resolutionTime (positions.get? decisionId) resolved
    match view.events.getLast? with
    | none => .error (.escaped .keyError)
    | some terminal => .ok (view, terminal, time)

/-- How a position ended. -/
def recordCloseoutAttribution (decisionId : String) (actorType : ActorType)
    (actorId : String) (resolved : Resolved) :
    ServiceTx CloseoutAttribution := do
  let (view, terminal, time) ← ask (closeoutBasis env decisionId resolved)
  let timestamp ← givenOr time (now env)
  let record ← lift (closeoutOf view terminal timestamp actorType actorId resolved)
  appendCloseout record
  pure record

def expiredResolution (reason : String) (evidence : List String) : Resolved :=
  { resolution := .expiry
    amount := none
    percent := none
    unavailableReason := reason
    evidence := evidence
    resolvedAt := none }

/-- Expired positions get their closeouts. -/
def autoAttributeExpiredIdeas (attribution : Attribution)
    (evidence : List String) : ServiceTx (List CloseoutAttribution) := do
  let views ← ask fun store => store.listViewsIn env .expired
  let missing := views.filter fun view =>
    !view.idea.reducing && view.closeoutAttribution.isNone
  Tx.forEach missing fun view =>
    recordCloseoutAttribution env view.idea.decisionId .system
      attribution.actorId (expiredResolution attribution.reason evidence)

end Closeouts

end ServiceTx

end GptTrader
