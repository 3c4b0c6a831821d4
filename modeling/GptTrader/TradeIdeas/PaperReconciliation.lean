import GptTrader.TradeIdeas.Service
import Mathlib.Data.List.Infix

/-!
# Reconciling paper fills into the audit trail

`trade_ideas/paper_reconciliation.py`.  Every fill event is matched to an idea by
its decision id, by its client order id or, without either, by a unique symbol
and side among the ideas still waiting for a fill.  An applied run records the
matches through the service; a dry run only remembers them.
-/

namespace GptTrader

/-- Normalized paper or mock fill. -/
structure PaperFillEvent where
  orderId : String
  clientOrderId : String
  symbol : String
  side : String
  quantity : Option ℚ
  price : Option ℚ
  status : String
  decisionId : Option String
  sourceIndex : Option ℤ
  filledAt : Option ℤ
  deriving DecidableEq

def PaperFillEvent.externalOrderId (event : PaperFillEvent) : String :=
  if event.orderId = "" then event.clientOrderId else event.orderId

namespace PaperReconciliation

/-- How a fill was matched. -/
inductive MatchMethod where
  | decisionId
  | clientOrderId
  | symbolSide
  deriving DecidableEq

inductive EntryStatus where
  | matched
  | unmatched
  | skipped
  deriving DecidableEq

/-- One decision about a fill event. -/
structure Entry where
  event : PaperFillEvent
  status : EntryStatus
  reason : String
  decisionId : Option String
  matchMethod : Option MatchMethod
  recordedSubmission : Bool
  recordedFill : Bool
  finalState : Option TradeIdeaState
  context : List (String × Option String)
  deriving DecidableEq

def Entry.missing (event : PaperFillEvent) (reason : String) : Entry :=
  { event := event
    status := .unmatched
    reason := reason
    decisionId := none
    matchMethod := none
    recordedSubmission := false
    recordedFill := false
    finalState := none
    context := [] }

def Entry.settled (event : PaperFillEvent) (status : EntryStatus)
    (reason decisionId : String) (method : MatchMethod)
    (finalState : TradeIdeaState) (context : List (String × Option String)) :
    Entry :=
  { event := event
    status := status
    reason := reason
    decisionId := some decisionId
    matchMethod := some method
    recordedSubmission := false
    recordedFill := false
    finalState := some finalState
    context := context }

/-- What `_match_event` answers. -/
inductive FillMatch where
  | found (decisionId : String) (method : MatchMethod) (reason : String)
  | missing (reason : String)

/-- The state of a reconciliation pass. -/
structure Pass where
  views : Dict String TradeIdeaView
  previewFilled : List String
  auditedOrderIds : List String

/-- What a reconciliation reports. -/
structure Report where
  mode : String
  matched : List Entry
  unmatched : List Entry
  skipped : List Entry
  deriving DecidableEq

section Matching

variable (env : TradeEnv)

/-- `_safe_text_or_none`. -/
def safeText (text : String) : Option String :=
  if strip text = "" then none else some (strip text)

def expectedSide (view : TradeIdeaView) : Option String :=
  match view.idea.direction with
  | .long => some (if view.idea.reducing then "sell" else "buy")
  | .short => some (if view.idea.reducing then "buy" else "sell")
  | _ => none

/-- The fill is of the idea's instrument. -/
def symbolMatches (view : TradeIdeaView) (event : PaperFillEvent) : Bool :=
  decide (event.symbol ≠ "" ∧
    env.formats.upper view.idea.instrument = env.formats.upper event.symbol)

/-- The fill is on the idea's opening side. -/
def sideMatches (view : TradeIdeaView) (event : PaperFillEvent) : Bool :=
  decide (some (env.formats.lower event.side) = expectedSide view)

def submittedExternalOrderId (view : TradeIdeaView) : Option String :=
  (view.events.reverse.find? fun audited =>
    decide (audited.action = .submitted ∧ audited.externalOrderId ≠ "")).map
      AuditEvent.externalOrderId

/-- `_submission_order_id_allows`: a submitted idea is filled as the order it
was submitted as. -/
def submissionOrderIdAllows (view : TradeIdeaView) (event : PaperFillEvent) :
    Bool :=
  if view.state = .submitted then
    match submittedExternalOrderId view with
    | none => true
    | some orderId => decide (event.externalOrderId = orderId)
  else true

def recordable (view : TradeIdeaView) : Bool :=
  decide (view.state = .approved ∨ view.state = .submitted)

def recordableViews (pass : Pass) : List TradeIdeaView :=
  pass.views.values.filter fun view =>
    recordable view && decide (view.idea.decisionId ∉ pass.previewFilled)

/-- `_client_order_id_contains_decision_id`. -/
def clientOrderIdContains (clientOrderId decisionId : String) : Bool :=
  decide (clientOrderId = decisionId) ||
    ['-', '_', ':'].any fun separator =>
      let client := clientOrderId.toList
      let decision := decisionId.toList
      (decision ++ [separator]).isPrefixOf client ||
        (separator :: decision).isSuffixOf client ||
        decide (separator :: decision ++ [separator] <:+: client)

/-- The decision a client identifier names. -/
def matchClientOrderId (clientOrderId : String) (decisionIds : List String) :
    Option String :=
  if clientOrderId = "" then none
  else if isSafeDecisionId clientOrderId = true ∧ clientOrderId ∈ decisionIds then
    some clientOrderId
  else
    match decisionIds.filter (clientOrderIdContains clientOrderId) with
    | [decisionId] => some decisionId
    | _ => none

def symbolSideMatches (pass : Pass) (event : PaperFillEvent) :
    List TradeIdeaView :=
  (recordableViews pass).filter fun view =>
    symbolMatches env view event && sideMatches env view event &&
      submissionOrderIdAllows view event

def ambiguousReason : String :=
  "multiple approved ideas match symbol/side"

/-- The idea a fill belongs to. -/
def matchEvent (pass : Pass) (event : PaperFillEvent) : FillMatch :=
  match event.decisionId.bind safeText with
  | some decisionId =>
      if (pass.views.get? decisionId).isSome then
        .found decisionId .decisionId "matched explicit decision id"
      else .missing ("explicit decision_id not found: " ++ decisionId)
  | none =>
      match safeText event.clientOrderId with
      | some clientOrderId =>
          -- A client order id that does not resolve is never guessed away.
          match matchClientOrderId event.clientOrderId pass.views.keys with
          | some decisionId =>
              .found decisionId .clientOrderId "matched client_order_id"
          | none => .missing
              ("client_order_id did not match a known trade idea: " ++
                clientOrderId)
      | none =>
          match symbolSideMatches env pass event with
          | [] => .missing "no approved idea matched fill"
          | [view] => .found view.idea.decisionId .symbolSide
              "matched unique approved symbol/side"
          | _ => .missing ambiguousReason

/-- What of the fill contradicts the idea. -/
def matchedPayloadConflict (view : TradeIdeaView) (event : PaperFillEvent) :
    Option (String × List (String × Option String)) :=
  if event.symbol ≠ "" ∧ symbolMatches env view event = false then
    some ("fill symbol conflicts with matched trade idea",
      [("field", some "symbol"), ("event_symbol", some event.symbol),
        ("idea_symbol", some view.idea.instrument)])
  else if event.side ≠ "" ∧ sideMatches env view event = false then
    some ("fill side conflicts with matched trade idea",
      [("field", some "side"), ("event_side", some event.side),
        ("idea_direction", some view.idea.direction.value),
        ("expected_side", expectedSide view)])
  else none

/-- The fill was audited before. -/
def alreadyReconciled (pass : Pass) (view : TradeIdeaView)
    (event : PaperFillEvent) (method : MatchMethod) : Bool :=
  if event.externalOrderId = "" then decide (view.state = .filled)
  else if method = .symbolSide then
    -- An id-less fill may have been recorded on another idea.
    decide (event.externalOrderId ∈ pass.auditedOrderIds)
  else
    view.events.any fun audited =>
      decide (audited.action = .filled ∧
        audited.externalOrderId = event.externalOrderId)

def auditedFillOrderIds (views : List TradeIdeaView) : List String :=
  views.flatMap fun view =>
    (view.events.filter fun audited =>
      decide (audited.action = .filled ∧ audited.externalOrderId ≠ "")).map
        AuditEvent.externalOrderId

def settle (pass : Pass) (event : PaperFillEvent) (decisionId : String)
    (method : MatchMethod) (view : TradeIdeaView) : Option Entry :=
  let settled := fun status reason state context =>
    some (Entry.settled event status reason decisionId method state context)
  let conflict :=
    if method = .symbolSide then none else matchedPayloadConflict env view event
  match conflict with
  | some (reason, context) => settled .unmatched reason view.state context
  | none =>
      if decisionId ∈ pass.previewFilled then
        settled .skipped "trade idea is already terminal filled" .filled []
      else if alreadyReconciled pass view event method = true then
        settled .skipped "fill already recorded on trade-idea audit trail"
          view.state []
      else if view.state = .filled then
        settled .skipped "trade idea is already terminal filled" view.state []
      else if recordable view = false then
        settled .unmatched ("trade idea state is " ++ view.state.value ++
          ", not approved/submitted") view.state []
      else none

end Matching

section Recording

/-- A reconciler's actor and venue. -/
structure Reconciler where
  actorId : String
  venue : String

variable (env : TradeEnv) (reconciler : Reconciler)

def Pass.noted (pass : Pass) (event : PaperFillEvent) : Pass :=
  { pass with
    auditedOrderIds :=
      if event.externalOrderId = "" then pass.auditedOrderIds
      else event.externalOrderId :: pass.auditedOrderIds }

def matchedEntry (event : PaperFillEvent) (decisionId : String)
    (method : MatchMethod) (submitted filled : Bool)
    (finalState : TradeIdeaState) : Entry :=
  { event := event
    status := .matched
    reason :=
      if filled then "recorded paper/mock fill on trade-idea audit trail"
      else "would record paper/mock fill on trade-idea audit trail"
    decisionId := some decisionId
    matchMethod := some method
    recordedSubmission := submitted
    recordedFill := filled
    finalState := some finalState
    context := [] }

/-- `record_submission` in its transaction. -/
def submitFor (event : PaperFillEvent) (decisionId : String) :
    ServiceTx TradeIdeaView :=
  Tx.transaction ServiceState.rollback
    (ServiceTx.recordSubmission env decisionId .system
      { actorId := reconciler.actorId
        reason := "Paper/mock order submitted during reconciliation (" ++
          event.externalOrderId ++ ")" }
      { venue := reconciler.venue
        externalOrderId := event.externalOrderId } [])

/-- `record_fill` in its transaction. -/
def fillFor (event : PaperFillEvent) (decisionId : String) :
    ServiceTx TradeIdeaView :=
  Tx.transaction ServiceState.rollback
    (ServiceTx.recordFill env decisionId .venue
      { actorId := reconciler.actorId
        reason := "Paper/mock fill reconciled from order event (" ++
          event.externalOrderId ++ ")" }
      { venue := reconciler.venue
        externalOrderId := event.externalOrderId }
      (encodeFillEvidence env event.price event.quantity event.filledAt))

/-- An approved idea is submitted first. -/
def submitApproved (event : PaperFillEvent) (decisionId : String)
    (view : TradeIdeaView) : ServiceTx Unit :=
  if view.state = .approved then do
    let _ ← submitFor env reconciler event decisionId
    pure ()
  else pure ()

/-- A matched fill, recorded or previewed. -/
def recordMatch (apply : Bool) (pass : Pass) (event : PaperFillEvent)
    (decisionId : String) (method : MatchMethod) (view : TradeIdeaView) :
    ServiceTx (Pass × Entry) :=
  if apply then do
    submitApproved env reconciler event decisionId view
    let filled ← fillFor env reconciler event decisionId
    pure (({ pass with
        views := pass.views.set decisionId filled } : Pass).noted event,
      matchedEntry event decisionId method (decide (view.state = .approved)) true
        filled.state)
  else
    pure (({ pass with
        previewFilled := decisionId :: pass.previewFilled } : Pass).noted event,
      matchedEntry event decisionId method false false .filled)

/-- One fill of a pass. -/
def reconcileEvent (apply : Bool) (pass : Pass) (event : PaperFillEvent) :
    ServiceTx (Pass × Entry) :=
  match matchEvent env pass event with
  | .missing reason => pure (pass, .missing event reason)
  | .found decisionId method _ =>
      match pass.views.get? decisionId with
      | none => Tx.raise (.escaped .keyError)
      | some view =>
          match settle env pass event decisionId method view with
          | some entry => pure (pass, entry)
          | none => recordMatch env reconciler apply pass event decisionId method
              view

/-- The fills of a pass, in order. -/
def reconcileEach (apply : Bool) (pass : Pass) :
    List PaperFillEvent → ServiceTx (Pass × List Entry)
  | [] => pure (pass, [])
  | event :: rest => do
      let (next, entry) ← reconcileEvent env reconciler apply pass event
      let (last, entries) ← reconcileEach apply next rest
      pure (last, entry :: entries)

def startPass (views : List TradeIdeaView) : Pass :=
  { views := Dict.ofList (views.map fun view => (view.idea.decisionId, view))
    previewFilled := []
    auditedOrderIds := auditedFillOrderIds views }

def reportOf (apply : Bool) (entries : List Entry) : Report :=
  let having := fun status : EntryStatus =>
    entries.filter fun entry => decide (entry.status = status)
  { mode := if apply then "apply" else "dry_run"
    matched := having .matched
    unmatched := having .unmatched
    skipped := having .skipped }

/-- A pass over a list of fills. -/
def reconcileFills (apply : Bool) (fills : List PaperFillEvent) :
    ServiceTx Report := do
  let views ← ServiceTx.ask (TradeState.listViews env)
  let (_, entries) ← reconcileEach env reconciler apply (startPass views) fills
  pure (reportOf apply entries)

end Recording

end PaperReconciliation

end GptTrader
