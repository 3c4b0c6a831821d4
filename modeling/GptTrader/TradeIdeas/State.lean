import GptTrader.TradeIdeas.Autonomy
import GptTrader.TradeIdeas.Closeout

/-!
# The trade-idea state store

The durable state of `trade_ideas/persistence.py` behind `TradeIdeaService`:
record versions, the latest version of every decision, and one append-only
stream for each log.  An operation is a computation over this state and a counter
of the readings it took from the clock and the event-id source; the transaction
around it rolls back the durable state only.
-/

namespace GptTrader

/-- Why a session calendar cannot answer: the instrument does not parse, or the
calendar cannot evaluate the moment. -/
inductive CalendarError where
  | instrument (message : String)
  | domain (message : String)

def CalendarError.message : CalendarError → String
  | .instrument message => message
  | .domain message => message

/-- A trading session calendar.  `advance` is `advance_by_open_time`, by whole
hours. -/
structure TradingCalendar where
  sessionId : String
  isOpen : ℤ → Except CalendarError Bool
  sessionDate : ℤ → Except CalendarError String
  nextOpen : ℤ → Except CalendarError (Option ℤ)
  advance : ℤ → ℕ → Except CalendarError ℤ

/-- What the service is given from outside: the clock, the event-id source, the
calendars, the record hash and the text conversions.  `showPlain` is
`_format_decimal`, `showDay` the date of `trading_day`. -/
structure TradeEnv where
  formats : TextFormats
  showPlain : ℚ → String
  showRepr : String → String
  showDay : ℤ → String
  journal : ExecutionJournal.JournalContext
  recordHash : TradeIdea → String
  calendar : String → Except CalendarError TradingCalendar
  clock : ℕ → ℤ
  eventId : ℕ → String

namespace TradeEnv

variable (env : TradeEnv)

/-- `str` of a decimal. -/
def showValue (value : ℚ) : String :=
  env.formats.showDecimal (.finite value)

/-- `str` of an optional decimal. -/
def showOptional (value : Option ℚ) : String :=
  (value.map env.showValue).getD "None"

/-- `isoformat` of an aware datetime. -/
def showTime (instant : ℤ) : String :=
  env.formats.showDateTime (.utc instant)

/-- The text of an `InstrumentParseError`. -/
def ambiguousInstrument (instrument : String) : String :=
  "ambiguous instrument string " ++ env.showRepr instrument ++
    ": expected an uppercase BASE-QUOTE crypto pair (e.g. 'BTC-USD') or a " ++
    "bare uppercase equity ticker (e.g. 'AAPL')"

end TradeEnv

/-- The durable state. -/
structure TradeState where
  versions : Dict (String × String) TradeIdea
  latest : Dict String String
  audit : AuditLog
  budget : RiskBudgetLog
  autonomy : List StoredLine
  closeouts : CloseoutAttributionLog
  journal : List StoredLine

def TradeState.empty : TradeState :=
  { versions := Dict.empty
    latest := Dict.empty
    audit := []
    budget := []
    autonomy := []
    closeouts := []
    journal := [] }

/-- The durable state with the number of clock and event-id readings taken. -/
structure ServiceState where
  store : TradeState
  readings : ℕ

def ServiceState.rollback (before after : ServiceState) : ServiceState :=
  { store := before.store
    readings := after.readings }

abbrev ServiceTx (α : Type) : Type :=
  Tx ServiceError ServiceState α

/-- A record with its workflow state and history. -/
structure TradeIdeaView where
  idea : TradeIdea
  state : TradeIdeaState
  events : List AuditEvent
  closeoutAttribution : Option CloseoutAttribution

/-- A reading of the store. -/
abbrev Query (α : Type) : Type :=
  TradeState → Except ServiceError α

namespace TradeState

variable (env : TradeEnv)

/-- The state after a record version was inserted, unless it was there, and made
the latest of its decision. -/
def saved (store : TradeState) (idea : TradeIdea) : TradeState :=
  let key := (idea.decisionId, env.recordHash idea)
  { store with
    versions :=
      if (store.versions.get? key).isSome then store.versions
      else store.versions.set key idea
    latest := store.latest.set idea.decisionId (env.recordHash idea) }

/-- The record of a hash. -/
def loadRecordVersion (decisionId recordHash : String) : Query TradeIdea :=
  fun store =>
    let named := "Stored trade idea '" ++ decisionId ++ "' version '" ++
      recordHash ++ "'"
    match store.versions.get? (decisionId, recordHash) with
    | none => .error (.about .auditIntegrity "record_hash"
        ("Stored trade idea '" ++ decisionId ++
          "' is missing audit record_hash '" ++ recordHash ++ "'"))
    | some idea =>
        if idea.decisionId = decisionId then
          if env.recordHash idea = recordHash then .ok idea
          else .error (.about .auditIntegrity "record_hash"
            (named ++ " hashes to '" ++ env.recordHash idea ++ "'"))
        else .error (.about .auditIntegrity "decision_id"
          (named ++ " contains decision_id '" ++ idea.decisionId ++ "'"))

def verifyLatestRecordIsAudited (idea : TradeIdea) : Query Unit :=
  fun store =>
    match store.audit.lastEvent idea.decisionId with
    | none => .ok ()
    | some event =>
        if env.recordHash idea = event.recordHash then .ok ()
        else .error (.about .auditIntegrity "record_hash"
          ("Stored trade idea '" ++ idea.decisionId ++ "' latest record hash '" ++
            env.recordHash idea ++
            "' does not match latest audit record_hash '" ++ event.recordHash ++
            "'"))

def requireIdea (decisionId : String) : Query TradeIdea :=
  fun store =>
    match store.latest.get? decisionId with
    | none => .error (.about .unknownIdea "decision_id"
        ("No trade idea stored for decision_id '" ++ decisionId ++ "'"))
    | some recordHash => do
        let idea ← store.loadRecordVersion env decisionId recordHash
        store.verifyLatestRecordIsAudited env idea
        .ok idea

def closeoutMismatch (closeout : CloseoutAttribution) (current : AuditEvent)
    (maxLoss : MaxLossSnapshot) : Option ServiceError :=
  let named := "Closeout attribution for decision_id '" ++
    closeout.decisionId ++ "' does not match the "
  if closeout.terminalEventId ≠ current.eventId then
    some (.about .closeoutIntegrity "terminal_event_id"
      (named ++ "current terminal audit event"))
  else if closeout.recordHash ≠ current.recordHash then
    some (.about .closeoutIntegrity "record_hash"
      (named ++ "current terminal audit event"))
  else if closeout.maxLoss.amount ≠ maxLoss.amount then
    some (.about .closeoutIntegrity "max_loss.amount"
      (named ++ "audited max-loss snapshot from the current terminal record"))
  else if closeout.maxLoss.percentOfAccount ≠ maxLoss.percentOfAccount then
    some (.about .closeoutIntegrity "max_loss.percent_of_account"
      (named ++ "audited max-loss snapshot from the current terminal record"))
  else if closeout.maxLoss.assumptions ≠ maxLoss.assumptions then
    some (.about .closeoutIntegrity "max_loss.assumptions"
      (named ++ "audited max-loss snapshot from the current terminal record"))
  else none

/-- `_validated_closeout_attribution`, given the last event of the idea. -/
def validatedCloseoutAttribution (idea : TradeIdea) (current : AuditEvent) :
    Query (Option CloseoutAttribution) :=
  fun store => do
    match ← store.closeouts.get idea.decisionId with
    | none => .ok none
    | some closeout =>
        if current.afterState.terminal then
          match closeoutMismatch closeout current idea.maxLoss.snapshot with
          | none => .ok (some closeout)
          | some error => .error error
        else .error (.about .closeoutIntegrity "after_state"
          ("Closeout attribution for decision_id '" ++ idea.decisionId ++
            "' cannot be current because latest audit state is '" ++
            current.afterState.value ++ "', not terminal"))

/-- `get`. -/
def view (decisionId : String) : Query TradeIdeaView :=
  fun store => do
    let idea ← store.requireIdea env decisionId
    match store.audit.lastEvent decisionId with
    | none => .error (.about .auditIntegrity "decision_id"
        ("Stored trade idea '" ++ decisionId ++ "' has no audit trail"))
    | some last =>
        let closeout ← store.validatedCloseoutAttribution idea last
        .ok
          { idea := idea
            state := last.afterState
            events := store.audit.eventsOf decisionId
            closeoutAttribution := closeout }

/-- `list_decision_ids`, in the order of the store. -/
def decisionIds (store : TradeState) : List String :=
  store.latest.keys.insertionSort fun left right => left ≤ right

/-- `list_views()`. -/
def listViews : Query (List TradeIdeaView) :=
  fun store => store.decisionIds.mapM fun decisionId =>
    store.view env decisionId

/-- `list_views(state)`. -/
def listViewsIn (state : TradeIdeaState) : Query (List TradeIdeaView) :=
  fun store => do
    let views ← store.listViews env
    .ok (views.filter fun view => decide (view.state = state))

/-- `_latest_audit_events_by_decision_id`: decisions in the order of their first
event. -/
def latestAuditEvents (store : TradeState) : Dict String AuditEvent :=
  store.audit.foldl (fun latest event => latest.set event.decisionId event)
    Dict.empty

def openApprovedCount : Query ℕ :=
  fun store => do
    let approved := store.latestAuditEvents.entries.filter fun entry =>
      decide (entry.2.afterState = .approved)
    let ideas ← approved.mapM fun entry => store.requireIdea env entry.1
    .ok ideas.length

/-- `_review_started_at_from_events`. -/
def reviewStart (events : List AuditEvent) : Option ℤ :=
  match events.getLast? with
  | none => none
  | some last =>
      if last.afterState = .proposed then
        (events.reverse.find? fun event =>
          decide (event.action = .proposed ∧ event.afterState = .proposed)).map
            AuditEvent.timestamp
      else none

def reviewStartedAt (store : TradeState) (decisionId : String) : Option ℤ :=
  reviewStart (store.audit.eventsOf decisionId)

/-- `closeout_terminal_times`: a FILLED event is the entry, not the close. -/
def closeoutTerminalTimes (store : TradeState) : List (String × ℤ) :=
  (store.audit.filter fun event => decide (event.action ≠ .filled)).map
    fun event => (event.eventId, event.timestamp)

/-- The budget in force. -/
def peekBudget : Query RiskBudget :=
  fun store => store.budget.current.map fun budget =>
    budget.getD defaultRiskBudget

def peekAutonomy : Query AutonomyResolution :=
  fun store => AutonomyLog.resolveAutonomy env.formats store.autonomy

end TradeState

namespace ServiceTx

variable (env : TradeEnv)

def ask {α : Type} (query : Query α) : ServiceTx α :=
  Tx.read fun state => query state.store

def alter (change : TradeState → Except ServiceError TradeState) :
    ServiceTx Unit :=
  Tx.evolve fun state =>
    (change state.store).map fun store => { state with store := store }

/-- `self._now()`. -/
def now : ServiceTx ℤ :=
  fun state =>
    (.ok (env.clock state.readings),
      { state with readings := state.readings + 1 })

/-- `new_event_id()`. -/
def newEventId : ServiceTx String :=
  fun state =>
    (.ok (env.eventId state.readings),
      { state with readings := state.readings + 1 })

/-- `_store.save`: an immutable version is never replaced by another record. -/
def saveRecord (idea : TradeIdea) : ServiceTx Unit :=
  alter fun store =>
    match store.versions.get? (idea.decisionId, env.recordHash idea) with
    | none => .ok (store.saved env idea)
    | some prior =>
        if prior = idea then .ok (store.saved env idea)
        else .error (.plain (.python .valueError)
          "Record hash collision or changed immutable version")

def recordEvent (event : AuditEvent) : ServiceTx Unit :=
  alter fun store =>
    (store.audit.append event).map fun audit => { store with audit := audit }

def appendBudget (entry : BudgetLogEntry) : ServiceTx Unit :=
  alter fun store =>
    (store.budget.append entry).map fun budget => { store with budget := budget }

def appendAutonomy (entry : AutonomyStateEntry) : ServiceTx Unit :=
  alter fun store =>
    (AutonomyLog.append env.formats store.autonomy entry).map fun autonomy =>
      { store with autonomy := autonomy }

def appendCloseout (record : CloseoutAttribution) : ServiceTx Unit :=
  alter fun store =>
    (store.closeouts.append record).map fun closeouts =>
      { store with closeouts := closeouts }

def journalWrite (writer : ExecutionJournal.JournalTx Unit) : ServiceTx Unit :=
  fun state =>
    match writer state.store.journal with
    | (.ok (), journal) =>
        (.ok (), { state with store := { state.store with journal := journal } })
    | (.error error, journal) =>
        (.error (.plain (.journal error) error.message),
          { state with store := { state.store with journal := journal } })

/-- The next event of an idea. -/
def appendAudit (idea : TradeIdea) (action : AuditAction)
    (actorType : ActorType) (actorId reason : String)
    (evidence : List String) (venue externalOrderId : String) :
    ServiceTx Unit := do
  let eventId ← newEventId env
  let timestamp ← now env
  let before ← ask fun store => .ok (store.audit.currentState idea.decisionId)
  recordEvent
    { eventId := eventId
      timestamp := timestamp
      decisionId := idea.decisionId
      actorType := actorType
      actorId := actorId
      action := action
      beforeState := before
      afterState := action.afterState
      reason := reason
      recordHash := env.recordHash idea
      evidence := evidence
      venue := venue
      externalOrderId := externalOrderId }

end ServiceTx

end GptTrader
