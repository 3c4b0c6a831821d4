import GptTrader.Library.Replay
import GptTrader.TradeIdeas.ExecutionJournal
import GptTrader.TradeIdeas.Models

/-!
# The workflow state machine and its audit log

`trade_ideas/workflow.py` and `trade_ideas/audit.py`.  The state of an idea is
the state after its last audit event.  An append is checked against that state,
against the state its action leads to and against the allowed transitions;
`verify` makes the same checks over a whole log.
-/

namespace GptTrader

/-- The exception classes of the trade-idea package. -/
inductive ErrorKind where
  | policyViolation
  | invalidTransition
  | auditIntegrity
  | autonomyIntegrity
  | budgetIntegrity
  | closeoutIntegrity
  | duplicateCloseout
  | duplicateIdea
  | unknownIdea
  | preApprovalTicket
  | validation
  | positionAdmission
  | ideaNotExecutable
  | paperExecution
  | journal (error : ExecutionJournal.JournalError)
  | python (error : PyError)
  deriving DecidableEq

/-- What a trade-idea operation raises: the class, the message, the field the
error names and the violations a refusal lists. -/
structure ServiceError where
  kind : ErrorKind
  message : String
  field : Option String
  violations : List String
  deriving DecidableEq

namespace ServiceError

def plain (kind : ErrorKind) (message : String) : ServiceError :=
  { kind := kind
    message := message
    field := none
    violations := [] }

def about (kind : ErrorKind) (field message : String) : ServiceError :=
  { kind := kind
    message := message
    field := some field
    violations := [] }

/-- `PolicyViolationError(message, violations)`. -/
def refusal (message : String) (violations : List String) : ServiceError :=
  { kind := .policyViolation
    message := message
    field := none
    violations := violations }

def escaped (error : PyError) : ServiceError :=
  plain (.python error) ""

def isRefusal (error : ServiceError) : Bool :=
  decide (error.kind = .policyViolation)

end ServiceError

/-- The states of an idea. -/
inductive TradeIdeaState where
  | proposed
  | needsChanges
  | rejected
  | approved
  | submitted
  | filled
  | cancelled
  | expired
  deriving DecidableEq, Repr

namespace TradeIdeaState

def value : TradeIdeaState → String
  | .proposed => "proposed"
  | .needsChanges => "needs_changes"
  | .rejected => "rejected"
  | .approved => "approved"
  | .submitted => "submitted"
  | .filled => "filled"
  | .cancelled => "cancelled"
  | .expired => "expired"

/-- The states that may follow. -/
def allowedTransitions : TradeIdeaState → List TradeIdeaState
  | .proposed => [.proposed, .needsChanges, .approved, .rejected, .expired]
  | .needsChanges => [.proposed, .rejected, .expired]
  -- An execution-gate denial is recorded without moving the idea.
  | .approved => [.approved, .submitted, .cancelled, .expired]
  | .submitted => [.filled, .cancelled]
  | .rejected => []
  | .filled => []
  | .cancelled => []
  | .expired => []

/-- Membership in `TERMINAL_STATES`. -/
def terminal (state : TradeIdeaState) : Bool :=
  state.allowedTransitions.isEmpty

end TradeIdeaState

/-- The name of a state in an error, `none` before the first event. -/
def stateText (state : Option TradeIdeaState) : String :=
  (state.map TradeIdeaState.value).getD "none"

/-- `validate_transition`: records are created in `proposed`. -/
def validateTransition (before : Option TradeIdeaState)
    (after : TradeIdeaState) : Except ServiceError Unit :=
  match before with
  | none =>
      if after = .proposed then .ok ()
      else .error (.about .invalidTransition "after_state"
        ("Trade ideas must be created in state 'proposed', got '" ++
          after.value ++ "'"))
  | some state =>
      if after ∈ state.allowedTransitions then .ok ()
      else .error (.about .invalidTransition "after_state"
        ("Illegal trade-idea transition '" ++ state.value ++ "' -> '" ++
          after.value ++ "'"))

/-- The moves `validate_transition` accepts. -/
def Allowed : Option TradeIdeaState → TradeIdeaState → Prop
  | none, after => after = .proposed
  | some before, after => after ∈ before.allowedTransitions

theorem validateTransition_eq_ok {before : Option TradeIdeaState}
    {after : TradeIdeaState} {result : Unit} :
    validateTransition before after = .ok result ↔ Allowed before after := by
  cases before with
  | none => simp [validateTransition, Allowed]
  | some state => simp [validateTransition, Allowed]

/-- Who acts. -/
inductive ActorType where
  | ai
  | human
  | system
  | venue
  deriving DecidableEq, Repr

def ActorType.value : ActorType → String
  | .ai => "ai"
  | .human => "human"
  | .system => "system"
  | .venue => "venue"

/-- `ActorType(value)`. -/
def ActorType.parse : Json → Except PyError ActorType
  | .str text =>
      if text = "ai" then .ok .ai
      else if text = "human" then .ok .human
      else if text = "system" then .ok .system
      else if text = "venue" then .ok .venue
      else .error .valueError
  | _ => .error .valueError

/-- The actions that are audited. -/
inductive AuditAction where
  | proposed
  | changed
  | autoApprovalSkipped
  | autoExecutionSkipped
  | approved
  | rejected
  | submitted
  | filled
  | cancelled
  | expired
  deriving DecidableEq, Repr

namespace AuditAction

def value : AuditAction → String
  | .proposed => "proposed"
  | .changed => "changed"
  | .autoApprovalSkipped => "auto_approval_skipped"
  | .autoExecutionSkipped => "auto_execution_skipped"
  | .approved => "approved"
  | .rejected => "rejected"
  | .submitted => "submitted"
  | .filled => "filled"
  | .cancelled => "cancelled"
  | .expired => "expired"

/-- `_ACTION_AFTER_STATES`. -/
def afterState : AuditAction → TradeIdeaState
  | .proposed => .proposed
  | .changed => .needsChanges
  | .autoApprovalSkipped => .proposed
  | .autoExecutionSkipped => .approved
  | .approved => .approved
  | .rejected => .rejected
  | .submitted => .submitted
  | .filled => .filled
  | .cancelled => .cancelled
  | .expired => .expired

end AuditAction

/-- An entry of the audit log. -/
structure AuditEvent where
  eventId : String
  timestamp : ℤ
  decisionId : String
  actorType : ActorType
  actorId : String
  action : AuditAction
  beforeState : Option TradeIdeaState
  afterState : TradeIdeaState
  reason : String
  recordHash : String
  evidence : List String
  venue : String
  externalOrderId : String
  deriving DecidableEq

/-- The events, oldest first. -/
abbrev AuditLog : Type :=
  List AuditEvent

namespace AuditLog

/-- `read_events(decision_id)`. -/
def eventsOf (log : AuditLog) (decisionId : String) : List AuditEvent :=
  log.filter fun event => decide (event.decisionId = decisionId)

def lastEvent (log : AuditLog) (decisionId : String) : Option AuditEvent :=
  (log.eventsOf decisionId).getLast?

/-- The state a decision is in. -/
def currentState (log : AuditLog) (decisionId : String) :
    Option TradeIdeaState :=
  (log.lastEvent decisionId).map AuditEvent.afterState

def validateActionAfterState (event : AuditEvent) : Except ServiceError Unit :=
  if event.afterState = event.action.afterState then .ok ()
  else .error (.about .auditIntegrity "after_state"
    ("Audit event for '" ++ event.decisionId ++ "' has action '" ++
      event.action.value ++ "' but after_state '" ++ event.afterState.value ++
      "'; expected after_state '" ++ event.action.afterState.value ++ "'"))

/-- The checks of `_append` but for the claimed state before. -/
def validateEvent (event : AuditEvent) : Except ServiceError Unit := do
  validateActionAfterState event
  validateTransition event.beforeState event.afterState

def append (log : AuditLog) (event : AuditEvent) : Except ServiceError AuditLog :=
  let recorded := log.currentState event.decisionId
  if event.beforeState = recorded then do
    validateEvent event
    .ok (log ++ [event])
  else .error (.about .auditIntegrity "before_state"
    ("Audit event for '" ++ event.decisionId ++ "' claims before_state '" ++
      stateText event.beforeState ++ "' but the log records '" ++
      stateText recorded ++ "'"))

/-- One line of `verify`: the lines read so far and the state of every decision
they are about. -/
def verifyEvent (read : ℕ × Dict String TradeIdeaState) (event : AuditEvent) :
    Except ServiceError (ℕ × Dict String TradeIdeaState) :=
  let line := "Audit log line " ++ toString (read.1 + 1)
  let recorded := read.2.get? event.decisionId
  if event.beforeState = recorded then do
    validateActionAfterState event
    (validateTransition event.beforeState event.afterState).mapError fun error =>
      .about .auditIntegrity "line"
        (line ++ " has an illegal transition: " ++ error.message)
    .ok (read.1 + 1, read.2.set event.decisionId event.afterState)
  else .error (.about .auditIntegrity "before_state"
    (line ++ " for '" ++ event.decisionId ++ "' claims before_state '" ++
      stateText event.beforeState ++ "' but previous events record '" ++
      stateText recorded ++ "'"))

def verify (log : AuditLog) : Except ServiceError (List AuditEvent) := do
  let _ ← replay verifyEvent (0, Dict.empty) log
  .ok log

section Laws

variable {log : AuditLog} {event : AuditEvent} {decisionId : String}

theorem eventsOf_snoc :
    eventsOf (log ++ [event]) decisionId =
      if event.decisionId = decisionId then eventsOf log decisionId ++ [event]
      else eventsOf log decisionId := by
  unfold eventsOf
  split <;> simp_all

theorem lastEvent_snoc :
    lastEvent (log ++ [event]) decisionId =
      if event.decisionId = decisionId then some event
      else lastEvent log decisionId := by
  unfold lastEvent
  rw [eventsOf_snoc]
  split
  · simp
  · rfl

theorem currentState_snoc :
    currentState (log ++ [event]) decisionId =
      if event.decisionId = decisionId then some event.afterState
      else currentState log decisionId := by
  unfold currentState
  rw [lastEvent_snoc]
  split <;> rfl

/-- An event that fits a log: it claims the recorded state, its action leads to
its state and the move is allowed. -/
structure Fits (log : AuditLog) (event : AuditEvent) : Prop where
  before : event.beforeState = log.currentState event.decisionId
  after : event.afterState = event.action.afterState
  allowed : Allowed event.beforeState event.afterState

theorem validateEvent_eq_ok {result : Unit} :
    validateEvent event = .ok result ↔
      event.afterState = event.action.afterState ∧
        Allowed event.beforeState event.afterState := by
  unfold validateEvent validateActionAfterState
  rw [Outcome.bind_eq_ok]
  simp [validateTransition_eq_ok]

theorem append_eq_ok {appended : AuditLog} :
    append log event = .ok appended ↔
      Fits log event ∧ appended = log ++ [event] := by
  unfold append
  rw [Outcome.branch_eq_ok, Outcome.bind_eq_ok]
  constructor
  · rintro ⟨before, _, valid, returned⟩
    obtain ⟨after, allowed⟩ := validateEvent_eq_ok.mp valid
    cases returned
    exact ⟨⟨before, after, allowed⟩, rfl⟩
  · rintro ⟨fits, rfl⟩
    exact ⟨fits.before, (), validateEvent_eq_ok.mpr ⟨fits.after, fits.allowed⟩,
      rfl⟩

def Legal (log : AuditLog) : Prop :=
  ∀ earlier event later, log = earlier ++ event :: later → Fits earlier event

theorem legal_nil : Legal [] := by
  intro earlier event later split
  simp at split

theorem legal_snoc : Legal (log ++ [event]) ↔ Legal log ∧ Fits log event := by
  constructor
  · intro legal
    refine ⟨?_, legal log event [] rfl⟩
    intro earlier other later split
    exact legal earlier other (later ++ [event]) (by rw [split]; simp)
  · rintro ⟨legal, fits⟩ earlier other later split
    rcases List.eq_nil_or_concat later with rfl | ⟨before, last, rfl⟩
    · obtain ⟨rfl, same⟩ := List.append_inj' split rfl
      cases same
      exact fits
    · have shape : log ++ [event] = (earlier ++ other :: before) ++ [last] := by
        rw [split]
        simp
      obtain ⟨same, _⟩ := List.append_inj' shape rfl
      exact legal earlier other before same

theorem verifyEvent_eq_ok {read next : ℕ × Dict String TradeIdeaState}
    (states : ∀ id, read.2.get? id = currentState log id) :
    verifyEvent read event = .ok next ↔
      Fits log event ∧
        next = (read.1 + 1, read.2.set event.decisionId event.afterState) := by
  unfold verifyEvent validateActionAfterState
  rw [Outcome.branch_eq_ok, states]
  simp only [Outcome.bind_eq_ok, Outcome.mapError_eq_ok, Outcome.branch_eq_ok,
    validateTransition_eq_ok]
  constructor
  · rintro ⟨before, _, ⟨after, _⟩, _, allowed, returned⟩
    cases returned
    exact ⟨⟨before, after, allowed⟩, rfl⟩
  · rintro ⟨fits, rfl⟩
    exact ⟨fits.before, (), ⟨fits.after, trivial⟩, (), fits.allowed, rfl⟩

theorem replay_of_legal (legal : Legal log) :
    ∃ read, replay verifyEvent (0, Dict.empty) log = .ok read ∧
      ∀ id, read.2.get? id = currentState log id := by
  induction log using List.reverseRecOn with
  | nil => exact ⟨_, rfl, fun id => rfl⟩
  | append_singleton log event induction =>
      obtain ⟨earlier, fits⟩ := legal_snoc.mp legal
      obtain ⟨read, isRead, states⟩ := induction earlier
      refine ⟨_, Replay.replay_snoc_eq_ok.mpr ⟨read, isRead,
        (verifyEvent_eq_ok states).mpr ⟨fits, rfl⟩⟩, ?_⟩
      intro id
      rw [Dict.get?_set, currentState_snoc]
      by_cases same : id = event.decisionId
      · simp [same]
      · rw [if_neg same, if_neg (Ne.symm same)]
        exact states id

/-- `verify` accepts every legal log. -/
theorem verify_of_legal (legal : Legal log) : verify log = .ok log := by
  obtain ⟨read, isRead, _⟩ := replay_of_legal legal
  unfold verify
  rw [isRead]
  rfl

end Laws

end AuditLog

end GptTrader
