import GptTrader.TradeIdeas.JournalRuns
import GptTrader.TradeIdeas.OperationSteps

/-!
# Calls of the public operations and their runs

A call is one public operation of the service, of its risk kernel or of its
journal, with its arguments.  Performing a call runs its body in the transaction
the operation is decorated with.  Calls of several processes are serialized by
the write lock, so a run is any sequence of calls.

A kernel check made outside any transaction is a sequence of calls here: it
settles the logs through `current_budget` and `decision_autonomy`.
-/

namespace GptTrader

/-- The calls of the service. -/
inductive ServiceCall where
  | propose (idea : TradeIdea) (actorType : ActorType)
      (attribution : ServiceTx.Attribution) (evidence : List String)
  | proposeBatch (ideas : List TradeIdea) (actorType : ActorType)
      (attribution : ServiceTx.Attribution) (evidence : List String)
  | requestChanges (decisionId : String) (attribution : ServiceTx.Attribution)
  | resubmit (idea : TradeIdea) (actorType : ActorType)
      (attribution : ServiceTx.Attribution)
  | commitApproval (idea : TradeIdea) (check : KernelCheck)
      (attribution : ServiceTx.Attribution) (evidence : List String)
  | approve (decisionId : String) (attribution : ServiceTx.Attribution)
  | autoApproveSweep (enabled : Bool) (actorId : String)
  | reject (decisionId : String) (actorType : ActorType)
      (attribution : ServiceTx.Attribution)
  | cancel (decisionId : String) (actorType : ActorType)
      (attribution : ServiceTx.Attribution)
  | expire (decisionId : String) (actorType : ActorType)
      (attribution : ServiceTx.Attribution)
  | expireDueIdeas (actorType : ActorType)
      (attribution : ServiceTx.Attribution)
  | recordSubmission (decisionId : String) (actorType : ActorType)
      (attribution : ServiceTx.Attribution) (order : ServiceTx.VenueOrder)
      (evidence : List String)
  | recordFill (decisionId : String) (actorType : ActorType)
      (attribution : ServiceTx.Attribution) (order : ServiceTx.VenueOrder)
      (evidence : List String)
  | recordCloseoutAttribution (decisionId : String) (actorType : ActorType)
      (actorId : String) (resolved : ServiceTx.Resolved)
  | autoAttributeExpiredIdeas (attribution : ServiceTx.Attribution)
      (evidence : List String)
  | updateBudget (budget : RiskBudget) (actorType : ActorType)
      (actorId : String)
  | setAutonomyMode (mode : AutonomyMode) (actorType : ActorType)
      (actorId reason : String) (evidence : List String)
  | decisionAutonomy (now : ℤ) (budget : Option RiskBudget)
      (context : Option ApprovalBudgetContext)
  | resolveExecutionAutonomy (at? : Option ℤ)
  | currentBudget
  | currentAutonomy
  | approvalViolations (idea : TradeIdea) (actorType : ActorType)

/-- The `record_*` operations of the risk kernel. -/
inductive KernelCall where
  | recordApproval (idea : TradeIdea) (check : KernelCheck)
      (attribution : ServiceTx.Attribution) (evidence : List String)
  | recordDeniedApproval (idea : TradeIdea) (check : KernelCheck)
      (attribution : ServiceTx.Attribution)
  | recordDeniedExecution (idea : TradeIdea) (check : KernelCheck)
      (attribution : ServiceTx.Attribution)

/-- The calls on service, kernel and journal. -/
inductive Call where
  | service (call : ServiceCall)
  | kernel (call : KernelCall)
  | journal (call : ExecutionJournal.JournalCall)

section Bodies

variable (env : TradeEnv)

def ServiceTx.discard {α : Type} (body : ServiceTx α) : ServiceTx Unit := do
  let _ ← body
  pure ()

def ServiceCall.body : ServiceCall → ServiceTx Unit
  | .propose idea actorType attribution evidence =>
      .discard (ServiceTx.propose env idea actorType attribution evidence)
  | .proposeBatch ideas actorType attribution evidence =>
      .discard (ServiceTx.proposeBatch env ideas actorType attribution evidence)
  | .requestChanges decisionId attribution =>
      .discard (ServiceTx.requestChanges env decisionId attribution)
  | .resubmit idea actorType attribution =>
      .discard (ServiceTx.resubmit env idea actorType attribution)
  | .commitApproval idea check attribution evidence =>
      ServiceTx.commitApproval env idea check attribution evidence
  | .approve decisionId attribution =>
      .discard (ServiceTx.approve env decisionId attribution)
  | .autoApproveSweep enabled actorId =>
      .discard (ServiceTx.autoApproveSweep env enabled actorId)
  | .reject decisionId actorType attribution =>
      .discard (ServiceTx.reject env decisionId actorType attribution)
  | .cancel decisionId actorType attribution =>
      .discard (ServiceTx.cancel env decisionId actorType attribution)
  | .expire decisionId actorType attribution =>
      .discard (ServiceTx.expire env decisionId actorType attribution)
  | .expireDueIdeas actorType attribution =>
      .discard (ServiceTx.expireDueIdeas env actorType attribution)
  | .recordSubmission decisionId actorType attribution order evidence =>
      .discard (ServiceTx.recordSubmission env decisionId actorType attribution
        order evidence)
  | .recordFill decisionId actorType attribution order evidence =>
      .discard (ServiceTx.recordFill env decisionId actorType attribution order
        evidence)
  | .recordCloseoutAttribution decisionId actorType actorId resolved =>
      .discard (ServiceTx.recordCloseoutAttribution env decisionId actorType
        actorId resolved)
  | .autoAttributeExpiredIdeas attribution evidence =>
      .discard (ServiceTx.autoAttributeExpiredIdeas env attribution evidence)
  | .updateBudget budget actorType actorId =>
      ServiceTx.updateBudget env budget actorType actorId
  | .setAutonomyMode mode actorType actorId reason evidence =>
      .discard (ServiceTx.setAutonomyMode env mode actorType actorId reason
        evidence)
  | .decisionAutonomy now budget context =>
      .discard (ServiceTx.decisionAutonomy env now budget context)
  | .resolveExecutionAutonomy at? =>
      .discard (ServiceTx.resolveExecutionAutonomy env at?)
  | .currentBudget => .discard (ServiceTx.currentBudget env)
  | .currentAutonomy => .discard (ServiceTx.currentAutonomy env)
  | .approvalViolations idea actorType =>
      .discard (ServiceTx.approvalViolations env idea actorType)

def KernelCall.body : KernelCall → ServiceTx Unit
  | .recordApproval idea check attribution evidence =>
      ServiceTx.recordApproval env idea check attribution evidence
  | .recordDeniedApproval idea check attribution =>
      ServiceTx.recordDeniedApproval env idea check attribution
  | .recordDeniedExecution idea check attribution =>
      ServiceTx.recordDeniedExecution env idea check attribution

def Call.body : Call → ServiceTx Unit
  | .service call => call.body env
  | .kernel call => call.body env
  | .journal call => ServiceTx.journalWrite (call.body env.journal)

/-- The operations decorated with `commit_denial`. -/
def Call.admission : Call → Bool
  | .service (.commitApproval ..) => true
  | .service (.approve ..) => true
  | .service (.autoApproveSweep ..) => true
  | .service (.updateBudget ..) => true
  | .service (.setAutonomyMode ..) => true
  | .kernel (.recordApproval ..) => true
  | _ => false

end Bodies

section Transactions

/-- `admission_revision`: the latest versions in the order of their decisions,
the number of versions and, as events are only appended, the number of events of
every stream but the autonomy log. -/
def TradeState.admissionRevision (store : TradeState) :
    List (String × String) × ℕ × ℕ × ℕ × ℕ × ℕ :=
  (store.latest.entries.insertionSort fun left right => left.1 ≤ right.1,
    store.versions.entries.length, store.audit.length, store.budget.length,
    store.closeouts.length, store.journal.length)

/-- `ranks[entry["mode"]]`; a line without a known mode has none. -/
def lineRank : StoredLine → Option ℕ
  | .json payload =>
      match payload.field? "mode" with
      | some (.str "research_only") => some 0
      | some (.str "human_approved_execution") => some 1
      | some (.str "bounded_autonomy") => some 2
      | _ => none
  | _ => none

/-- `entry["actor_type"] == "system"`. -/
def bySystem : StoredLine → Bool
  | .json payload =>
      (payload.field? "actor_type").any fun actor => actor.same (.str "system")
  | _ => false

def neverRaises (prior : ℕ) : List StoredLine → Bool
  | [] => true
  | line :: rest =>
      match lineRank line with
      | none => false
      | some rank =>
          bySystem line && decide (rank ≤ prior) && neverRaises rank rest

/-- `denial_autonomy_is_safe`.  The rank before comes from the last line. -/
def denialAutonomyIsSafe (before after : List StoredLine) : Bool :=
  decide (after.take before.length = before) &&
    (decide (after.length = before.length) ||
      match before.getLast? with
      | none => neverRaises 1 (after.drop before.length)
      | some line =>
          match lineRank line with
          | none => false
          | some rank => neverRaises rank (after.drop before.length))

/-- The denial changed no admission. -/
def denialIsSafe (before after : ServiceState) : Bool :=
  decide (after.store.admissionRevision = before.store.admissionRevision) &&
    denialAutonomyIsSafe before.store.autonomy after.store.autonomy

variable (env : TradeEnv)

def Call.transaction (call : Call) : ServiceTx Unit :=
  if call.admission then
    Tx.admissionTransaction ServiceState.rollback ServiceError.isRefusal
      denialIsSafe (call.body env)
  else Tx.transaction ServiceState.rollback (call.body env)

/-- One call in its transaction. -/
def Call.perform (call : Call) (state : ServiceState) : ServiceState :=
  (call.transaction env state).2

/-- The state after a list of calls. -/
def Call.run (calls : List Call) (state : ServiceState) : ServiceState :=
  calls.foldl (fun reached call => call.perform env reached) state

/-- Every call meets the condition at its state. -/
def Call.RunMeets (condition : Call → ServiceState → Prop) :
    List Call → ServiceState → Prop
  | [], _ => True
  | call :: rest, state =>
      condition call state ∧ RunMeets condition rest (call.perform env state)

end Transactions

namespace ServiceTx

variable {env : TradeEnv} {admits : TradeState → AuditEvent → Prop}
variable {state : ServiceState}

theorem keepsAt_discard {relation : TradeState → TradeState → Prop} {α : Type}
    {body : ServiceTx α} (kept : Tx.KeepsAt (Over relation) body state) :
    Tx.KeepsAt (Over relation) (discard body) state := by
  refine Tx.keepsAt_bind kept ?_
  intro _ reached _
  exact keepsAt_pure

theorem journalCall_grows (context : ExecutionJournal.JournalContext)
    (call : ExecutionJournal.JournalCall) (lines : List StoredLine) :
    lines <+: (call.body context lines).2 := by
  have refl : Std.Refl fun before after : List StoredLine => before <+: after :=
    ⟨List.prefix_refl⟩
  have trans : IsTrans (List StoredLine) fun before after => before <+: after :=
    ⟨fun _ _ _ => List.IsPrefix.trans⟩
  have append : ∀ event, Tx.Keeps (fun before after => before <+: after)
      (ExecutionJournal.append event) := fun event lines =>
    List.prefix_append lines [.json event]
  have kept : Tx.Keeps (fun before after => before <+: after)
      (call.body context) := by
    cases call with
    | recordIntent decisionId recordHash intent =>
        refine Tx.keeps_bind (Tx.keeps_read _) fun current => ?_
        refine Tx.keeps_bind (Tx.keeps_require _ _) fun _ => ?_
        refine Tx.keeps_bind (append _) fun _ => ?_
        exact Tx.keeps_bind (Tx.keeps_read _) fun _ => Tx.keeps_pure _
    | recordReceipt decisionId receipt =>
        refine Tx.keeps_bind (Tx.keeps_read _) fun current => ?_
        split
        · exact Tx.keeps_raise _
        · split
          · exact Tx.keeps_require _ _
          · exact Tx.keeps_bind (Tx.keeps_read _) fun _ => append _
    | markReconciled decisionId =>
        refine Tx.keeps_bind (Tx.keeps_read _) fun current => ?_
        split
        · exact Tx.keeps_raise _
        · split
          · exact Tx.keeps_pure _
          · split
            · exact Tx.keeps_raise _
            · refine Tx.keeps_bind (Tx.keeps_read _) fun _ => ?_
              exact Tx.keeps_bind (Tx.keeps_require _ _) fun _ => append _
    | recordSimulatedResolution payload =>
        refine Tx.keeps_bind (Tx.keeps_read _) fun stored => ?_
        refine Tx.keeps_bind (Tx.keeps_read _) fun found => ?_
        split
        · exact Tx.keeps_require _ _
        · exact Tx.keeps_bind (Tx.keeps_read _) fun _ => append _
  exact kept lines

theorem journalWrite_follows (call : ExecutionJournal.JournalCall) :
    Tx.KeepsAt (Follows env admits) (journalWrite (call.body env.journal))
      state := by
  have grown := journalCall_grows env.journal call state.store.journal
  unfold Tx.KeepsAt journalWrite
  split
  · next lines outcome =>
      rw [outcome] at grown
      exact .single (.journal grown)
  · next error lines outcome =>
      rw [outcome] at grown
      exact .single (.journal grown)

end ServiceTx

section Permissions

variable {env : TradeEnv} (admits : TradeState → AuditEvent → Prop)

/-- What a run may append, whatever the states it meets: recorded events, and
approvals of proposed ideas. -/
structure Lawful (admits : TradeState → AuditEvent → Prop) : Prop where
  records : ∀ store event, Recorded store event → admits store event
  proposed : ∀ store decisionId,
    store.audit.currentState decisionId = some .proposed →
      ServiceTx.Permits admits store decisionId

def Call.Permitted : Call → ServiceState → Prop
  | .service (.approve decisionId _), state =>
      ∀ store, store.audit = state.store.audit →
        ServiceTx.Permits admits store decisionId
  | .service (.commitApproval idea _ _ _), state =>
      ServiceTx.Permits admits state.store idea.decisionId
  | .kernel (.recordApproval idea check _ _), state =>
      check.admitted = true → ServiceTx.Permits admits state.store idea.decisionId
  | .kernel (.recordDeniedApproval idea _ _), state =>
      ∀ event, event.action = .autoApprovalSkipped →
        event.decisionId = idea.decisionId → admits state.store event
  | .kernel (.recordDeniedExecution idea check _), state =>
      check.admitted = false →
        ∀ event, event.action = .autoExecutionSkipped →
          event.decisionId = idea.decisionId →
          event.beforeState = state.store.audit.currentState idea.decisionId →
            admits state.store event
  | _, _ => True

variable {admits}

open ServiceTx in
theorem ServiceCall.body_follows (lawful : Lawful admits) (call : ServiceCall)
    {state : ServiceState}
    (permitted : Call.Permitted admits (.service call) state) :
    Tx.KeepsAt (Follows env admits) (call.body env) state := by
  have records := lawful.records
  cases call with
  | propose => exact keepsAt_discard (propose_follows records)
  | proposeBatch => exact keepsAt_discard (proposeBatch_follows records)
  | requestChanges =>
      exact keepsAt_discard (recordAction_follows records rfl)
  | resubmit => exact keepsAt_discard (resubmit_follows records)
  | commitApproval => exact commitApproval_follows permitted
  | approve => exact keepsAt_discard (approve_follows permitted)
  | autoApproveSweep =>
      exact keepsAt_discard (autoApproveSweep_follows records lawful.proposed)
  | reject =>
      exact keepsAt_discard (recordAction_follows records rfl)
  | cancel =>
      exact keepsAt_discard (recordAction_follows records rfl)
  | expire =>
      exact keepsAt_discard (recordAction_follows records rfl)
  | expireDueIdeas => exact keepsAt_discard (expireDueIdeas_follows records)
  | recordSubmission => exact keepsAt_discard (recordSubmission_follows records)
  | recordFill => exact keepsAt_discard (recordFill_follows records)
  | recordCloseoutAttribution =>
      exact keepsAt_discard recordCloseoutAttribution_follows
  | autoAttributeExpiredIdeas =>
      exact keepsAt_discard autoAttributeExpiredIdeas_follows
  | updateBudget => exact updateBudget_follows
  | setAutonomyMode =>
      exact keepsAt_discard (follows_of_settles setAutonomyMode_settles)
  | decisionAutonomy =>
      exact keepsAt_discard (follows_of_settles decisionAutonomy_settles)
  | resolveExecutionAutonomy =>
      exact keepsAt_discard (follows_of_settles resolveExecutionAutonomy_settles)
  | currentBudget =>
      exact keepsAt_discard (follows_of_settles currentBudget_settles)
  | currentAutonomy =>
      exact keepsAt_discard (follows_of_settles currentAutonomy_settles)
  | approvalViolations =>
      exact keepsAt_discard (follows_of_settles approvalViolations_settles)

open ServiceTx in
theorem KernelCall.body_follows (call : KernelCall) {state : ServiceState}
    (permitted : Call.Permitted admits (.kernel call) state) :
    Tx.KeepsAt (Follows env admits) (call.body env) state := by
  cases call with
  | recordApproval idea check attribution evidence =>
      change Tx.KeepsAt _
        (ServiceTx.recordApproval env idea check attribution evidence) state
      unfold ServiceTx.recordApproval
      split
      · next admitted => exact commitApproval_follows (permitted admitted)
      · exact keepsAt_raise
  | recordDeniedApproval idea check attribution =>
      change Tx.KeepsAt _
        (ServiceTx.recordDeniedApproval env idea check attribution) state
      unfold ServiceTx.recordDeniedApproval
      split
      · exact keepsAt_raise
      · refine keepsAt_lift_bind fun evidence _ => ?_
        exact appendAudit_follows (by decide) (permitted _ rfl rfl)
  | recordDeniedExecution idea check attribution =>
      change Tx.KeepsAt _
        (ServiceTx.recordDeniedExecution env idea check attribution) state
      unfold ServiceTx.recordDeniedExecution
      split
      · exact keepsAt_raise
      · next denied =>
          exact appendAudit_follows (by decide)
            (permitted (Bool.eq_false_iff.mpr denied) _ rfl rfl rfl)

theorem Call.perform_follows (lawful : Lawful admits) (call : Call)
    {state : ServiceState} (permitted : call.Permitted admits state) :
    Follows env admits state (call.perform env state) := by
  have body : Tx.KeepsAt (Follows env admits) (call.body env) state := by
    cases call with
    | service call => exact call.body_follows lawful permitted
    | kernel call => exact call.body_follows permitted
    | journal call => exact ServiceTx.journalWrite_follows call
  change Tx.KeepsAt (Follows env admits) (call.transaction env) state
  unfold Call.transaction
  split
  · exact Tx.keepsAt_admissionTransaction Over.rollback body
  · exact Tx.keepsAt_transaction Over.rollback body

theorem Call.run_follows (lawful : Lawful admits) (calls : List Call)
    {state : ServiceState}
    (permitted : RunMeets env (Permitted admits) calls state) :
    Follows env admits state (run env calls state) := by
  induction calls generalizing state with
  | nil => exact .refl
  | cons call rest induction =>
      exact (call.perform_follows lawful permitted.1).trans
        (induction permitted.2)

end Permissions

section Examples

def openCalendar : TradingCalendar :=
  { sessionId := "24x7"
    isOpen := fun _ => .ok true
    sessionDate := fun _ => .ok "1970-01-01"
    nextOpen := fun _ => .ok none
    advance := fun moment count => .ok (moment + ApprovalPolicy.hours count) }

/-- A session within one tick of the clock.  Records are told apart by their
decision and thesis. -/
def paperEnv : TradeEnv :=
  { formats := ExecutionJournal.paperContext.formats
    showPlain := fun value =>
      ExecutionJournal.paperContext.formats.showDecimal (.finite value)
    showRepr := fun text => "'" ++ text ++ "'"
    showDay := fun _ => "1970-01-01"
    journal := ExecutionJournal.paperContext
    recordHash := fun idea => idea.decisionId ++ ":" ++ idea.thesis
    calendar := fun _ => .ok openCalendar
    clock := fun _ => 0
    eventId := fun readings => toString readings }

/-- A long idea that risks one percent of the account. -/
def paperIdea (decisionId : String)
    (safe : isSafeDecisionId decisionId = true) : TradeIdea :=
  { decisionId := decisionId
    autonomyMode := .humanApprovedExecution
    thesis := "breakout"
    instrument := "BTC-USD"
    productType := .spot
    direction := .long
    entryZone :=
      { lower := some 100
        upper := some 100
        trigger := "" }
    invalidation := "close below 90"
    targetExit := "120"
    maxLoss :=
      { amount := some 10
        percentOfAccount := some 1
        assumptions := []
        nonNegative := by norm_num }
    sizingRecommendation :=
      { quantity := some 1
        notional := some 100
        rationale := "one unit" }
    timeHorizon :=
      { expectedHold := "one day"
        expiresAt := some (ApprovalPolicy.hours 24) }
    dataUsed := ["candles"]
    confidence :=
      { label := .medium
        rationale := "volume" }
    failureMode := "false breakout"
    doNotTradeIf := []
    brokerTicket :=
      { venue := .none
        status := .notCreated }
    exitPlan := none
    positionOperation := none
    safe := safe
    targeted := by simp }

def operator : ServiceTx.Attribution :=
  { actorId := "operator"
    reason := "reviewed" }

def freshState : ServiceState :=
  { store := .empty
    readings := 0 }

def attestedBudget : RiskBudget :=
  { defaultRiskBudget with
    version := 2
    accountEquity := some 10000
    equityPositive := by norm_num }

theorem entry_safe : isSafeDecisionId "entry-1" = true := by
  decide

def entryIdea : TradeIdea :=
  paperIdea "entry-1" entry_safe

def venueOrder : ServiceTx.VenueOrder :=
  { venue := "paper"
    externalOrderId := "order-1" }

def tradedRun : List Call :=
  [.service (.updateBudget attestedBudget .human "operator"),
    .service (.propose entryIdea .ai operator []),
    .service (.approve "entry-1" operator),
    .service (.recordSubmission "entry-1" .system operator venueOrder []),
    .service (.recordFill "entry-1" .venue operator venueOrder [])]

example :
    (Call.run paperEnv tradedRun freshState).store.audit.map AuditEvent.action =
      [.proposed, .approved, .submitted, .filled] := by
  decide +kernel

end Examples

end GptTrader
