import GptTrader.TradeIdeas.ServiceRuns

/-!
# What no operation takes back

Only a proposal saves a record version: every other call of the service, of its
kernel or of its journal leaves the versions and the latest version of every
decision alone.  No call takes back an event or a closeout, so a decision keeps
its terminal state and its attribution.
-/

namespace GptTrader

/-- The records are the versions they were. -/
structure SameIdeas (before after : TradeState) : Prop where
  versions : after.versions = before.versions
  latest : after.latest = before.latest

theorem SameIdeas.refl (store : TradeState) : SameIdeas store store :=
  ⟨rfl, rfl⟩

theorem SameIdeas.trans {first second third : TradeState}
    (earlier : SameIdeas first second) (later : SameIdeas second third) :
    SameIdeas first third :=
  ⟨later.versions.trans earlier.versions, later.latest.trans earlier.latest⟩

theorem SameIdeas.of_over {before after : ServiceState}
    (steps : Over SameIdeas before after) :
    SameIdeas before.store after.store := by
  have kept : ∀ {first last : TradeState},
      Relation.ReflTransGen SameIdeas first last → SameIdeas first last := by
    intro first last steps
    induction steps with
    | refl => exact .refl _
    | tail _ step induction => exact induction.trans step
  exact kept steps

namespace ServiceTx

variable {env : TradeEnv} {state : ServiceState} {α : Type}

theorem keepsIdeas_of_settles {body : ServiceTx α}
    (settles : Tx.KeepsAt (Settles env) body state) :
    Tx.KeepsAt (Over SameIdeas) body state :=
  Over.mono (fun _ _ settled =>
    ⟨settled.sameRecords.versions, settled.sameRecords.latest⟩) settles

theorem keepsIdeas_each {β : Type} {items : List α} {body : α → ServiceTx β}
    (each : ∀ item state, Tx.KeepsAt (Over SameIdeas) (body item) state) :
    Tx.KeepsAt (Over SameIdeas) (Tx.forEach items body) state := by
  have kept : Tx.Keeps (Over SameIdeas) (Tx.forEach items body) :=
    Tx.keeps_forEach fun item _ state => each item state
  exact kept state

section Operations

theorem appendAudit_keepsIdeas {idea : TradeIdea} {action : AuditAction}
    {actorType : ActorType} {actorId reason venue externalOrderId : String}
    {evidence : List String} :
    Tx.KeepsAt (Over SameIdeas) (appendAudit env idea action actorType actorId
      reason evidence venue externalOrderId) state := by
  unfold Tx.KeepsAt
  rw [appendAudit_apply]
  split
  · exact .single ⟨rfl, rfl⟩
  · exact .refl

theorem recordAction_keepsIdeas {decisionId : String} {action : AuditAction}
    {actorType : ActorType} {attribution : Attribution} :
    Tx.KeepsAt (Over SameIdeas)
      (recordAction env decisionId action actorType attribution) state := by
  refine keepsAt_ask_bind fun idea _ => ?_
  refine Tx.keepsAt_bind appendAudit_keepsIdeas ?_
  intro _ reached _
  exact keepsAt_ask

theorem expireDueIdeas_keepsIdeas {actorType : ActorType}
    {attribution : Attribution} :
    Tx.KeepsAt (Over SameIdeas) (expireDueIdeas env actorType attribution)
      state := by
  refine keepsAt_now_bind fun started _ => ?_
  refine keepsAt_ask_bind fun budget _ => ?_
  refine keepsAt_ask_bind fun resolution _ => ?_
  refine keepsAt_ask_bind fun views _ => ?_
  exact keepsIdeas_each fun view state => recordAction_keepsIdeas

theorem recordSubmission_keepsIdeas {decisionId : String}
    {actorType : ActorType} {attribution : Attribution} {order : VenueOrder}
    {evidence : List String} :
    Tx.KeepsAt (Over SameIdeas)
      (recordSubmission env decisionId actorType attribution order evidence)
      state := by
  refine keepsAt_lift_bind fun _ _ => ?_
  refine keepsAt_ask_bind fun idea _ => ?_
  refine keepsAt_ask_bind fun _ _ => ?_
  refine Tx.keepsAt_bind appendAudit_keepsIdeas ?_
  intro _ reached _
  exact keepsAt_ask

theorem recordFill_keepsIdeas {decisionId : String} {actorType : ActorType}
    {attribution : Attribution} {order : VenueOrder} {evidence : List String} :
    Tx.KeepsAt (Over SameIdeas)
      (recordFill env decisionId actorType attribution order evidence) state := by
  refine keepsAt_lift_bind fun _ _ => ?_
  refine keepsAt_ask_bind fun idea _ => ?_
  refine keepsAt_ask_bind fun receipt _ => ?_
  refine Tx.keepsAt_bind appendAudit_keepsIdeas ?_
  intro _ middle _
  refine keepsAt_ask_bind fun view _ => ?_
  refine keepsAt_lift_bind fun _ _ => ?_
  exact keepsAt_pure

theorem recordCloseoutAttribution_keepsIdeas {decisionId : String}
    {actorType : ActorType} {actorId : String} {resolved : Resolved} :
    Tx.KeepsAt (Over SameIdeas)
      (recordCloseoutAttribution env decisionId actorType actorId resolved)
      state := by
  refine keepsAt_ask_bind fun basis _ => ?_
  refine Tx.keepsAt_bind (keepsAt_givenOr .refl) ?_
  intro timestamp timed _
  refine keepsAt_lift_bind fun record _ => ?_
  have appended : Tx.KeepsAt (Over SameIdeas) (appendCloseout record) timed := by
    refine keepsAt_alter fun store changed => ?_
    obtain ⟨closeouts, _, rfl⟩ := Outcome.map_eq_ok.mp changed
    exact .single ⟨rfl, rfl⟩
  refine Tx.keepsAt_bind appended ?_
  intro _ reached _
  exact keepsAt_pure

theorem autoAttributeExpiredIdeas_keepsIdeas {attribution : Attribution}
    {evidence : List String} :
    Tx.KeepsAt (Over SameIdeas)
      (autoAttributeExpiredIdeas env attribution evidence) state :=
  keepsAt_ask_bind fun _ _ =>
    keepsIdeas_each fun _ _ => recordCloseoutAttribution_keepsIdeas

theorem updateBudget_keepsIdeas {budget : RiskBudget} {actorType : ActorType}
    {actorId : String} :
    Tx.KeepsAt (Over SameIdeas) (updateBudget env budget actorType actorId)
      state := by
  refine keepsAt_now_bind fun started _ => ?_
  refine Tx.keepsAt_bind (keepsIdeas_of_settles decisionAutonomy_settles) ?_
  intro resolution resolved _
  dsimp only
  split
  · refine Tx.keepsAt_bind (keepsIdeas_of_settles currentBudget_settles) ?_
    intro _ budgeted _
    refine keepsAt_now_bind fun timed _ => ?_
    have enacted : Tx.KeepsAt (Over SameIdeas) (appendBudget
        { timestamp := env.clock budgeted.readings
          actorType := actorType
          actorId := actorId
          budget := budget }) timed := by
      refine keepsAt_alter fun store changed => ?_
      obtain ⟨log, _, rfl⟩ := Outcome.map_eq_ok.mp changed
      exact .single ⟨rfl, rfl⟩
    refine Tx.keepsAt_bind enacted ?_
    intro _ middle _
    refine Tx.keepsAt_bind (keepsIdeas_of_settles decisionAutonomy_settles) ?_
    intro _ reached _
    exact keepsAt_pure
  · exact keepsAt_raise

end Operations

section Approvals

variable {idea : TradeIdea} {check : KernelCheck} {attribution : Attribution}
variable {evidence : List String}

theorem commitApproval_keepsIdeas :
    Tx.KeepsAt (Over SameIdeas)
      (commitApproval env idea check attribution evidence) state := by
  unfold Tx.KeepsAt
  match outcome : commitApproval env idea check attribution evidence state with
  | (.ok (), reached) =>
      obtain ⟨_, _, checked, event, commit⟩ := commitApproval_eq_ok outcome
      have same := commit.settles.sameRecords
      rw [commit.appended]
      exact .single ⟨same.versions, same.latest⟩
  | (.error error, reached) =>
      have same := (commitApproval_eq_error outcome).sameRecords
      exact .single ⟨same.versions, same.latest⟩

theorem recordApproval_keepsIdeas :
    Tx.KeepsAt (Over SameIdeas)
      (recordApproval env idea check attribution evidence) state := by
  unfold recordApproval
  split
  · exact commitApproval_keepsIdeas
  · exact keepsAt_raise

theorem recordDeniedApproval_keepsIdeas :
    Tx.KeepsAt (Over SameIdeas)
      (recordDeniedApproval env idea check attribution) state := by
  unfold recordDeniedApproval
  split
  · exact keepsAt_raise
  · exact keepsAt_lift_bind fun _ _ => appendAudit_keepsIdeas

theorem recordDeniedExecution_keepsIdeas :
    Tx.KeepsAt (Over SameIdeas)
      (recordDeniedExecution env idea check attribution) state := by
  unfold recordDeniedExecution
  split
  · exact keepsAt_raise
  · exact appendAudit_keepsIdeas

theorem approve_keepsIdeas {decisionId : String} :
    Tx.KeepsAt (Over SameIdeas) (approve env decisionId attribution) state := by
  refine keepsAt_ask_bind fun idea _ => ?_
  refine Tx.keepsAt_bind (keepsIdeas_of_settles checkApproval_settles) ?_
  intro check checked _
  split
  · refine Tx.keepsAt_bind recordApproval_keepsIdeas ?_
    intro _ reached _
    exact keepsAt_ask
  · exact keepsAt_raise

theorem sweepCandidate_keepsIdeas {actorId : String} :
    Tx.KeepsAt (Over SameIdeas) (sweepCandidate env actorId idea) state := by
  refine Tx.keepsAt_bind (keepsIdeas_of_settles checkApproval_settles) ?_
  intro check checked _
  split
  · refine keepsAt_lift_bind fun attribution _ => ?_
    refine keepsAt_lift_bind fun evidence _ => ?_
    refine Tx.keepsAt_bind recordApproval_keepsIdeas ?_
    intro _ middle _
    refine keepsAt_ask_bind fun view _ => ?_
    exact keepsAt_pure
  · refine Tx.keepsAt_bind recordDeniedApproval_keepsIdeas ?_
    intro _ middle _
    exact keepsAt_pure

theorem autoApproveSweep_keepsIdeas {enabled : Bool} {actorId : String} :
    Tx.KeepsAt (Over SameIdeas) (autoApproveSweep env enabled actorId) state := by
  unfold autoApproveSweep
  split
  · refine keepsAt_now_bind fun started _ => ?_
    refine Tx.keepsAt_bind (keepsIdeas_of_settles decisionAutonomy_settles) ?_
    intro resolution resolved _
    dsimp only
    split
    · refine keepsAt_ask_bind fun candidates _ => ?_
      refine Tx.keepsAt_bind
        (keepsIdeas_each fun _ _ => sweepCandidate_keepsIdeas) ?_
      intro outcomes finished _
      exact keepsAt_pure
    · exact keepsAt_raise
  · exact keepsAt_raise

end Approvals

theorem journalWrite_keepsIdeas {writer : ExecutionJournal.JournalTx Unit} :
    Tx.KeepsAt (Over SameIdeas) (journalWrite writer) state := by
  unfold Tx.KeepsAt journalWrite
  split
  · exact .single ⟨rfl, rfl⟩
  · exact .single ⟨rfl, rfl⟩

end ServiceTx

def Call.proposes : Call → Bool
  | .service (.propose ..) => true
  | .service (.proposeBatch ..) => true
  | .service (.resubmit ..) => true
  | _ => false

section Calls

variable {env : TradeEnv} {state : ServiceState}

open ServiceTx in
theorem ServiceCall.body_keepsIdeas (call : ServiceCall)
    (quiet : (Call.service call).proposes = false) :
    Tx.KeepsAt (Over SameIdeas) (call.body env) state := by
  cases call with
  | propose => cases quiet
  | proposeBatch => cases quiet
  | resubmit => cases quiet
  | requestChanges => exact keepsAt_discard recordAction_keepsIdeas
  | commitApproval => exact commitApproval_keepsIdeas
  | approve => exact keepsAt_discard approve_keepsIdeas
  | autoApproveSweep => exact keepsAt_discard autoApproveSweep_keepsIdeas
  | reject => exact keepsAt_discard recordAction_keepsIdeas
  | cancel => exact keepsAt_discard recordAction_keepsIdeas
  | expire => exact keepsAt_discard recordAction_keepsIdeas
  | expireDueIdeas => exact keepsAt_discard expireDueIdeas_keepsIdeas
  | recordSubmission => exact keepsAt_discard recordSubmission_keepsIdeas
  | recordFill => exact keepsAt_discard recordFill_keepsIdeas
  | recordCloseoutAttribution =>
      exact keepsAt_discard recordCloseoutAttribution_keepsIdeas
  | autoAttributeExpiredIdeas =>
      exact keepsAt_discard autoAttributeExpiredIdeas_keepsIdeas
  | updateBudget => exact updateBudget_keepsIdeas
  | setAutonomyMode =>
      exact keepsAt_discard (keepsIdeas_of_settles setAutonomyMode_settles)
  | decisionAutonomy =>
      exact keepsAt_discard (keepsIdeas_of_settles decisionAutonomy_settles)
  | resolveExecutionAutonomy =>
      exact keepsAt_discard
        (keepsIdeas_of_settles resolveExecutionAutonomy_settles)
  | currentBudget =>
      exact keepsAt_discard (keepsIdeas_of_settles currentBudget_settles)
  | currentAutonomy =>
      exact keepsAt_discard (keepsIdeas_of_settles currentAutonomy_settles)
  | approvalViolations =>
      exact keepsAt_discard (keepsIdeas_of_settles approvalViolations_settles)

open ServiceTx in
theorem KernelCall.body_keepsIdeas (call : KernelCall) :
    Tx.KeepsAt (Over SameIdeas) (call.body env) state := by
  cases call with
  | recordApproval => exact recordApproval_keepsIdeas
  | recordDeniedApproval => exact recordDeniedApproval_keepsIdeas
  | recordDeniedExecution => exact recordDeniedExecution_keepsIdeas

theorem Call.perform_sameIdeas (call : Call) (quiet : call.proposes = false) :
    SameIdeas state.store (call.perform env state).store := by
  have body : Tx.KeepsAt (Over SameIdeas) (call.body env) state := by
    cases call with
    | service call => exact call.body_keepsIdeas quiet
    | kernel call => exact call.body_keepsIdeas
    | journal call => exact ServiceTx.journalWrite_keepsIdeas
  apply SameIdeas.of_over
  change Tx.KeepsAt (Over SameIdeas) (call.transaction env) state
  unfold Call.transaction
  split
  · exact Tx.keepsAt_admissionTransaction Over.rollback body
  · exact Tx.keepsAt_transaction Over.rollback body

end Calls

section Growth

variable {env : TradeEnv} {admits : TradeState → AuditEvent → Prop}
variable {before after : ServiceState}

theorem Step.closeouts {first last : TradeState}
    (step : Step env admits first last) : first.closeouts <+: last.closeouts := by
  cases step with
  | settle settled => rw [settled.sameRecords.closeouts]
  | save idea => exact List.prefix_refl _
  | event appended unapproved admitted => exact List.prefix_refl _
  | commit committed recorded admitted =>
      obtain ⟨_, _, checked, event, commit⟩ :=
        ServiceTx.commitApproval_eq_ok committed
      rw [commit.appended]
      change _ <+: checked.store.closeouts
      rw [commit.settles.sameRecords.closeouts]
  | enact appended => exact List.prefix_refl _
  | closeout appended =>
      rcases CloseoutAttributionLog.append_eq_ok appended with
        ⟨_, rfl⟩ | ⟨_, rfl⟩
      · exact List.prefix_refl _
      · exact List.prefix_append _ _
  | journal grown => exact List.prefix_refl _

theorem Follows.closeouts (follows : Follows env admits before after) :
    before.store.closeouts <+: after.store.closeouts := by
  have grown : ∀ {first last : TradeState},
      Relation.ReflTransGen (Step env admits) first last →
        first.closeouts <+: last.closeouts := by
    intro first last follows
    induction follows with
    | refl => exact List.prefix_refl _
    | tail _ step induction => exact induction.trans step.closeouts
  exact grown follows

theorem Follows.terminal (follows : Follows env admits before after)
    {decisionId : String} {state : TradeIdeaState}
    (terminal : state.terminal = true)
    (current : before.store.audit.currentState decisionId = some state) :
    after.store.audit.currentState decisionId = some state := by
  apply follows.audit_induction
    (fun log => log.currentState decisionId = some state) current
  intro store event held fits _
  rw [AuditLog.currentState_snoc]
  split
  · next same =>
      have allowed := fits.allowed
      rw [fits.before, same, held] at allowed
      change event.afterState ∈ state.allowedTransitions at allowed
      rw [List.isEmpty_iff.mp terminal] at allowed
      cases allowed
  · exact held

theorem Follows.recorded (follows : Follows env admits before after)
    {decisionId : String}
    (recorded : (before.store.audit.currentState decisionId).isSome) :
    (after.store.audit.currentState decisionId).isSome := by
  apply follows.audit_induction
    (fun log => (log.currentState decisionId).isSome) recorded
  intro store event held _ _
  rw [AuditLog.currentState_snoc]
  split
  · rfl
  · exact held

def anyEvent (_ : TradeState) (_ : AuditEvent) : Prop :=
  True

theorem Call.perform_steps (call : Call) (state : ServiceState) :
    Follows env anyEvent state (call.perform env state) := by
  have lawful : Lawful anyEvent := ⟨fun _ _ _ => trivial, fun _ _ _ _ _ _ _ => trivial⟩
  apply call.perform_follows lawful
  unfold Call.Permitted
  split
  · exact fun _ _ _ _ _ _ => trivial
  · exact fun _ _ _ _ => trivial
  · exact fun _ _ _ _ _ => trivial
  · exact fun _ _ _ => trivial
  · exact fun _ _ _ _ _ => trivial
  · trivial

end Growth

end GptTrader
