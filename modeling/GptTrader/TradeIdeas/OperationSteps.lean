import GptTrader.TradeIdeas.ServiceSteps

/-!
# The steps of each operation

Whatever its outcome, every operation leaves a state that its steps reach.  The
events it appends are recorded of the record its decision requires; only an
approval needs a permission of the state it finds, and the sweep approves only
what still waits for review.
-/

namespace GptTrader

namespace ServiceTx

variable {env : TradeEnv} {admits : TradeState → AuditEvent → Prop}
variable {state : ServiceState}

theorem follows_each {α β : Type} {items : List α} {body : α → ServiceTx β}
    (each : ∀ item state, Tx.KeepsAt (Follows env admits) (body item) state) :
    Tx.KeepsAt (Follows env admits) (Tx.forEach items body) state := by
  have kept : Tx.Keeps (Follows env admits) (Tx.forEach items body) :=
    Tx.keeps_forEach fun item _ state => each item state
  exact kept state

theorem recorded_of_required {idea : TradeIdea} {action : AuditAction}
    {actorType : ActorType} {actorId reason venue externalOrderId : String}
    {evidence : List String} {decisionId : String}
    (required : state.store.requireIdea env decisionId = .ok idea)
    (routine : action.routine = true) :
    Recorded state.store (auditEvent env state idea action actorType actorId reason
      evidence venue externalOrderId) :=
  .of_routine routine (.inr (pinned_of_required required))

section Operations

variable (records : ∀ store event, Recorded store event → admits store event)

include records

theorem appendAction_follows {idea : TradeIdea} {action : AuditAction}
    {actorType : ActorType} {attribution : Attribution} {evidence : List String}
    (routine : action.routine = true)
    (required : action = .proposed ∨
      ∃ decisionId, state.store.requireIdea env decisionId = .ok idea) :
    Tx.KeepsAt (Follows env admits)
      (appendAction env idea action actorType attribution evidence) state := by
  have recorded : Recorded state.store (auditEvent env state idea action actorType
      attribution.actorId attribution.reason evidence "" "") := by
    rcases required with proposed | ⟨decisionId, required⟩
    · exact .of_routine routine (.inl proposed)
    · exact recorded_of_required required routine
  exact appendAudit_follows recorded.unapproved (records _ _ recorded)

theorem recordAction_follows {decisionId : String} {action : AuditAction}
    {actorType : ActorType} {attribution : Attribution}
    (routine : action.routine = true) :
    Tx.KeepsAt (Follows env admits)
      (recordAction env decisionId action actorType attribution) state := by
  refine keepsAt_ask_bind fun idea required => ?_
  refine Tx.keepsAt_bind (appendAction_follows records routine
    (.inr ⟨decisionId, required⟩)) ?_
  intro _ reached _
  exact keepsAt_ask

theorem recordProposal_follows {idea : TradeIdea} {actorType : ActorType}
    {attribution : Attribution} {evidence : List String} :
    Tx.KeepsAt (Follows env admits)
      (recordProposal env idea actorType attribution evidence) state := by
  have saved : Tx.KeepsAt (Follows env admits) (saveRecord env idea) state := by
    refine keepsAt_alter fun store changed => ?_
    split at changed
    · cases changed
      exact .single (.save idea)
    · obtain ⟨_, returned⟩ := Outcome.branch_eq_ok.mp changed
      cases returned
      exact .single (.save idea)
  refine Tx.keepsAt_bind saved ?_
  intro _ middle _
  refine Tx.keepsAt_bind (appendAction_follows records rfl (.inl rfl)) ?_
  intro _ reached _
  exact keepsAt_ask

theorem propose_follows {idea : TradeIdea} {actorType : ActorType}
    {attribution : Attribution} {evidence : List String} :
    Tx.KeepsAt (Follows env admits)
      (propose env idea actorType attribution evidence) state :=
  keepsAt_ask_bind fun _ _ => recordProposal_follows records

theorem proposeBatch_follows {ideas : List TradeIdea} {actorType : ActorType}
    {attribution : Attribution} {evidence : List String} :
    Tx.KeepsAt (Follows env admits)
      (proposeBatch env ideas actorType attribution evidence) state :=
  keepsAt_ask_bind fun _ _ => follows_each fun _ _ => propose_follows records

theorem resubmit_follows {idea : TradeIdea} {actorType : ActorType}
    {attribution : Attribution} :
    Tx.KeepsAt (Follows env admits) (resubmit env idea actorType attribution)
      state :=
  keepsAt_ask_bind fun _ _ => recordProposal_follows records

theorem expireDueIdeas_follows {actorType : ActorType}
    {attribution : Attribution} :
    Tx.KeepsAt (Follows env admits) (expireDueIdeas env actorType attribution)
      state := by
  refine keepsAt_now_bind fun started _ => ?_
  refine keepsAt_ask_bind fun budget _ => ?_
  refine keepsAt_ask_bind fun resolution _ => ?_
  refine keepsAt_ask_bind fun views _ => ?_
  exact follows_each fun view state =>
    recordAction_follows records rfl

theorem recordSubmission_follows {decisionId : String} {actorType : ActorType}
    {attribution : Attribution} {order : VenueOrder} {evidence : List String} :
    Tx.KeepsAt (Follows env admits)
      (recordSubmission env decisionId actorType attribution order evidence)
      state := by
  refine keepsAt_lift_bind fun _ _ => ?_
  refine keepsAt_ask_bind fun idea required => ?_
  refine keepsAt_ask_bind fun _ _ => ?_
  refine Tx.keepsAt_bind (appendAudit_follows (by decide) (records _ _
    (recorded_of_required required rfl))) ?_
  intro _ reached _
  exact keepsAt_ask

theorem recordFill_follows {decisionId : String} {actorType : ActorType}
    {attribution : Attribution} {order : VenueOrder} {evidence : List String} :
    Tx.KeepsAt (Follows env admits)
      (recordFill env decisionId actorType attribution order evidence) state := by
  refine keepsAt_lift_bind fun _ _ => ?_
  refine keepsAt_ask_bind fun idea required => ?_
  refine keepsAt_ask_bind fun receipt _ => ?_
  refine Tx.keepsAt_bind (appendAudit_follows (by decide) (records _ _
    (recorded_of_required required rfl))) ?_
  intro _ middle _
  refine keepsAt_ask_bind fun view _ => ?_
  refine keepsAt_lift_bind fun _ _ => ?_
  exact keepsAt_pure

end Operations

section Bookkeeping

theorem recordCloseoutAttribution_follows {decisionId : String}
    {actorType : ActorType} {actorId : String} {resolved : Resolved} :
    Tx.KeepsAt (Follows env admits)
      (recordCloseoutAttribution env decisionId actorType actorId resolved)
      state := by
  refine keepsAt_ask_bind fun basis _ => ?_
  refine Tx.keepsAt_bind (keepsAt_givenOr .refl) ?_
  intro timestamp timed _
  refine keepsAt_lift_bind fun record _ => ?_
  have appended : Tx.KeepsAt (Follows env admits) (appendCloseout record)
      timed := by
    refine keepsAt_alter fun store changed => ?_
    obtain ⟨closeouts, appended, rfl⟩ := Outcome.map_eq_ok.mp changed
    exact .single (.closeout appended)
  refine Tx.keepsAt_bind appended ?_
  intro _ reached _
  exact keepsAt_pure

theorem autoAttributeExpiredIdeas_follows {attribution : Attribution}
    {evidence : List String} :
    Tx.KeepsAt (Follows env admits)
      (autoAttributeExpiredIdeas env attribution evidence) state :=
  keepsAt_ask_bind fun _ _ =>
    follows_each fun _ _ => recordCloseoutAttribution_follows

theorem updateBudget_follows {budget : RiskBudget} {actorType : ActorType}
    {actorId : String} :
    Tx.KeepsAt (Follows env admits) (updateBudget env budget actorType actorId)
      state := by
  refine keepsAt_now_bind fun started _ => ?_
  refine Tx.keepsAt_bind (follows_of_settles decisionAutonomy_settles) ?_
  intro resolution resolved _
  dsimp only
  split
  · refine Tx.keepsAt_bind (follows_of_settles currentBudget_settles) ?_
    intro _ budgeted _
    refine keepsAt_now_bind fun timed _ => ?_
    have enacted : Tx.KeepsAt (Follows env admits) (appendBudget
        { timestamp := env.clock budgeted.readings
          actorType := actorType
          actorId := actorId
          budget := budget }) timed := by
      refine keepsAt_alter fun store changed => ?_
      obtain ⟨log, appended, rfl⟩ := Outcome.map_eq_ok.mp changed
      exact .single (.enact appended)
    refine Tx.keepsAt_bind enacted ?_
    intro _ middle _
    refine Tx.keepsAt_bind (follows_of_settles decisionAutonomy_settles) ?_
    intro _ reached _
    exact keepsAt_pure
  · exact keepsAt_raise

theorem setAutonomyMode_settles {mode : AutonomyMode} {actorType : ActorType}
    {actorId reason : String} {evidence : List String} :
    Tx.KeepsAt (Settles env)
      (setAutonomyMode env mode actorType actorId reason evidence) state := by
  refine Tx.keepsAt_bind currentAutonomy_settles ?_
  intro resolution resolved returned
  split
  · exact keepsAt_raise
  · next opened =>
      obtain ⟨active, read, current, _⟩ :=
        currentAutonomy_active returned opened
      dsimp only
      split
      · next allowed =>
          refine keepsAt_now_bind fun timed same => ?_
          refine keepsAt_lift_bind fun entry made => ?_
          obtain ⟨_, moded, typed, _⟩ :=
            make_eq_ok (Outcome.mapError_eq_ok.mp made)
          refine Tx.keepsAt_bind (appendAutonomy_settles
            (.change (by rw [same]; exact read) ?_)) ?_
          · rw [moded, typed, ← current]
            exact allowed
          · intro _ reached _
            exact keepsAt_pure
      · exact keepsAt_raise

theorem approvalViolations_settles {idea : TradeIdea} {actorType : ActorType} :
    Tx.KeepsAt (Settles env) (approvalViolations env idea actorType) state := by
  refine Tx.keepsAt_bind currentAutonomy_settles ?_
  intro resolution resolved _
  refine Tx.keepsAt_bind currentBudget_settles ?_
  intro budget budgeted _
  refine keepsAt_now_bind fun evaluated _ => ?_
  refine keepsAt_now_bind fun contexted _ => ?_
  exact keepsAt_ask

theorem resolveExecutionAutonomy_settles {at? : Option ℤ} :
    Tx.KeepsAt (Settles env) (resolveExecutionAutonomy env at?) state := by
  refine Tx.keepsAt_bind (keepsAt_givenOr .refl) ?_
  intro moment timed _
  exact decisionAutonomy_settles

end Bookkeeping

section Approvals

theorem checkApproval_settled {idea : TradeIdea} {actorType : ActorType}
    {check : KernelCheck} {reached : ServiceState}
    (returned : checkApproval env idea actorType state = (.ok check, reached)) :
    Settles env state reached := by
  have settled : Tx.KeepsAt (Settles env) (checkApproval env idea actorType)
      state := checkApproval_settles
  unfold Tx.KeepsAt at settled
  rwa [returned] at settled

/-- The approvals a state permits: `admits` lets them be appended. -/
def Permits (admits : TradeState → AuditEvent → Prop) (store : TradeState)
    (decisionId : String) : Prop :=
  ∀ event, Approves store event → event.decisionId = decisionId →
    event.beforeState = store.audit.currentState decisionId → admits store event

theorem recordApproval_follows {idea : TradeIdea} {check : KernelCheck}
    {attribution : Attribution} {evidence : List String}
    (permitted : Permits admits state.store idea.decisionId) :
    Tx.KeepsAt (Follows env admits)
      (recordApproval env idea check attribution evidence) state := by
  unfold recordApproval
  split
  · exact commitApproval_follows permitted
  · exact keepsAt_raise

theorem approve_follows {decisionId : String} {attribution : Attribution}
    (permitted : ∀ store, store.audit = state.store.audit →
      Permits admits store decisionId) :
    Tx.KeepsAt (Follows env admits) (approve env decisionId attribution)
      state := by
  refine keepsAt_ask_bind fun idea required => ?_
  refine Tx.keepsAt_bind (follows_of_settles checkApproval_settles) ?_
  intro check checked returned
  have same := (checkApproval_settled returned).sameRecords.audit
  have named := (TradeState.requireIdea_eq_ok required).1
  split
  · refine Tx.keepsAt_bind (recordApproval_follows ?_) ?_
    · rw [named]
      exact permitted checked.store same
    · intro _ reached _
      exact keepsAt_ask
  · exact keepsAt_raise

/-- The idea waits for review: the last event of its decision left it proposed,
with this record. -/
def Waiting (env : TradeEnv) (log : AuditLog) (idea : TradeIdea) : Prop :=
  ∃ last, log.lastEvent idea.decisionId = some last ∧
    last.afterState = .proposed ∧ env.recordHash idea = last.recordHash

theorem Waiting.currentState {log : AuditLog} {idea : TradeIdea}
    (waiting : Waiting env log idea) :
    log.currentState idea.decisionId = some .proposed := by
  obtain ⟨last, found, proposed, _⟩ := waiting
  unfold AuditLog.currentState
  rw [found, Option.map_some, proposed]

theorem Waiting.snoc {log : AuditLog} {idea : TradeIdea} {event : AuditEvent}
    (waiting : Waiting env log idea) (other : event.decisionId ≠ idea.decisionId) :
    Waiting env (log ++ [event]) idea := by
  obtain ⟨last, found, rest⟩ := waiting
  refine ⟨last, ?_, rest⟩
  rw [AuditLog.lastEvent_snoc, if_neg other]
  exact found

theorem sweepCandidate_follows {actorId : String} {idea : TradeIdea}
    (records : ∀ store event, Recorded store event → admits store event)
    (permitted : ∀ store, store.audit.currentState idea.decisionId =
      some .proposed → Permits admits store idea.decisionId)
    (waiting : Waiting env state.store.audit idea) :
    Tx.KeepsAt (Follows env admits) (sweepCandidate env actorId idea) state := by
  refine Tx.keepsAt_bind (follows_of_settles checkApproval_settles) ?_
  intro check checked returned
  rw [← (checkApproval_settled returned).sameRecords.audit] at waiting
  split
  · refine keepsAt_lift_bind fun attribution _ => ?_
    refine keepsAt_lift_bind fun evidence _ => ?_
    refine Tx.keepsAt_bind (recordApproval_follows
      (permitted checked.store waiting.currentState)) ?_
    intro _ middle _
    refine keepsAt_ask_bind fun view _ => ?_
    exact keepsAt_pure
  · have denied : Tx.KeepsAt (Follows env admits)
        (recordDeniedApproval env idea check (skippedAttribution actorId))
        checked := by
      unfold recordDeniedApproval
      split
      · exact keepsAt_raise
      · refine keepsAt_lift_bind fun evidence _ => ?_
        refine appendAudit_follows (by decide) (records _ _
          ⟨nofun, nofun, fun _ => waiting.currentState, .inr ?_⟩)
        obtain ⟨last, found, _, hashed⟩ := waiting
        intro other located
        obtain rfl : last = other := Option.some.inj (found.symm.trans located)
        exact hashed
    refine Tx.keepsAt_bind denied ?_
    intro _ middle _
    exact keepsAt_pure

theorem sweepCandidate_audit {actorId : String} {idea : TradeIdea}
    {outcome : SweepOutcome} {reached : ServiceState}
    (returned : sweepCandidate env actorId idea state = (.ok outcome, reached)) :
    ∃ event, event.decisionId = idea.decisionId ∧
      reached.store.audit = state.store.audit ++ [event] := by
  unfold sweepCandidate at returned
  rw [Tx.bind_eq_ok] at returned
  obtain ⟨check, checked, checks, returned⟩ := returned
  rw [← (checkApproval_settled checks).sameRecords.audit]
  split at returned
  · next admitted =>
      rw [Tx.bind_eq_ok] at returned
      obtain ⟨attribution, same, lifted, returned⟩ := returned
      obtain ⟨_, rfl⟩ := lift_eq_ok.mp lifted
      rw [Tx.bind_eq_ok] at returned
      obtain ⟨evidence, same, lifted, returned⟩ := returned
      obtain ⟨_, rfl⟩ := lift_eq_ok.mp lifted
      rw [Tx.bind_eq_ok] at returned
      obtain ⟨_, committed, recorded, returned⟩ := returned
      rw [Tx.bind_eq_ok] at returned
      obtain ⟨view, viewed, asked, returned⟩ := returned
      obtain ⟨_, rfl⟩ := ask_eq_ok.mp asked
      obtain ⟨_, rfl⟩ := Tx.pure_eq_ok.mp returned
      unfold recordApproval at recorded
      rw [if_pos admitted] at recorded
      obtain ⟨_, _, _, event, commit⟩ := commitApproval_eq_ok recorded
      exact ⟨event, commit.named, commit.audit⟩
  · next denied =>
      rw [Tx.bind_eq_ok] at returned
      obtain ⟨_, skipped, recorded, returned⟩ := returned
      obtain ⟨_, rfl⟩ := Tx.pure_eq_ok.mp returned
      unfold recordDeniedApproval at recorded
      rw [if_neg denied, Tx.bind_eq_ok] at recorded
      obtain ⟨evidence, same, lifted, recorded⟩ := recorded
      obtain ⟨_, rfl⟩ := lift_eq_ok.mp lifted
      obtain ⟨_, rfl⟩ := appendAudit_eq_ok recorded
      exact ⟨_, rfl, rfl⟩

theorem sweepCandidates_eq_ok {store : TradeState} {views : List TradeIdeaView}
    (found : sweepCandidates env store = .ok views) :
    (∀ view ∈ views, Waiting env store.audit view.idea) ∧
      (views.map fun view => view.idea.decisionId).Nodup := by
  unfold sweepCandidates TradeState.listViewsIn at found
  obtain ⟨_, listed, returned⟩ := Outcome.bind_eq_ok.mp found
  obtain ⟨all, viewed, filtered⟩ := Outcome.bind_eq_ok.mp listed
  cases filtered
  cases returned
  have named : all.map (fun view => view.idea.decisionId) = store.decisionIds :=
    Outcome.map_mapM viewed fun id view viewed =>
      (TradeState.requireIdea_eq_ok (TradeState.view_eq_ok viewed).1).1
  constructor
  · intro view member
    rw [List.mem_insertionSort, List.mem_filter, decide_eq_true_eq] at member
    obtain ⟨id, _, viewed⟩ := Outcome.mem_mapM viewed member.1
    obtain ⟨required, _, last, located, state, _⟩ := TradeState.view_eq_ok viewed
    obtain ⟨same, _, pinned⟩ := TradeState.requireIdea_eq_ok required
    exact ⟨last, by rw [same]; exact located, by rw [← state]; exact member.2,
      pinned last located⟩
  · have distinct : (all.map fun view => view.idea.decisionId).Nodup := by
      rw [named]
      exact (List.perm_insertionSort _ _).nodup_iff.mpr store.latest.nodup
    have kept := distinct.sublist
      ((List.filter_sublist (l := all)
        (p := fun view => decide (view.state = .proposed))).map _)
    exact ((List.perm_insertionSort _ _).map _).nodup_iff.mpr kept

theorem autoApproveSweep_follows {enabled : Bool} {actorId : String}
    (records : ∀ store event, Recorded store event → admits store event)
    (permitted : ∀ store decisionId, store.audit.currentState decisionId =
      some .proposed → Permits admits store decisionId) :
    Tx.KeepsAt (Follows env admits) (autoApproveSweep env enabled actorId)
      state := by
  unfold autoApproveSweep
  split
  · refine keepsAt_now_bind fun started _ => ?_
    refine Tx.keepsAt_bind (follows_of_settles decisionAutonomy_settles) ?_
    intro resolution resolved _
    dsimp only
    split
    · refine keepsAt_ask_bind fun candidates found => ?_
      obtain ⟨waiting, distinct⟩ := sweepCandidates_eq_ok found
      refine Tx.keepsAt_bind (Tx.keepsAt_forEach
        (fun (remaining : List TradeIdeaView) (state : ServiceState) =>
          (∀ view ∈ remaining, Waiting env state.store.audit view.idea) ∧
            (remaining.map fun view => view.idea.decisionId).Nodup)
        ?_ ?_ ⟨waiting, distinct⟩) ?_
      · intro view rest state held
        exact sweepCandidate_follows records
          (fun store => permitted store view.idea.decisionId)
          (held.1 view (by simp))
      · intro view rest state outcome reached held returned
        obtain ⟨event, named, appended⟩ := sweepCandidate_audit returned
        obtain ⟨fresh, others⟩ := List.nodup_cons.mp held.2
        refine ⟨fun other member => ?_, others⟩
        rw [appended]
        refine (held.1 other (by simp [member])).snoc ?_
        rw [named]
        exact fun same => fresh (List.mem_map.mpr ⟨other, member, same.symm⟩)
      · intro outcomes finished _
        exact keepsAt_pure
    · exact keepsAt_raise
  · exact keepsAt_raise

end Approvals

end ServiceTx

end GptTrader
