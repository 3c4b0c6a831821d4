import GptTrader.TradeIdeas.KernelEffects
import GptTrader.TradeIdeas.Service

/-!
# The steps of the trade-idea service

Every change of the durable state is one of a few steps: a decision settles its
logs, a record version is saved, an event is appended, an approval is committed,
a budget is enacted, a closeout is appended, or the journal grows.  Each
operation leaves a state its steps reach, whatever its outcome, so an invariant
of the steps is an invariant of all operations.
-/

namespace GptTrader

section Lookups

variable {env : TradeEnv} {store : TradeState}

theorem TradeState.loadRecordVersion_eq_ok {decisionId recordHash : String}
    {idea : TradeIdea}
    (loaded : store.loadRecordVersion env decisionId recordHash = .ok idea) :
    store.versions.get? (decisionId, recordHash) = some idea ∧
      idea.decisionId = decisionId ∧ env.recordHash idea = recordHash := by
  unfold TradeState.loadRecordVersion at loaded
  simp only at loaded
  split at loaded
  · cases loaded
  · next found stored =>
      rw [Outcome.branch_eq_ok, Outcome.branch_eq_ok] at loaded
      obtain ⟨named, hashed, returned⟩ := loaded
      cases returned
      exact ⟨stored, named, hashed⟩

theorem TradeState.requireIdea_eq_ok {decisionId : String} {idea : TradeIdea}
    (required : store.requireIdea env decisionId = .ok idea) :
    idea.decisionId = decisionId ∧
      store.latest.get? decisionId = some (env.recordHash idea) ∧
      ∀ last ∈ store.audit.lastEvent decisionId,
        env.recordHash idea = last.recordHash := by
  unfold TradeState.requireIdea at required
  split at required
  · cases required
  · next recordHash latest =>
      rw [Outcome.bind_eq_ok] at required
      obtain ⟨found, loaded, required⟩ := required
      rw [Outcome.bind_eq_ok] at required
      obtain ⟨_, verified, returned⟩ := required
      cases returned
      obtain ⟨_, named, hashed⟩ := loadRecordVersion_eq_ok loaded
      refine ⟨named, by rw [latest, hashed], ?_⟩
      intro last found
      unfold TradeState.verifyLatestRecordIsAudited at verified
      rw [named, Option.mem_def.mp found] at verified
      exact (Outcome.branch_eq_ok.mp verified).1

theorem TradeState.view_eq_ok {decisionId : String} {view : TradeIdeaView}
    (viewed : store.view env decisionId = .ok view) :
    store.requireIdea env decisionId = .ok view.idea ∧
      view.events = store.audit.eventsOf decisionId ∧
      ∃ last, store.audit.lastEvent decisionId = some last ∧
        view.state = last.afterState ∧
        store.validatedCloseoutAttribution view.idea last =
          .ok view.closeoutAttribution := by
  unfold TradeState.view at viewed
  rw [Outcome.bind_eq_ok] at viewed
  obtain ⟨idea, required, viewed⟩ := viewed
  split at viewed
  · cases viewed
  · next last found =>
      rw [Outcome.bind_eq_ok] at viewed
      obtain ⟨closeout, validated, returned⟩ := viewed
      cases returned
      exact ⟨required, rfl, last, found, rfl, validated⟩

end Lookups

def Pinned (log : AuditLog) (event : AuditEvent) : Prop :=
  ∀ last ∈ log.lastEvent event.decisionId, event.recordHash = last.recordHash

def AuditAction.routine : AuditAction → Bool
  | .approved => false
  | .autoApprovalSkipped => false
  | .autoExecutionSkipped => false
  | _ => true

/-- What the service says of an event it appends outside an approval. -/
structure Recorded (store : TradeState) (event : AuditEvent) : Prop where
  unapproved : event.action ≠ .approved
  unskipped : event.action ≠ .autoExecutionSkipped
  waiting : event.action = .autoApprovalSkipped →
    store.audit.currentState event.decisionId = some .proposed
  pinned : event.action = .proposed ∨ Pinned store.audit event

theorem Recorded.of_routine {store : TradeState} {event : AuditEvent}
    (routine : event.action.routine = true)
    (pinned : event.action = .proposed ∨ Pinned store.audit event) :
    Recorded store event := by
  refine ⟨?_, ?_, ?_, pinned⟩
  · intro approved
    rw [approved] at routine
    cases routine
  · intro skipped
    rw [skipped] at routine
    cases routine
  · intro skipped
    rw [skipped] at routine
    cases routine

/-- What a commit says of the approval it appends. -/
structure Approves (store : TradeState) (event : AuditEvent) : Prop where
  approved : event.action = .approved
  pinned : Pinned store.audit event

/-- One change of the durable state.  `admits` says which events may be appended
to which states. -/
inductive Step (env : TradeEnv) (admits : TradeState → AuditEvent → Prop) :
    TradeState → TradeState → Prop where
  | settle {before after : TradeState} (settled : Settle env before after) :
      Step env admits before after
  | save {store : TradeState} (idea : TradeIdea) :
      Step env admits store (store.saved env idea)
  | event {store : TradeState} {audit : AuditLog} {event : AuditEvent}
      (appended : store.audit.append event = .ok audit)
      (unapproved : event.action ≠ .approved) (admitted : admits store event) :
      Step env admits store { store with audit := audit }
  | commit {before after : ServiceState} {idea : TradeIdea} {check : KernelCheck}
      {attribution : ServiceTx.Attribution} {evidence : List String}
      {event : AuditEvent}
      (committed : ServiceTx.commitApproval env idea check attribution evidence
        before = (.ok (), after))
      (recorded : after.store.audit = before.store.audit ++ [event])
      (admitted : admits before.store event) :
      Step env admits before.store after.store
  | enact {store : TradeState} {budget : RiskBudgetLog} {entry : BudgetLogEntry}
      (appended : store.budget.append entry = .ok budget) :
      Step env admits store { store with budget := budget }
  | closeout {store : TradeState} {closeouts : CloseoutAttributionLog}
      {record : CloseoutAttribution}
      (appended : store.closeouts.append record = .ok closeouts) :
      Step env admits store { store with closeouts := closeouts }
  | journal {store : TradeState} {lines : List StoredLine}
      (grown : store.journal <+: lines) :
      Step env admits store { store with journal := lines }

abbrev Follows (env : TradeEnv) (admits : TradeState → AuditEvent → Prop) :
    ServiceState → ServiceState → Prop :=
  Over (Step env admits)

namespace ServiceTx

variable {env : TradeEnv} {admits : TradeState → AuditEvent → Prop}
variable {state reached : ServiceState} {α : Type}

theorem follows_of_settles {body : ServiceTx α}
    (settles : Tx.KeepsAt (Settles env) body state) :
    Tx.KeepsAt (Follows env admits) body state :=
  Over.mono (fun _ _ settled => .settle settled) settles

section Events

variable {idea : TradeIdea} {action : AuditAction} {actorType : ActorType}
variable {actorId reason venue externalOrderId : String}
variable {evidence : List String}

def auditEvent (env : TradeEnv) (state : ServiceState) (idea : TradeIdea)
    (action : AuditAction) (actorType : ActorType) (actorId reason : String)
    (evidence : List String) (venue externalOrderId : String) : AuditEvent :=
  { eventId := env.eventId state.readings
    timestamp := env.clock (state.readings + 1)
    decisionId := idea.decisionId
    actorType := actorType
    actorId := actorId
    action := action
    beforeState := state.store.audit.currentState idea.decisionId
    afterState := action.afterState
    reason := reason
    recordHash := env.recordHash idea
    evidence := evidence
    venue := venue
    externalOrderId := externalOrderId }

def withAudit (state : ServiceState) (audit : AuditLog) : ServiceState :=
  { store := { state.store with audit := audit }
    readings := state.readings + 2 }

theorem appendAudit_apply :
    appendAudit env idea action actorType actorId reason evidence venue
        externalOrderId state =
      match state.store.audit.append (auditEvent env state idea action actorType
        actorId reason evidence venue externalOrderId) with
      | .ok audit => (.ok (), withAudit state audit)
      | .error error =>
          (.error error, { state with readings := state.readings + 2 }) := by
  unfold appendAudit recordEvent auditEvent withAudit
  rw [Tx.bind_apply]
  change (now env >>= _) { state with readings := state.readings + 1 } = _
  rw [Tx.bind_apply, now_apply]
  simp only [Tx.bind_apply, ask, Tx.read_apply, alter_apply]
  cases state.store.audit.append _ <;> rfl

theorem appendAudit_eq_ok
    (returned : appendAudit env idea action actorType actorId reason evidence
      venue externalOrderId state = (.ok (), reached)) :
    AuditLog.Fits state.store.audit (auditEvent env state idea action actorType
        actorId reason evidence venue externalOrderId) ∧
      reached = withAudit state (state.store.audit ++
        [auditEvent env state idea action actorType actorId reason evidence venue
          externalOrderId]) := by
  rw [appendAudit_apply] at returned
  split at returned
  · next audit appended =>
      cases returned
      obtain ⟨fits, rfl⟩ := AuditLog.append_eq_ok.mp appended
      exact ⟨fits, rfl⟩
  · cases returned

theorem appendAudit_follows (unapproved : action ≠ .approved)
    (admitted : admits state.store (auditEvent env state idea action actorType
      actorId reason evidence venue externalOrderId)) :
    Tx.KeepsAt (Follows env admits) (appendAudit env idea action actorType actorId
      reason evidence venue externalOrderId) state := by
  unfold Tx.KeepsAt
  rw [appendAudit_apply]
  split
  · next audit appended => exact .single (.event appended unapproved admitted)
  · exact .refl

theorem pinned_of_required {decisionId : String}
    (required : state.store.requireIdea env decisionId = .ok idea) :
    Pinned state.store.audit (auditEvent env state idea action actorType actorId
      reason evidence venue externalOrderId) := by
  obtain ⟨named, _, pinned⟩ := TradeState.requireIdea_eq_ok required
  intro last found
  exact pinned last (named ▸ found)

end Events

section Commits

variable {idea : TradeIdea} {check : KernelCheck} {attribution : Attribution}
variable {evidence : List String}

/-- What a committed approval went through: its own check of the required record
was admitted, and then it appended its event. -/
structure Commit (env : TradeEnv) (idea : TradeIdea) (check : KernelCheck)
    (before after : ServiceState) (current : TradeIdea) (fresh : KernelCheck)
    (checked : ServiceState) (event : AuditEvent) : Prop where
  required : before.store.requireIdea env idea.decisionId = .ok current
  checks : checkApproval env current check.actorType before = (.ok fresh, checked)
  admitted : fresh.violations = []
  fits : AuditLog.Fits checked.store.audit event
  appended : after = withAudit checked (checked.store.audit ++ [event])
  named : event.decisionId = idea.decisionId
  action : event.action = .approved
  hashed : event.recordHash = env.recordHash current
  actor : event.actorType = check.actorType

theorem checkApproval_actorType {actorType : ActorType} {current : TradeIdea}
    (returned : checkApproval env current actorType state = (.ok check, reached)) :
    check.actorType = actorType := by
  unfold checkApproval at returned
  simp only [Tx.bind_eq_ok] at returned
  obtain ⟨_, _, _, _, _, _, _, _, _, _, _, _, _, _, _, returned⟩ := returned
  obtain ⟨rfl, _⟩ := Tx.pure_eq_ok.mp returned
  rfl

theorem commitApproval_eq_ok
    (returned : commitApproval env idea check attribution evidence state =
      (.ok (), reached)) :
    ∃ current fresh checked event,
      Commit env idea check state reached current fresh checked event := by
  unfold commitApproval at returned
  rw [Tx.bind_eq_ok] at returned
  obtain ⟨current, between, asked, returned⟩ := returned
  obtain ⟨required, rfl⟩ := ask_eq_ok.mp asked
  split at returned
  · rw [Tx.bind_eq_ok] at returned
    obtain ⟨fresh, checked, checks, returned⟩ := returned
    split at returned
    · next admitted =>
        rw [Tx.bind_eq_ok] at returned
        obtain ⟨committed, same, lifted, returned⟩ := returned
        obtain ⟨_, rfl⟩ := lift_eq_ok.mp lifted
        obtain ⟨fits, appended⟩ := appendAudit_eq_ok returned
        exact ⟨current, fresh, checked, _,
          { required := required
            checks := checks
            admitted := by simpa [KernelCheck.admitted] using admitted
            fits := fits
            appended := appended
            named := (TradeState.requireIdea_eq_ok required).1
            action := rfl
            hashed := rfl
            actor := checkApproval_actorType checks }⟩
    · cases returned
  · cases returned

variable {current : TradeIdea} {fresh : KernelCheck} {checked : ServiceState}
variable {event : AuditEvent}

section

variable (commit : Commit env idea check state reached current fresh checked event)

include commit

theorem Commit.settles :
    Settles env state checked := by
  have settled : Tx.KeepsAt (Settles env)
      (checkApproval env current check.actorType) state :=
    checkApproval_settles
  unfold Tx.KeepsAt at settled
  rwa [commit.checks] at settled

theorem Commit.audit :
    reached.store.audit = state.store.audit ++ [event] := by
  rw [commit.appended, ← commit.settles.sameRecords.audit]
  rfl

theorem Commit.approves :
    Approves state.store event := by
  refine ⟨commit.action, ?_⟩
  intro last found
  rw [commit.hashed]
  exact (TradeState.requireIdea_eq_ok commit.required).2.2 last
    (commit.named ▸ found)

end

/-- A commit that raised only settled: before its append it changes nothing else,
and a failing append changes nothing. -/
theorem commitApproval_eq_error {error : ServiceError}
    (raised : commitApproval env idea check attribution evidence state =
      (.error error, reached)) : Settles env state reached := by
  unfold commitApproval at raised
  rcases Tx.bind_eq_error.mp raised with asked | ⟨current, same, asked, raised⟩
  · rw [(ask_eq_error.mp asked).2]
    exact .refl
  · obtain ⟨required, rfl⟩ := ask_eq_ok.mp asked
    split at raised
    · have settled : Tx.KeepsAt (Settles env)
          (checkApproval env current check.actorType) state :=
        checkApproval_settles
      unfold Tx.KeepsAt at settled
      rcases Tx.bind_eq_error.mp raised with checks | ⟨fresh, checked, checks, raised⟩
      · rwa [checks] at settled
      · rw [checks] at settled
        split at raised
        · rcases Tx.bind_eq_error.mp raised with
            lifted | ⟨committed, same, lifted, raised⟩
          · rw [← (lift_eq_error.mp lifted).2]
            exact settled
          · obtain ⟨_, rfl⟩ := lift_eq_ok.mp lifted
            rw [appendAudit_apply] at raised
            split at raised
            · cases raised
            · cases raised
              exact settled
        · cases raised
          exact settled
    · cases raised
      exact .refl

theorem commitApproval_follows
    (admitted : ∀ event, Approves state.store event →
      event.decisionId = idea.decisionId →
      event.beforeState = state.store.audit.currentState idea.decisionId →
        admits state.store event) :
    Tx.KeepsAt (Follows env admits)
      (commitApproval env idea check attribution evidence) state := by
  unfold Tx.KeepsAt
  match outcome : commitApproval env idea check attribution evidence state with
  | (.ok (), reached) =>
      obtain ⟨current, fresh, checked, event, commit⟩ :=
        commitApproval_eq_ok outcome
      refine .single (.commit outcome commit.audit
        (admitted event commit.approves commit.named ?_))
      rw [commit.fits.before, commit.settles.sameRecords.audit, commit.named]
  | (.error error, reached) =>
      exact Over.mono (fun _ _ settled => .settle settled)
        (commitApproval_eq_error outcome)

end Commits

end ServiceTx

section Audit

variable {env : TradeEnv} {admits : TradeState → AuditEvent → Prop}

theorem Step.audit {before after : TradeState}
    (step : Step env admits before after) :
    after.audit = before.audit ∨
      ∃ event, AuditLog.Fits before.audit event ∧ admits before event ∧
        after.audit = before.audit ++ [event] := by
  cases step with
  | settle settled => exact .inl settled.sameRecords.audit
  | save idea => exact .inl rfl
  | event appended unapproved admitted =>
      obtain ⟨fits, rfl⟩ := AuditLog.append_eq_ok.mp appended
      exact .inr ⟨_, fits, admitted, rfl⟩
  | commit committed recorded admitted =>
      obtain ⟨_, _, checked, event, commit⟩ :=
        ServiceTx.commitApproval_eq_ok committed
      obtain rfl : event = _ :=
        List.singleton_inj.mp (List.append_cancel_left
          (commit.audit.symm.trans recorded))
      have fits := commit.fits
      rw [commit.settles.sameRecords.audit] at fits
      exact .inr ⟨event, fits, admitted, commit.audit⟩
  | enact appended => exact .inl rfl
  | closeout appended => exact .inl rfl
  | journal grown => exact .inl rfl

theorem Follows.audit_induction (property : AuditLog → Prop)
    {before after : ServiceState} (follows : Follows env admits before after)
    (holds : property before.store.audit)
    (kept : ∀ (store : TradeState) event, property store.audit →
      AuditLog.Fits store.audit event → admits store event →
        property (store.audit ++ [event])) :
    property after.store.audit := by
  have held : ∀ {first last : TradeState},
      Relation.ReflTransGen (Step env admits) first last →
        property first.audit → property last.audit := by
    intro first last follows holds
    induction follows with
    | refl => exact holds
    | tail _ step induction =>
        rcases step.audit with same | ⟨event, fits, admitted, appended⟩
        · rw [same]
          exact induction
        · rw [appended]
          exact kept _ event induction fits admitted
  exact held follows holds

end Audit

end GptTrader
