import GptTrader.TradeIdeas.ServiceRuns

/-!
# Only an admitted approval makes an idea approved

An idea is approved in a proposal round when its events have an approval after
the last proposal.  When no denial of an execution finds a proposed idea and no
approval finds an approved one, every approved, submitted or filled idea is
approved in its round.
-/

namespace GptTrader

/-- The round has one approval and no later proposal. -/
def ApprovedRound (events : List AuditEvent) : Prop :=
  ∃ earlier approval later, events = earlier ++ approval :: later ∧
    approval.action = .approved ∧ ∀ event ∈ later, event.action ≠ .proposed

def TradeIdeaState.afterApproval : TradeIdeaState → Prop
  | .approved => True
  | .submitted => True
  | .filled => True
  | _ => False

/-- The events that keep approvals honest: an approval does not find its idea
approved, and a denied execution does not find it proposed. -/
structure Honest (store : TradeState) (event : AuditEvent) : Prop where
  approval : event.action = .approved →
    store.audit.currentState event.decisionId ≠ some .approved
  denial : event.action = .autoExecutionSkipped →
    store.audit.currentState event.decisionId ≠ some .proposed

section Rounds

variable {events : List AuditEvent} {event : AuditEvent}

theorem ApprovedRound.snoc (round : ApprovedRound events)
    (unproposed : event.action ≠ .proposed) :
    ApprovedRound (events ++ [event]) := by
  obtain ⟨earlier, approval, later, rfl, approved, kept⟩ := round
  refine ⟨earlier, approval, later ++ [event], by simp, approved, ?_⟩
  intro other member
  rcases List.mem_append.mp member with before | same
  · exact kept other before
  · obtain rfl := List.mem_singleton.mp same
    exact unproposed

theorem approvedRound_snoc (approved : event.action = .approved) :
    ApprovedRound (events ++ [event]) :=
  ⟨events, event, [], rfl, approved, by simp⟩

/-- Every approved idea is in an approved round. -/
def Rounded (log : AuditLog) : Prop :=
  ∀ decisionId, ∀ state ∈ log.currentState decisionId, state.afterApproval →
    ApprovedRound (log.eventsOf decisionId)

theorem before_of_afterApproval {store : TradeState} (honest : Honest store event)
    (fits : AuditLog.Fits store.audit event)
    (past : event.afterState.afterApproval) :
    event.action = .approved ∨
      event.action ≠ .proposed ∧
        ∃ state ∈ store.audit.currentState event.decisionId,
          state.afterApproval := by
  have denial := honest.denial
  have allowed := fits.allowed
  rw [fits.before] at allowed
  rw [fits.after] at allowed past
  cases current : store.audit.currentState event.decisionId with
  | none =>
      rw [current] at allowed
      cases action : event.action <;>
        simp_all [Allowed, AuditAction.afterState, TradeIdeaState.afterApproval]
  | some state =>
      rw [current] at allowed denial
      cases action : event.action <;> cases state <;>
        simp_all [Allowed, AuditAction.afterState, TradeIdeaState.afterApproval,
          TradeIdeaState.allowedTransitions]

theorem Rounded.snoc {store : TradeState} (rounded : Rounded store.audit)
    (honest : Honest store event) (fits : AuditLog.Fits store.audit event) :
    Rounded (store.audit ++ [event]) := by
  intro decisionId state found past
  rw [AuditLog.currentState_snoc] at found
  rw [AuditLog.eventsOf_snoc]
  by_cases same : event.decisionId = decisionId
  · subst same
    rw [if_pos rfl] at found ⊢
    obtain rfl : event.afterState = state := Option.some.inj found
    rcases before_of_afterApproval honest fits past with
      approved | ⟨unproposed, before, current, earlier⟩
    · exact approvedRound_snoc approved
    · exact (rounded event.decisionId before current earlier).snoc unproposed
  · rw [if_neg same] at found ⊢
    exact rounded decisionId state found past

theorem Honest.before {store : TradeState} (honest : Honest store event)
    (fits : AuditLog.Fits store.audit event) (approved : event.action = .approved) :
    event.beforeState = some .proposed := by
  have other := honest.approval approved
  have allowed := fits.allowed
  rw [fits.before, fits.after, approved] at allowed
  rw [fits.before]
  cases current : store.audit.currentState event.decisionId with
  | none =>
      rw [current] at allowed
      cases allowed
  | some state =>
      rw [current] at allowed other
      cases state <;>
        simp_all [Allowed, AuditAction.afterState,
          TradeIdeaState.allowedTransitions]

end Rounds

/-- An event was appended by a commit between two states, whose own check of the
required record was admitted. -/
def CommittedBetween (env : TradeEnv) (start final : TradeState)
    (event : AuditEvent) : Prop :=
  ∃ idea check before after current fresh checked,
    Relation.ReflTransGen (Step env Honest) start before.store ∧
      ServiceTx.Commit env idea check before after current fresh checked event ∧
      Relation.ReflTransGen (Step env Honest) after.store final

/-- Only an admitted approval made ideas approved between two states. -/
structure OnlyAdmittedApprove (env : TradeEnv) (start final : TradeState) :
    Prop where
  rounded : Rounded final.audit
  proposed : ∀ event ∈ final.audit, event.action = .approved →
    event.beforeState = some .proposed
  committed : ∀ event ∈ final.audit, event.action = .approved →
    CommittedBetween env start final event

section Runs

variable {env : TradeEnv} {start before after : TradeState}

theorem CommittedBetween.step {event : AuditEvent}
    (committed : CommittedBetween env start before event)
    (step : Step env Honest before after) :
    CommittedBetween env start after event := by
  obtain ⟨idea, check, first, next, current, fresh, checked, reached, commit,
    later⟩ := committed
  exact ⟨idea, check, first, next, current, fresh, checked, reached, commit,
    later.tail step⟩

theorem Step.approval (step : Step env Honest before after)
    (reached : Relation.ReflTransGen (Step env Honest) start before)
    {event : AuditEvent} (appended : after.audit = before.audit ++ [event])
    (approved : event.action = .approved) :
    CommittedBetween env start after event := by
  have unchanged : after.audit ≠ before.audit := by
    rw [appended]
    simp
  cases step with
  | event recorded unapproved admitted =>
      obtain ⟨_, rfl⟩ := AuditLog.append_eq_ok.mp recorded
      obtain rfl := List.singleton_inj.mp (List.append_cancel_left appended)
      exact absurd approved unapproved
  | commit committed recorded admitted =>
      obtain ⟨current, fresh, checked, other, commit⟩ :=
        ServiceTx.commitApproval_eq_ok committed
      obtain rfl : other = event :=
        List.singleton_inj.mp (List.append_cancel_left
          (commit.audit.symm.trans appended))
      exact ⟨_, _, _, _, current, fresh, checked, reached, commit, .refl⟩
  | settle settled => exact absurd settled.sameRecords.audit unchanged
  | _ => exact absurd rfl unchanged

theorem OnlyAdmittedApprove.step
    (approves : OnlyAdmittedApprove env start before)
    (reached : Relation.ReflTransGen (Step env Honest) start before)
    (step : Step env Honest before after) :
    OnlyAdmittedApprove env start after := by
  rcases step.audit with same | ⟨event, fits, honest, appended⟩
  · refine
      { rounded := by rw [same]; exact approves.rounded
        proposed := by rw [same]; exact approves.proposed
        committed := ?_ }
    intro event member approved
    rw [same] at member
    exact (approves.committed event member approved).step step
  · refine
      { rounded := by rw [appended]; exact approves.rounded.snoc honest fits
        proposed := ?_
        committed := ?_ }
    · intro other member approved
      rw [appended] at member
      rcases List.mem_append.mp member with earlier | last
      · exact approves.proposed other earlier approved
      · obtain rfl := List.mem_singleton.mp last
        exact honest.before fits approved
    · intro other member approved
      rw [appended] at member
      rcases List.mem_append.mp member with earlier | last
      · exact (approves.committed other earlier approved).step step
      · obtain rfl := List.mem_singleton.mp last
        exact step.approval reached appended approved

theorem onlyAdmittedApprove_of_steps (fresh : start.audit = [])
    (steps : Relation.ReflTransGen (Step env Honest) start after) :
    OnlyAdmittedApprove env start after := by
  induction steps with
  | refl =>
      refine
        { rounded := ?_
          proposed := by simp [fresh]
          committed := by simp [fresh] }
      intro decisionId state found
      rw [fresh] at found
      cases found
  | tail reached step induction => exact induction.step reached step

end Runs

/-- No approval finds an approved idea, and no denial of an execution is recorded
on a proposed one. -/
def Call.FindsOpen : Call → ServiceState → Prop
  | .service (.approve decisionId _), state =>
      state.store.audit.currentState decisionId ≠ some .approved
  | .service (.commitApproval idea _ _ _), state =>
      state.store.audit.currentState idea.decisionId ≠ some .approved
  | .kernel (.recordApproval idea check _ _), state =>
      check.admitted = true →
        state.store.audit.currentState idea.decisionId ≠ some .approved
  | .kernel (.recordDeniedExecution idea check _), state =>
      check.admitted = false →
        state.store.audit.currentState idea.decisionId ≠ some .proposed
  | _, _ => True

theorem permits_of_unapproved {store : TradeState} {decisionId : String}
    (open' : store.audit.currentState decisionId ≠ some .approved) :
    ServiceTx.Permits Honest store decisionId := by
  rintro event approves rfl _
  exact
    { approval := fun _ => open'
      denial := by simp [approves.approved] }

theorem Call.FindsOpen.permitted {call : Call} {state : ServiceState}
    (finds : call.FindsOpen state) : call.Permitted Honest state := by
  rcases call with call | call | call
  · cases call with
    | approve decisionId attribution =>
        intro store same
        exact permits_of_unapproved (by rw [same]; exact finds)
    | commitApproval => exact permits_of_unapproved finds
    | _ => trivial
  · cases call with
    | recordApproval =>
        exact fun admitted => permits_of_unapproved (finds admitted)
    | recordDeniedApproval =>
        intro event skipped _
        exact
          { approval := by simp [skipped]
            denial := by simp [skipped] }
    | recordDeniedExecution =>
        intro denied event skipped named _
        exact
          { approval := by simp [skipped]
            denial := fun _ => by rw [named]; exact finds denied }
  · trivial

theorem honest_lawful : Lawful Honest where
  records := fun _ _ recorded =>
    { approval := fun approved => absurd approved recorded.unapproved
      denial := fun skipped => absurd skipped recorded.unskipped }
  proposed := fun _ _ proposed =>
    permits_of_unapproved (by simp [proposed])

/-- In every run whose calls find their ideas open, from an empty audit log, only
an admitted approval makes an idea approved. -/
theorem Call.run_onlyAdmittedApprove (env : TradeEnv) (calls : List Call)
    (state : ServiceState) (fresh : state.store.audit = [])
    (finds : RunMeets env FindsOpen calls state) :
    OnlyAdmittedApprove env state.store (Call.run env calls state).store := by
  have permitted : RunMeets env (Permitted Honest) calls state := by
    clear fresh
    induction calls generalizing state with
    | nil => trivial
    | cons call rest induction =>
        exact ⟨finds.1.permitted, induction _ finds.2⟩
  exact onlyAdmittedApprove_of_steps fresh
    (run_follows honest_lawful calls permitted)

section Examples

/-- An idea is proposed, approved, submitted and filled. -/
theorem traded_run_onlyAdmittedApprove :
    OnlyAdmittedApprove paperEnv freshState.store
      (Call.run paperEnv tradedRun freshState).store :=
  Call.run_onlyAdmittedApprove paperEnv tradedRun freshState rfl
    ⟨trivial, trivial, by change _ ≠ _; decide +kernel, trivial, trivial, trivial⟩

def proposedState : ServiceState :=
  Call.run paperEnv [.service (.propose entryIdea .ai operator [])] freshState

def deniedExecution : KernelCheck :=
  { action := .submitted
    decisionId := "entry-1"
    actorType := .system
    evaluatedAt := 0
    autonomy := ServiceTx.seededResolution
    violations :=
      ["system-approved execution requires audited autonomy mode " ++
        "'bounded_autonomy'; resolved 'human_approved_execution' " ++
        "(source=autonomy_state_log)"]
    budget := none
    budgetContext := none
    candidateMaxLossPct := none }

/-- A denied execution of a proposed idea approves it: the kernel returned the
check, and recording it makes the idea approved without any approval. -/
theorem denied_execution_approves :
    (ServiceTx.checkExecution paperEnv "entry-1" .system none
        proposedState).1.toOption = some deniedExecution ∧
      ¬OnlyAdmittedApprove paperEnv freshState.store
        (Call.run paperEnv
          [.service (.propose entryIdea .ai operator []),
            .service (.resolveExecutionAutonomy none),
            .kernel (.recordDeniedExecution entryIdea deniedExecution operator)]
          freshState).store := by
  constructor
  · decide +kernel
  · intro approves
    obtain ⟨earlier, approval, later, split, approved, _⟩ :=
      approves.rounded "entry-1" .approved (by decide +kernel) trivial
    have unapproved : ∀ event ∈ AuditLog.eventsOf (Call.run paperEnv
        [.service (.propose entryIdea .ai operator []),
          .service (.resolveExecutionAutonomy none),
          .kernel (.recordDeniedExecution entryIdea deniedExecution operator)]
        freshState).store.audit "entry-1", event.action ≠ .approved := by
      decide +kernel
    exact unapproved approval (by rw [split]; simp) approved

end Examples

end GptTrader
