import GptTrader.TradeIdeas.AuditCourse
import GptTrader.TradeIdeas.ServiceRuns

/-!
# What is executed is what was approved

Over every run of the service's operations the audit log is legal and each
decision runs one course: its submission and its fill carry the record hash of
its latest approval and of its latest proposal.
-/

namespace GptTrader

namespace AuditLog

variable {log : AuditLog} {event : AuditEvent}

theorem path_of_legal (legal : Legal log) (decisionId : String) :
    Path none (log.eventsOf decisionId) := by
  induction log using List.reverseRecOn with
  | nil => trivial
  | append_singleton log event induction =>
      obtain ⟨earlier, fits⟩ := legal_snoc.mp legal
      rw [eventsOf_snoc]
      split
      · next same =>
          refine path_snoc.mpr ⟨induction earlier, ?_, fits.after, ?_, trivial⟩
          · rw [Option.or_none, fits.before, same]
            rfl
          · have allowed := fits.allowed
            rw [fits.before, same] at allowed
            rw [Option.or_none]
            exact allowed
      · exact induction earlier

theorem not_terminal_of_legal (legal : Legal log) {earlier later : AuditLog}
    (split : log = earlier ++ event :: later) {state : TradeIdeaState}
    (current : earlier.currentState event.decisionId = some state) :
    state.terminal = false := by
  have fits := legal earlier event later split
  have allowed := fits.allowed
  rw [fits.before, current] at allowed
  unfold TradeIdeaState.terminal
  cases transitions : state.allowedTransitions with
  | nil =>
      change event.afterState ∈ state.allowedTransitions at allowed
      rw [transitions] at allowed
      cases allowed
  | cons next rest => rfl

/-- Every decision ran a legal course. -/
def Coursed (log : AuditLog) : Prop :=
  ∀ decisionId, ∀ last ∈ log.lastEvent decisionId,
    Course (log.eventsOf decisionId) last

def Serviced (store : TradeState) (event : AuditEvent) : Prop :=
  Recorded store event ∨ Approves store event

theorem continues_of_serviced {store : TradeState} {last : AuditEvent}
    (serviced : Serviced store event) (fits : Fits store.audit event)
    (found : store.audit.lastEvent event.decisionId = some last) :
    Continues last event := by
  have allowed := fits.allowed
  rw [fits.before, currentState, found] at allowed
  rcases serviced with recorded | approves
  · exact
      { action := fits.after
        allowed := allowed
        unskipped := recorded.unskipped
        pinned := recorded.pinned.imp_right fun pinned => pinned last found }
  · exact
      { action := fits.after
        allowed := allowed
        unskipped := by simp [approves.approved]
        pinned := .inr (approves.pinned last found) }

theorem proposed_of_serviced {store : TradeState}
    (serviced : Serviced store event) (fits : Fits store.audit event)
    (absent : store.audit.lastEvent event.decisionId = none) :
    event.action = .proposed := by
  have current : store.audit.currentState event.decisionId = none := by
    rw [currentState, absent]
    rfl
  have allowed := fits.allowed
  rw [fits.before, current, fits.after] at allowed
  rcases serviced with recorded | approves
  · have waiting := recorded.waiting
    have unskipped := recorded.unskipped
    rw [current] at waiting
    cases action : event.action <;>
      simp_all [Allowed, AuditAction.afterState]
  · rw [approves.approved] at allowed
    cases allowed

theorem Coursed.snoc {store : TradeState} (coursed : Coursed store.audit)
    (serviced : Serviced store event) (fits : Fits store.audit event) :
    Coursed (store.audit ++ [event]) := by
  intro decisionId last located
  rw [lastEvent_snoc] at located
  rw [eventsOf_snoc]
  by_cases same : event.decisionId = decisionId
  · subst same
    rw [if_pos rfl] at located ⊢
    obtain rfl : event = last := Option.some.inj located
    cases found : store.audit.lastEvent event.decisionId with
    | none =>
        have empty : store.audit.eventsOf event.decisionId = [] :=
          List.getLast?_eq_none_iff.mp found
        rw [empty]
        exact course_first (proposed_of_serviced serviced fits found) fits.after
    | some earlier =>
        exact (coursed event.decisionId earlier found).continue
          (continues_of_serviced serviced fits found)
  · rw [if_neg same] at located ⊢
    exact coursed decisionId last located

/-- What is executed is what was approved. -/
structure ExecutesApproved (log : AuditLog) : Prop where
  path : ∀ decisionId, Path none (log.eventsOf decisionId)
  executed : ∀ event ∈ log, event.executed →
    Carries .approved (log.eventsOf event.decisionId) event.recordHash ∧
      Carries .proposed (log.eventsOf event.decisionId) event.recordHash
  submitted : ∀ decisionId,
    occurrences .submitted (log.eventsOf decisionId) ≤ 1
  filled : ∀ decisionId, occurrences .filled (log.eventsOf decisionId) ≤ 1
  final : ∀ (earlier later : AuditLog) (event : AuditEvent),
    log = earlier ++ event :: later →
      ∀ state, earlier.currentState event.decisionId = some state →
        state.terminal = false
  verified : verify log = .ok log

theorem executesApproved_of_coursed (legal : Legal log) (coursed : Coursed log) :
    ExecutesApproved log := by
  have counted : ∀ decisionId,
      occurrences .submitted (log.eventsOf decisionId) ≤ 1 ∧
        occurrences .filled (log.eventsOf decisionId) ≤ 1 := by
    intro decisionId
    cases found : log.lastEvent decisionId with
    | none =>
        rw [show log.eventsOf decisionId = [] from
          List.getLast?_eq_none_iff.mp found]
        exact ⟨zero_le_one, zero_le_one⟩
    | some last =>
        have course := coursed decisionId last found
        exact ⟨course.submitted, course.filled⟩
  refine
    { path := path_of_legal legal
      executed := ?_
      submitted := fun decisionId => (counted decisionId).1
      filled := fun decisionId => (counted decisionId).2
      final := fun _ _ _ split _ current =>
        not_terminal_of_legal legal split current
      verified := verify_of_legal legal }
  intro event member executed
  have own : event ∈ log.eventsOf event.decisionId := by
    simp [eventsOf, member]
  cases found : log.lastEvent event.decisionId with
  | none =>
      have empty : log.eventsOf event.decisionId = [] :=
        List.getLast?_eq_none_iff.mp found
      rw [empty] at own
      cases own
  | some last =>
      exact (coursed event.decisionId last found).executed event own executed

end AuditLog

def Call.ofService : Call → Bool
  | .kernel _ => false
  | _ => true

theorem Call.ofService_permitted {call : Call} (service : call.ofService = true)
    (state : ServiceState) : call.Permitted AuditLog.Serviced state := by
  rcases call with call | call | call
  · cases call with
    | approve => exact fun _ _ _ approves _ _ => .inr approves
    | commitApproval => exact fun _ approves _ _ => .inr approves
    | _ => trivial
  · cases service
  · trivial

/-- Over every run of the service's operations and the journal's writers, from an
empty audit log, what is executed is what was approved. -/
theorem Call.run_executesApproved (env : TradeEnv) (calls : List Call)
    (service : ∀ call ∈ calls, call.ofService = true) (state : ServiceState)
    (fresh : state.store.audit = []) :
    AuditLog.ExecutesApproved (Call.run env calls state).store.audit := by
  have permitted : RunMeets env (Permitted AuditLog.Serviced) calls state := by
    clear fresh
    induction calls generalizing state with
    | nil => trivial
    | cons call rest induction =>
        exact ⟨ofService_permitted (service call (by simp)) state,
          induction (fun other member => service other (by simp [member])) _⟩
  have follows := run_follows
    { records := fun _ _ => .inl
      proposed := fun _ _ _ _ approves _ _ => .inr approves } calls permitted
  have kept : AuditLog.Legal (Call.run env calls state).store.audit ∧
      AuditLog.Coursed (Call.run env calls state).store.audit := by
    refine follows.audit_induction
      (fun log => AuditLog.Legal log ∧ AuditLog.Coursed log) ?_ ?_
    · rw [fresh]
      exact ⟨AuditLog.legal_nil, fun _ _ located => by cases located⟩
    · intro store event holds fits serviced
      exact ⟨AuditLog.legal_snoc.mpr ⟨holds.1, fits⟩,
        holds.2.snoc serviced fits⟩
  exact AuditLog.executesApproved_of_coursed kept.1 kept.2

/-- The traded idea was approved before it was submitted. -/
theorem traded_run_executesApproved :
    AuditLog.ExecutesApproved
      (Call.run paperEnv tradedRun freshState).store.audit :=
  Call.run_executesApproved paperEnv tradedRun (by decide) freshState rfl

end GptTrader
