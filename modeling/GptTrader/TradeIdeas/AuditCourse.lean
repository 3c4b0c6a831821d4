import GptTrader.TradeIdeas.Workflow

/-!
# The course of one decision

The events of a decision form a path of the workflow.  Along a path whose events
repeat the record hash of the event before them, unless they are proposals, the
submission and the fill of a decision carry the hash of its latest approval and
of its latest proposal.
-/

namespace GptTrader

/-- A legal path of the workflow from a state: each event claims the state the
event before it led to. -/
def Path (state : Option TradeIdeaState) : List AuditEvent → Prop
  | [] => True
  | event :: rest =>
      event.beforeState = state ∧ event.afterState = event.action.afterState ∧
        Allowed state event.afterState ∧ Path (some event.afterState) rest

theorem path_snoc {state : Option TradeIdeaState} {events : List AuditEvent}
    {event : AuditEvent} :
    Path state (events ++ [event]) ↔
      Path state events ∧
        Path ((events.getLast?.map AuditEvent.afterState).or state) [event] := by
  induction events generalizing state with
  | nil => simp [Path]
  | cons first rest induction =>
      simp only [List.cons_append, Path, induction, List.getLast?_cons]
      cases rest.getLast? <;> simp [and_assoc]

/-- The last event of an action. -/
def latest (action : AuditAction) (events : List AuditEvent) :
    Option AuditEvent :=
  (events.filter fun event => decide (event.action = action)).getLast?

def occurrences (action : AuditAction) (events : List AuditEvent) : ℕ :=
  events.countP fun event => decide (event.action = action)

section Laws

variable {action : AuditAction} {events : List AuditEvent} {event : AuditEvent}

theorem latest_snoc :
    latest action (events ++ [event]) =
      if event.action = action then some event else latest action events := by
  unfold latest
  rw [List.filter_append]
  split
  · next same => simp [same]
  · next other => simp [other]

theorem occurrences_snoc :
    occurrences action (events ++ [event]) =
      occurrences action events + if event.action = action then 1 else 0 := by
  unfold occurrences
  rw [List.countP_append]
  split
  · next same => simp [same]
  · next other => simp [other]

theorem occurrences_eq_zero :
    occurrences action events = 0 ↔ ∀ event ∈ events, event.action ≠ action := by
  unfold occurrences
  simp [List.countP_eq_zero]

end Laws

def AuditEvent.executed (event : AuditEvent) : Prop :=
  event.action = .submitted ∨ event.action = .filled

/-- An event of the action carries this hash. -/
def Carries (action : AuditAction) (events : List AuditEvent)
    (recordHash : String) : Prop :=
  ∃ found, latest action events = some found ∧ found.recordHash = recordHash

/-- What a decision has been through when `last` is its last event. -/
structure Course (events : List AuditEvent) (last : AuditEvent) : Prop where
  proposal : Carries .proposed events last.recordHash
  approval : last.afterState = .approved ∨ last.afterState = .submitted ∨
    last.afterState = .filled → Carries .approved events last.recordHash
  executed : ∀ event ∈ events, event.executed →
    Carries .approved events event.recordHash ∧
      Carries .proposed events event.recordHash
  unsubmitted : last.afterState ≠ .submitted → last.afterState ≠ .filled →
    last.afterState ≠ .cancelled → occurrences .submitted events = 0
  unfilled : last.afterState ≠ .filled → occurrences .filled events = 0
  submitted : occurrences .submitted events ≤ 1
  filled : occurrences .filled events ≤ 1

/-- How the next event of a decision follows the last one. -/
structure Continues (last event : AuditEvent) : Prop where
  action : event.afterState = event.action.afterState
  allowed : event.afterState ∈ last.afterState.allowedTransitions
  unskipped : event.action ≠ .autoExecutionSkipped
  pinned : event.action = .proposed ∨ event.recordHash = last.recordHash

section Steps

variable {events : List AuditEvent} {last event : AuditEvent}

theorem Carries.snoc {action : AuditAction} {recordHash : String}
    (carries : Carries action events recordHash) (other : event.action ≠ action) :
    Carries action (events ++ [event]) recordHash := by
  obtain ⟨found, located, hashed⟩ := carries
  exact ⟨found, by rw [latest_snoc, if_neg other]; exact located, hashed⟩

theorem carries_snoc {action : AuditAction} (same : event.action = action) :
    Carries action (events ++ [event]) event.recordHash :=
  ⟨event, by rw [latest_snoc, if_pos same], rfl⟩

theorem Course.unexecuted (course : Course events last)
    (unsubmitted : last.afterState ≠ .submitted)
    (unfilled : last.afterState ≠ .filled)
    (uncancelled : last.afterState ≠ .cancelled) :
    ∀ event ∈ events, ¬event.executed := by
  intro event member executed
  rcases executed with submitted | filled
  · exact occurrences_eq_zero.mp
      (course.unsubmitted unsubmitted unfilled uncancelled) event member submitted
  · exact occurrences_eq_zero.mp (course.unfilled unfilled) event member filled

theorem Continues.open (continues : Continues last event) :
    last.afterState ≠ .filled ∧ last.afterState ≠ .cancelled := by
  constructor
  · intro final
    have allowed := continues.allowed
    rw [final] at allowed
    cases allowed
  · intro final
    have allowed := continues.allowed
    rw [final] at allowed
    cases allowed

theorem Continues.unsubmitted (continues : Continues last event)
    (unfilled : event.afterState ≠ .filled)
    (uncancelled : event.afterState ≠ .cancelled) :
    last.afterState ≠ .submitted := by
  intro submitted
  have allowed := continues.allowed
  rw [submitted] at allowed
  simp [TradeIdeaState.allowedTransitions, unfilled, uncancelled] at allowed

theorem executed_snoc (earlier : ∀ event ∈ events, ¬event.executed)
    (final : event.executed → Carries .approved (events ++ [event]) event.recordHash ∧
      Carries .proposed (events ++ [event]) event.recordHash) :
    ∀ other ∈ events ++ [event], other.executed →
      Carries .approved (events ++ [event]) other.recordHash ∧
        Carries .proposed (events ++ [event]) other.recordHash := by
  intro other member executed
  rcases List.mem_append.mp member with before | same
  · exact absurd executed (earlier other before)
  · obtain rfl := List.mem_singleton.mp same
    exact final executed

theorem course_first (action : event.action = .proposed)
    (after : event.afterState = event.action.afterState) :
    Course [event] event := by
  have state : event.afterState = .proposed := by
    rw [after, action]
    rfl
  exact
    { proposal := ⟨event, by simp [latest, action], rfl⟩
      approval := by simp [state]
      executed := by simp [AuditEvent.executed, action]
      unsubmitted := by simp [occurrences, action]
      unfilled := by simp [occurrences, action]
      submitted := by simp [occurrences, action]
      filled := by simp [occurrences, action] }

def AuditAction.quiet : AuditAction → Bool
  | .proposed => false
  | .approved => false
  | .submitted => false
  | .filled => false
  | _ => true

section

variable (course : Course events last) (continues : Continues last event)

include course continues

/-- A quiet event may end any course. -/
theorem Course.quiet (quiet : event.action.quiet = true) :
    Course (events ++ [event]) event := by
  have unproposed : event.action ≠ .proposed := fun same => by
    rw [same] at quiet
    cases quiet
  have unapproved : event.action ≠ .approved := fun same => by
    rw [same] at quiet
    cases quiet
  have unsubmitted : event.action ≠ .submitted := fun same => by
    rw [same] at quiet
    cases quiet
  have unfilled : event.action ≠ .filled := fun same => by
    rw [same] at quiet
    cases quiet
  have hashed : event.recordHash = last.recordHash :=
    continues.pinned.resolve_left unproposed
  have after := continues.action
  have unskipped := continues.unskipped
  have inactive : event.afterState ≠ .approved ∧ event.afterState ≠ .submitted ∧
      event.afterState ≠ .filled := by
    rw [after]
    cases action : event.action <;> simp_all [AuditAction.afterState]
  refine
    { proposal := by rw [hashed]; exact course.proposal.snoc unproposed
      approval := by simp [inactive]
      executed := ?_
      unsubmitted := ?_
      unfilled := ?_
      submitted := ?_
      filled := ?_ }
  · intro other member executed
    rcases List.mem_append.mp member with before | same
    · obtain ⟨approved, proposed⟩ := course.executed other before executed
      exact ⟨approved.snoc unapproved, proposed.snoc unproposed⟩
    · obtain rfl := List.mem_singleton.mp same
      exact absurd executed (by simp [AuditEvent.executed, unsubmitted, unfilled])
  · intro _ _ uncancelled
    rw [occurrences_snoc, if_neg unsubmitted]
    exact course.unsubmitted (continues.unsubmitted inactive.2.2 uncancelled)
      continues.open.1 continues.open.2
  · intro _
    rw [occurrences_snoc, if_neg unfilled]
    exact course.unfilled continues.open.1
  · rw [occurrences_snoc, if_neg unsubmitted]
    exact course.submitted
  · rw [occurrences_snoc, if_neg unfilled]
    exact course.filled

/-- A proposal or an approval comes before anything is executed. -/
theorem Course.decided (decided : event.action = .proposed ∨ event.action = .approved) :
    Course (events ++ [event]) event := by
  have after := continues.action
  have states : event.afterState ≠ .submitted ∧ event.afterState ≠ .filled ∧
      event.afterState ≠ .cancelled := by
    rcases decided with proposed | approved
    · simp [after, proposed, AuditAction.afterState]
    · simp [after, approved, AuditAction.afterState]
  have unsubmitted := continues.unsubmitted states.2.1 states.2.2
  have unexecuted : event.action ≠ .submitted ∧ event.action ≠ .filled := by
    rcases decided with proposed | approved
    · simp [proposed]
    · simp [approved]
  have none := course.unsubmitted unsubmitted continues.open.1 continues.open.2
  have unfilled := course.unfilled continues.open.1
  refine
    { proposal := ?_
      approval := ?_
      executed := executed_snoc
        (course.unexecuted unsubmitted continues.open.1 continues.open.2)
        (by simp [AuditEvent.executed, unexecuted])
      unsubmitted := ?_
      unfilled := ?_
      submitted := ?_
      filled := ?_ }
  · rcases continues.pinned with proposed | hashed
    · exact carries_snoc proposed
    · rcases decided with proposed | approved
      · exact carries_snoc proposed
      · rw [hashed]
        exact course.proposal.snoc (by simp [approved])
  · intro active
    rcases decided with proposed | approved
    · simp [after, proposed, AuditAction.afterState] at active
    · exact carries_snoc approved
  · intro _ _ _
    rw [occurrences_snoc, if_neg unexecuted.1]
    exact none
  · intro _
    rw [occurrences_snoc, if_neg unexecuted.2]
    exact unfilled
  · rw [occurrences_snoc, if_neg unexecuted.1, none]
    exact zero_le_one
  · rw [occurrences_snoc, if_neg unexecuted.2, unfilled]
    exact zero_le_one

theorem Course.submits (submits : event.action = .submitted) :
    Course (events ++ [event]) event := by
  have hashed : event.recordHash = last.recordHash :=
    continues.pinned.resolve_left (by simp [submits])
  have after : event.afterState = .submitted := by
    rw [continues.action, submits]
    rfl
  have approved : last.afterState = .approved := by
    have allowed := continues.allowed
    rw [after] at allowed
    cases state : last.afterState <;>
      simp_all [TradeIdeaState.allowedTransitions]
  have approval : Carries .approved (events ++ [event]) event.recordHash := by
    rw [hashed]
    exact (course.approval (.inl approved)).snoc (by simp [submits])
  have proposal : Carries .proposed (events ++ [event]) event.recordHash := by
    rw [hashed]
    exact course.proposal.snoc (by simp [submits])
  have unsubmitted := course.unsubmitted (by simp [approved]) (by simp [approved])
    (by simp [approved])
  have unfilled := course.unfilled (by simp [approved])
  exact
    { proposal := proposal
      approval := fun _ => approval
      executed := executed_snoc (course.unexecuted (by simp [approved])
        (by simp [approved]) (by simp [approved])) fun _ => ⟨approval, proposal⟩
      unsubmitted := by simp [after]
      unfilled := by simp [occurrences_snoc, submits, unfilled]
      submitted := by simp [occurrences_snoc, submits, unsubmitted]
      filled := by simp [occurrences_snoc, submits, unfilled] }

theorem Course.fills (fills : event.action = .filled) :
    Course (events ++ [event]) event := by
  have hashed : event.recordHash = last.recordHash :=
    continues.pinned.resolve_left (by simp [fills])
  have after : event.afterState = .filled := by
    rw [continues.action, fills]
    rfl
  have submitted : last.afterState = .submitted := by
    have allowed := continues.allowed
    rw [after] at allowed
    cases state : last.afterState <;>
      simp_all [TradeIdeaState.allowedTransitions]
  have approval : Carries .approved (events ++ [event]) event.recordHash := by
    rw [hashed]
    exact (course.approval (.inr (.inl submitted))).snoc (by simp [fills])
  have proposal : Carries .proposed (events ++ [event]) event.recordHash := by
    rw [hashed]
    exact course.proposal.snoc (by simp [fills])
  have unfilled := course.unfilled (by simp [submitted])
  refine
    { proposal := proposal
      approval := fun _ => approval
      executed := ?_
      unsubmitted := by simp [after]
      unfilled := by simp [after]
      submitted := by simpa [occurrences_snoc, fills] using course.submitted
      filled := by simp [occurrences_snoc, fills, unfilled] }
  intro other member executed
  rcases List.mem_append.mp member with before | same
  · obtain ⟨approved, proposed⟩ := course.executed other before executed
    exact ⟨approved.snoc (by simp [fills]), proposed.snoc (by simp [fills])⟩
  · obtain rfl := List.mem_singleton.mp same
    exact ⟨approval, proposal⟩

theorem Course.continue : Course (events ++ [event]) event := by
  cases action : event.action with
  | proposed => exact course.decided continues (.inl action)
  | approved => exact course.decided continues (.inr action)
  | submitted => exact course.submits continues action
  | filled => exact course.fills continues action
  | _ => exact course.quiet continues (by rw [action]; rfl)

end

end Steps

end GptTrader
