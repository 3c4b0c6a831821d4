import Mathlib.Algebra.Order.Field.Rat
import Mathlib.Data.List.DropRight
import Mathlib.Data.List.Infix
import Mathlib.Data.List.MinMax
import Mathlib.Tactic.Linarith
import GptTrader.Library.DictSums
import GptTrader.Library.KeyedLists
import GptTrader.Library.LastValues

/-!
# Circuit breakers and the response cache

The parts of `coinbase/client` that stand between a request and the network:
`CircuitBreaker` with its registry by endpoint category, and `ResponseCache`.  A breaker
and the cache hold their lock throughout a call and the registry only looks breakers up,
so the calls of any number of threads are a list of calls in the order of the locks.

Moments are the readings of `time.time()`; those of this century and their differences
are exact in a double.
-/

namespace GptTrader

/-! ## One breaker -/

/-- The states of a breaker. -/
inductive CircuitState where
  | closed
  | opened
  | halfOpen
  deriving DecidableEq

/-- The breaker of one endpoint category. -/
structure CircuitBreaker where
  failureThreshold : ℤ
  recoveryTimeout : ℚ
  successThreshold : ℤ
  state : CircuitState
  failureCount : ℕ
  successCount : ℕ
  lastFailureTime : ℚ

/-- The calls a client makes on a breaker. -/
inductive CircuitCall where
  | canProceed
  | recordSuccess
  | recordFailure
  | reset
  deriving DecidableEq

namespace CircuitBreaker

/-- `CircuitBreaker(failure_threshold=..., recovery_timeout=..., success_threshold=...)`. -/
def new (failureThreshold : ℤ) (recoveryTimeout : ℚ) (successThreshold : ℤ) :
    CircuitBreaker where
  failureThreshold := failureThreshold
  recoveryTimeout := recoveryTimeout
  successThreshold := successThreshold
  state := .closed
  failureCount := 0
  successCount := 0
  lastFailureTime := 0

variable (breaker : CircuitBreaker) (now : ℚ)

/-- A new state starts its counters again. -/
def transitionTo (newState : CircuitState) : CircuitBreaker :=
  if breaker.state = newState then breaker
  else
    match newState with
    | .closed => { breaker with state := .closed, failureCount := 0, successCount := 0 }
    | .halfOpen => { breaker with state := .halfOpen, successCount := 0 }
    | .opened => { breaker with state := .opened }

/-- The property `state`, which moves an open circuit on once it has rested. -/
def current : CircuitBreaker :=
  if breaker.state = .opened ∧ breaker.recoveryTimeout ≤ now - breaker.lastFailureTime
  then breaker.transitionTo .halfOpen
  else breaker

/-- Whether a request may go out. -/
def canProceed : Bool × CircuitBreaker :=
  let current := breaker.current now
  (decide (current.state ≠ .opened), current)

def recordSuccess : CircuitBreaker :=
  match breaker.state with
  | .halfOpen =>
      let counted := { breaker with successCount := breaker.successCount + 1 }
      if breaker.successThreshold ≤ counted.successCount then
        counted.transitionTo .closed
      else counted
  | .closed => { breaker with failureCount := 0 }
  | .opened => breaker

/-- Enough failures open the breaker. -/
def recordFailure : CircuitBreaker :=
  let failed := { breaker with lastFailureTime := now }
  match breaker.state with
  | .halfOpen => failed.transitionTo .opened
  | .closed =>
      let counted := { failed with failureCount := breaker.failureCount + 1 }
      if breaker.failureThreshold ≤ counted.failureCount then
        counted.transitionTo .opened
      else counted
  | .opened => failed

def reset : CircuitBreaker :=
  { breaker.transitionTo .closed with
    failureCount := 0
    successCount := 0
    lastFailureTime := 0 }

def step (taken : ℚ × CircuitCall) : CircuitBreaker :=
  match taken.2 with
  | .canProceed => (breaker.canProceed taken.1).2
  | .recordSuccess => breaker.recordSuccess
  | .recordFailure => breaker.recordFailure taken.1
  | .reset => breaker.reset

def run (calls : List (ℚ × CircuitCall)) : CircuitBreaker :=
  calls.foldl step breaker

theorem run_snoc (calls : List (ℚ × CircuitCall)) (taken : ℚ × CircuitCall) :
    breaker.run (calls ++ [taken]) = (breaker.run calls).step taken := by
  unfold run
  rw [List.foldl_append, List.foldl_cons, List.foldl_nil]

theorem run_append (first second : List (ℚ × CircuitCall)) :
    breaker.run (first ++ second) = (breaker.run first).run second :=
  List.foldl_append

/-! ### What a call can do -/

variable {breaker}

theorem transitionTo_of_ne {newState : CircuitState} (moves : breaker.state ≠ newState) :
    breaker.transitionTo newState =
      { breaker with
        state := newState
        failureCount := if newState = .closed then 0 else breaker.failureCount
        successCount := if newState = .opened then breaker.successCount else 0 } := by
  unfold transitionTo
  rw [if_neg moves]
  cases newState <;> rfl

theorem canProceed_cases (breaker : CircuitBreaker) (now : ℚ) :
    (breaker.canProceed now).2 = breaker ∨
      breaker.state = .opened ∧
        breaker.recoveryTimeout ≤ now - breaker.lastFailureTime ∧
        (breaker.canProceed now).2 =
          { breaker with state := .halfOpen, successCount := 0 } := by
  unfold canProceed current
  dsimp only
  split
  · next rested =>
      right
      refine ⟨rested.1, rested.2, ?_⟩
      rw [transitionTo_of_ne (by rw [rested.1]; decide)]
      rfl
  · exact .inl rfl

theorem canProceed_eq_false_iff {now : ℚ} :
    (breaker.canProceed now).1 = false ↔
      breaker.state = .opened ∧
        now - breaker.lastFailureTime < breaker.recoveryTimeout := by
  unfold canProceed current
  dsimp only
  rw [decide_eq_false_iff_not, not_not]
  split
  · next rested =>
      rw [transitionTo_of_ne (by rw [rested.1]; decide)]
      constructor
      · intro opened
        cases opened
      · intro resting
        exact absurd rested.2 (not_le.mpr resting.2)
  · next resting =>
      constructor
      · intro opened
        exact ⟨opened, lt_of_not_ge fun rested => resting ⟨opened, rested⟩⟩
      · exact And.left

theorem recordSuccess_cases (breaker : CircuitBreaker) :
    (breaker.state = .opened ∧ breaker.recordSuccess = breaker) ∨
      (breaker.state ≠ .opened ∧ breaker.recordSuccess.state = .closed ∧
        breaker.recordSuccess.failureCount = 0 ∧
        (breaker.state = .halfOpen →
          breaker.successThreshold ≤ (breaker.successCount + 1 : ℕ))) ∨
      (breaker.state = .halfOpen ∧
        (breaker.successCount + 1 : ℕ) < breaker.successThreshold ∧
        breaker.recordSuccess =
          { breaker with successCount := breaker.successCount + 1 }) := by
  unfold recordSuccess
  rcases breaker with ⟨threshold, timeout, wanted, state, failed, succeeded, last⟩
  cases state
  case closed =>
    exact .inr (.inl ⟨fun same => CircuitState.noConfusion same, rfl, rfl,
      fun same => CircuitState.noConfusion same⟩)
  case opened => exact .inl ⟨rfl, rfl⟩
  case halfOpen =>
    dsimp only
    split
    · next enough =>
        exact .inr (.inl ⟨fun same => CircuitState.noConfusion same, rfl, rfl,
          fun _ => enough⟩)
    · next few => exact .inr (.inr ⟨rfl, not_le.mp few, rfl⟩)

theorem recordFailure_cases (breaker : CircuitBreaker) (now : ℚ) :
    (breaker.recordFailure now).lastFailureTime = now ∧
      ((breaker.recordFailure now).state = .opened ∧
          (breaker.state = .closed →
            breaker.failureThreshold ≤ (breaker.failureCount + 1 : ℕ)) ∨
        (breaker.recordFailure now).state = .closed ∧ breaker.state = .closed ∧
          (breaker.failureCount + 1 : ℕ) < breaker.failureThreshold ∧
          (breaker.recordFailure now).failureCount = breaker.failureCount + 1) := by
  unfold recordFailure
  rcases breaker with ⟨threshold, timeout, wanted, state, failed, succeeded, last⟩
  cases state
  case opened => exact ⟨rfl, .inl ⟨rfl, fun same => CircuitState.noConfusion same⟩⟩
  case halfOpen => exact ⟨rfl, .inl ⟨rfl, fun same => CircuitState.noConfusion same⟩⟩
  case closed =>
    dsimp only
    split
    · next enough => exact ⟨rfl, .inl ⟨rfl, fun _ => enough⟩⟩
    · next few => exact ⟨rfl, .inr ⟨rfl, rfl, not_le.mp few, rfl⟩⟩

/-- Two breakers with the same thresholds and the same timeout. -/
def SameConfig (left right : CircuitBreaker) : Prop :=
  left.failureThreshold = right.failureThreshold ∧
    left.recoveryTimeout = right.recoveryTimeout ∧
    left.successThreshold = right.successThreshold

theorem step_config (breaker : CircuitBreaker) (taken : ℚ × CircuitCall) :
    (breaker.step taken).SameConfig breaker := by
  have moved : ∀ (moving : CircuitBreaker) (newState : CircuitState),
      (moving.transitionTo newState).SameConfig moving := by
    intro moving newState
    unfold transitionTo
    split
    · exact ⟨rfl, rfl, rfl⟩
    · cases newState <;> exact ⟨rfl, rfl, rfl⟩
  rcases taken with ⟨now, call⟩
  cases call
  case canProceed =>
    change (breaker.canProceed now).2.SameConfig breaker
    rcases breaker.canProceed_cases now with same | ⟨_, _, rested⟩
    · rw [same]
      exact ⟨rfl, rfl, rfl⟩
    · rw [rested]
      exact ⟨rfl, rfl, rfl⟩
  case recordSuccess =>
    change breaker.recordSuccess.SameConfig breaker
    unfold recordSuccess
    split
    · dsimp only
      split
      · exact moved _ .closed
      · exact ⟨rfl, rfl, rfl⟩
    · exact ⟨rfl, rfl, rfl⟩
    · exact ⟨rfl, rfl, rfl⟩
  case recordFailure =>
    change (breaker.recordFailure now).SameConfig breaker
    unfold recordFailure
    dsimp only
    split
    · exact moved _ .opened
    · split
      · exact moved _ .opened
      · exact ⟨rfl, rfl, rfl⟩
    · exact ⟨rfl, rfl, rfl⟩
  case reset => exact moved breaker .closed

theorem run_config (breaker : CircuitBreaker) (calls : List (ℚ × CircuitCall)) :
    (breaker.run calls).SameConfig breaker := by
  induction calls using List.reverseRecOn with
  | nil => exact ⟨rfl, rfl, rfl⟩
  | append_singleton calls taken induction =>
      obtain ⟨threshold, timeout, wanted⟩ := step_config (breaker.run calls) taken
      rw [run_snoc]
      exact ⟨threshold.trans induction.1, timeout.trans induction.2.1,
        wanted.trans induction.2.2⟩

end CircuitBreaker

/-! ### The history of a breaker -/

/-- The calls of one kind since the last of another kind or reset. -/
def callsInRow (counted broken : CircuitCall) (history : List (ℚ × CircuitCall)) : ℕ :=
  history.foldl (fun count taken =>
    if taken.2 = counted then count + 1
    else if taken.2 = broken ∨ taken.2 = .reset then 0
    else count) 0

def failuresInRow : List (ℚ × CircuitCall) → ℕ :=
  callsInRow .recordFailure .recordSuccess

def successesInRow : List (ℚ × CircuitCall) → ℕ :=
  callsInRow .recordSuccess .recordFailure

theorem failuresInRow_snoc (history : List (ℚ × CircuitCall)) (now : ℚ)
    (call : CircuitCall) :
    failuresInRow (history ++ [(now, call)]) =
      match call with
      | .canProceed => failuresInRow history
      | .recordFailure => failuresInRow history + 1
      | .recordSuccess => 0
      | .reset => 0 := by
  unfold failuresInRow callsInRow
  rw [List.foldl_append]
  cases call <;> rfl

theorem successesInRow_snoc (history : List (ℚ × CircuitCall)) (now : ℚ)
    (call : CircuitCall) :
    successesInRow (history ++ [(now, call)]) =
      match call with
      | .canProceed => successesInRow history
      | .recordSuccess => successesInRow history + 1
      | .recordFailure => 0
      | .reset => 0 := by
  unfold successesInRow callsInRow
  rw [List.foldl_append]
  cases call <;> rfl

/-- A row that was at least a threshold long, and no reset after it. -/
def Reached (threshold : ℤ) (inRow : List (ℚ × CircuitCall) → ℕ)
    (history : List (ℚ × CircuitCall)) : Prop :=
  ∃ before after, history = before ++ after ∧ 0 < inRow before ∧
    threshold ≤ inRow before ∧ ∀ taken ∈ after, taken.2 ≠ .reset

/-- The moment of the last failure, with no reset after it. -/
def LastFailure (moment : ℚ) (history : List (ℚ × CircuitCall)) : Prop :=
  FollowedBy (fun taken => taken.2 ≠ .recordFailure ∧ taken.2 ≠ .reset)
    (moment, .recordFailure) history

theorem Reached.snoc {threshold : ℤ} {inRow : List (ℚ × CircuitCall) → ℕ}
    {history : List (ℚ × CircuitCall)} (reached : Reached threshold inRow history)
    {taken : ℚ × CircuitCall} (kept : taken.2 ≠ .reset) :
    Reached threshold inRow (history ++ [taken]) := by
  obtain ⟨before, after, rfl, some, enough, unreset⟩ := reached
  refine ⟨before, after ++ [taken], by simp, some, enough, ?_⟩
  rw [List.forall_mem_append, List.forall_mem_singleton]
  exact ⟨unreset, kept⟩

theorem Reached.now {threshold : ℤ} {inRow : List (ℚ × CircuitCall) → ℕ}
    {history : List (ℚ × CircuitCall)} (some : 0 < inRow history)
    (enough : threshold ≤ inRow history) : Reached threshold inRow history :=
  ⟨history, [], (List.append_nil _).symm, some, enough, by simp⟩

namespace CircuitBreaker

/-- What a breaker holds, told by the calls that were made of it. -/
structure Explained (history : List (ℚ × CircuitCall)) (breaker : CircuitBreaker) :
    Prop where
  closed : breaker.state = .closed → breaker.failureCount = failuresInRow history
  tripped : breaker.state ≠ .closed → Reached breaker.failureThreshold failuresInRow history
  opened : breaker.state = .opened → LastFailure breaker.lastFailureTime history

section Steps

variable {history : List (ℚ × CircuitCall)} {breaker : CircuitBreaker}

theorem Explained.of_closed (closed : breaker.state = .closed)
    (count : breaker.failureCount = failuresInRow history) :
    Explained history breaker where
  closed := fun _ => count
  tripped := fun moved => absurd closed moved
  opened := fun opened => CircuitState.noConfusion (closed.symm.trans opened)

theorem explained_canProceed (explained : Explained history breaker) (now : ℚ) :
    Explained (history ++ [(now, .canProceed)]) (breaker.canProceed now).2 := by
  rcases breaker.canProceed_cases now with same | ⟨opened, _, rested⟩
  · rw [same]
    constructor
    case closed =>
      rw [failuresInRow_snoc]
      exact explained.closed
    case tripped => exact fun moved => (explained.tripped moved).snoc CircuitCall.noConfusion
    case opened =>
      intro opened
      apply (explained.opened opened).snoc
      exact ⟨CircuitCall.noConfusion, CircuitCall.noConfusion⟩
  · rw [rested]
    constructor
    case closed => exact fun closed => CircuitState.noConfusion closed
    case tripped =>
      intro _
      refine (explained.tripped ?_).snoc CircuitCall.noConfusion
      rw [opened]
      decide
    case opened => exact fun opened => CircuitState.noConfusion opened

theorem explained_recordSuccess (explained : Explained history breaker) (now : ℚ) :
    Explained (history ++ [(now, .recordSuccess)]) breaker.recordSuccess := by
  rcases breaker.recordSuccess_cases with
    ⟨opened, same⟩ | ⟨_, closed, cleared, _⟩ | ⟨half, _, counted⟩
  · rw [same]
    constructor
    case closed =>
      exact fun closed => CircuitState.noConfusion (closed.symm.trans opened)
    case tripped => exact fun moved => (explained.tripped moved).snoc CircuitCall.noConfusion
    case opened =>
      intro opened
      apply (explained.opened opened).snoc
      exact ⟨CircuitCall.noConfusion, CircuitCall.noConfusion⟩
  · apply Explained.of_closed closed
    rw [cleared, failuresInRow_snoc]
  · rw [counted]
    constructor
    case closed => exact fun closed => CircuitState.noConfusion (half.symm.trans closed)
    case tripped => exact fun moved => (explained.tripped moved).snoc CircuitCall.noConfusion
    case opened => exact fun opened => CircuitState.noConfusion (half.symm.trans opened)

theorem explained_recordFailure (explained : Explained history breaker) (now : ℚ) :
    Explained (history ++ [(now, .recordFailure)]) (breaker.recordFailure now) := by
  obtain ⟨moment, cases⟩ := breaker.recordFailure_cases now
  rcases cases with ⟨opened, enough⟩ | ⟨closed, before, _, counted⟩
  · constructor
    case closed =>
      exact fun closed => CircuitState.noConfusion (closed.symm.trans opened)
    case tripped =>
      intro _
      rw [show (breaker.recordFailure now).failureThreshold =
        breaker.failureThreshold from (step_config breaker (now, .recordFailure)).1]
      by_cases before : breaker.state = .closed
      · apply Reached.now
        · rw [failuresInRow_snoc]
          exact Nat.succ_pos _
        · rw [failuresInRow_snoc, ← explained.closed before]
          exact enough before
      · exact (explained.tripped before).snoc CircuitCall.noConfusion
    case opened =>
      rw [moment]
      exact fun _ => FollowedBy.last
  · apply Explained.of_closed closed
    rw [counted, failuresInRow_snoc, explained.closed before]

theorem explained_step (explained : Explained history breaker)
    (taken : ℚ × CircuitCall) :
    Explained (history ++ [taken]) (breaker.step taken) := by
  rcases taken with ⟨now, call⟩
  cases call
  case canProceed => exact explained_canProceed explained now
  case recordSuccess => exact explained_recordSuccess explained now
  case recordFailure => exact explained_recordFailure explained now
  case reset =>
    apply Explained.of_closed
    · change (breaker.transitionTo .closed).state = .closed
      unfold transitionTo
      split
      · assumption
      · rfl
    · rw [failuresInRow_snoc]
      rfl

end Steps

/-- A call let through a timeout after the last failure, and the calls since. -/
def Tried (timeout : ℚ) (before after trial : List (ℚ × CircuitCall)) : Prop :=
  ∃ rest moment last, after = rest ++ (moment, .canProceed) :: trial ∧
    LastFailure last (before ++ rest) ∧ timeout ≤ moment - last

/-- What a breaker that was open before the last calls holds. -/
structure Recovering (timeout : ℚ) (threshold : ℤ) (before after : List (ℚ × CircuitCall))
    (breaker : CircuitBreaker) : Prop where
  closed : breaker.state = .closed →
    ∃ trial, Tried timeout before after trial ∧ Reached threshold successesInRow trial
  halfOpen : breaker.state = .halfOpen →
    ∃ trial, Tried timeout before after trial ∧
      breaker.successCount ≤ successesInRow trial

section Recovery

variable {timeout : ℚ} {threshold : ℤ} {before after trial : List (ℚ × CircuitCall)}
  {breaker : CircuitBreaker}

theorem Tried.snoc (tried : Tried timeout before after trial) (taken : ℚ × CircuitCall) :
    Tried timeout before (after ++ [taken]) (trial ++ [taken]) := by
  obtain ⟨rest, moment, last, rfl, failed, rested⟩ := tried
  exact ⟨rest, moment, last, by simp, failed, rested⟩

theorem Recovering.of_opened (opened : breaker.state = .opened) :
    Recovering timeout threshold before after breaker where
  closed := fun closed => CircuitState.noConfusion (opened.symm.trans closed)
  halfOpen := fun half => CircuitState.noConfusion (opened.symm.trans half)

/-- A step of a breaker that was open, without a reset. -/
theorem recovering_step (explained : Explained (before ++ after) breaker)
    (recovering : Recovering breaker.recoveryTimeout breaker.successThreshold before after
      breaker)
    {taken : ℚ × CircuitCall} (unreset : taken.2 ≠ .reset) :
    Recovering breaker.recoveryTimeout breaker.successThreshold before (after ++ [taken])
      (breaker.step taken) := by
  have kept : breaker.state = .closed → ∃ trial,
      Tried breaker.recoveryTimeout before (after ++ [taken]) trial ∧
        Reached breaker.successThreshold successesInRow trial := by
    intro closed
    obtain ⟨trial, tried, reached⟩ := recovering.closed closed
    exact ⟨_, tried.snoc taken, reached.snoc unreset⟩
  rcases taken with ⟨now, call⟩
  cases call
  case canProceed =>
    change Recovering _ _ _ _ (breaker.canProceed now).2
    rcases breaker.canProceed_cases now with same | ⟨opened, rested, moved⟩
    · rw [same]
      refine ⟨kept, fun half => ?_⟩
      obtain ⟨trial, tried, count⟩ := recovering.halfOpen half
      refine ⟨_, tried.snoc _, ?_⟩
      rw [successesInRow_snoc]
      exact count
    · rw [moved]
      exact ⟨fun closed => CircuitState.noConfusion closed, fun _ =>
        ⟨[], ⟨after, now, _, rfl, explained.opened opened, rested⟩, Nat.zero_le _⟩⟩
  case recordSuccess =>
    change Recovering _ _ _ _ breaker.recordSuccess
    rcases breaker.recordSuccess_cases with
      ⟨opened, same⟩ | ⟨moved, closed, _, enough⟩ | ⟨half, _, counted⟩
    · rw [same]
      exact .of_opened opened
    · refine ⟨fun _ => ?_, fun half => CircuitState.noConfusion (closed.symm.trans half)⟩
      cases state : breaker.state
      case closed => exact kept state
      case opened => exact absurd state moved
      case halfOpen =>
        obtain ⟨trial, tried, count⟩ := recovering.halfOpen state
        have threshold := enough state
        refine ⟨_, tried.snoc _, Reached.now ?_ ?_⟩
        · rw [successesInRow_snoc]
          exact Nat.succ_pos _
        · rw [successesInRow_snoc]
          dsimp only
          omega
    · rw [counted]
      refine ⟨fun closed => CircuitState.noConfusion (half.symm.trans closed), fun _ => ?_⟩
      obtain ⟨trial, tried, count⟩ := recovering.halfOpen half
      refine ⟨_, tried.snoc _, ?_⟩
      rw [successesInRow_snoc]
      exact Nat.succ_le_succ count
  case recordFailure =>
    change Recovering _ _ _ _ (breaker.recordFailure now)
    rcases (breaker.recordFailure_cases now).2 with ⟨opened, _⟩ | ⟨closed, before, _⟩
    · exact .of_opened opened
    · exact ⟨fun _ => kept before,
        fun half => CircuitState.noConfusion (closed.symm.trans half)⟩
  case reset => exact absurd rfl unreset

end Recovery

section Results

variable (failureThreshold : ℤ) (recoveryTimeout : ℚ) (successThreshold : ℤ)

theorem explained_run (calls : List (ℚ × CircuitCall)) :
    Explained calls ((new failureThreshold recoveryTimeout successThreshold).run
      calls) := by
  induction calls using List.reverseRecOn with
  | nil => exact .of_closed rfl rfl
  | append_singleton calls taken induction =>
      rw [run_snoc]
      exact explained_step induction taken

/-- A refusal follows enough failures in a row, the last one recent. -/
theorem refused_explained (history : List (ℚ × CircuitCall)) (now : ℚ)
    (refused : (((new failureThreshold recoveryTimeout successThreshold).run
      history).canProceed now).1 = false) :
    Reached failureThreshold failuresInRow history ∧
      ∃ moment, LastFailure moment history ∧ now - moment < recoveryTimeout := by
  have explained := explained_run failureThreshold recoveryTimeout successThreshold history
  obtain ⟨threshold, timeout, _⟩ :=
    run_config (new failureThreshold recoveryTimeout successThreshold) history
  obtain ⟨opened, resting⟩ := canProceed_eq_false_iff.mp refused
  constructor
  · have tripped := explained.tripped (by rw [opened]; decide)
    rwa [threshold] at tripped
  · refine ⟨_, explained.opened opened, ?_⟩
    rwa [timeout] at resting

/-- Two failures, a success and three failures. -/
def failingHistory : List (ℚ × CircuitCall) :=
  [(1, .recordFailure), (2, .recordFailure), (3, .recordSuccess), (4, .recordFailure),
    (5, .canProceed), (5, .recordFailure), (6, .recordFailure)]

/-- The third failure in a row refuses, for thirty seconds. -/
theorem refused_after_three_failures :
    Reached 3 failuresInRow failingHistory ∧
      ∃ moment, LastFailure moment failingHistory ∧ 20 - moment < 30 :=
  refused_explained 3 30 2 failingHistory 20 (by decide +kernel)

theorem run_opened {breaker : CircuitBreaker} {last now : ℚ}
    (soon : now - last < breaker.recoveryTimeout) (opened : breaker.state = .opened)
    (recent : last ≤ breaker.lastFailureTime) {after : List (ℚ × CircuitCall)}
    (kept : ∀ taken ∈ after, taken.2 ≠ .reset ∧ last ≤ taken.1 ∧ taken.1 ≤ now) :
    (breaker.run after).state = .opened ∧
      last ≤ (breaker.run after).lastFailureTime := by
  induction after using List.reverseRecOn with
  | nil => exact ⟨opened, recent⟩
  | append_singleton after taken induction =>
      obtain ⟨stays, later⟩ := induction fun other member =>
        kept other (List.mem_append_left _ member)
      have timeout := (run_config breaker after).2.1
      rw [run_snoc]
      rcases taken with ⟨moment, call⟩
      obtain ⟨unreset, since, until_⟩ := kept (moment, call) (by simp)
      cases call
      case canProceed =>
        change ((breaker.run after).canProceed moment).2.state = .opened ∧
          last ≤ ((breaker.run after).canProceed moment).2.lastFailureTime
        rcases (breaker.run after).canProceed_cases moment with
          same | ⟨_, rested, _⟩
        · rw [same]
          exact ⟨stays, later⟩
        · rw [timeout] at rested
          dsimp only at until_
          linarith
      case recordSuccess =>
        change (breaker.run after).recordSuccess.state = .opened ∧
          last ≤ (breaker.run after).recordSuccess.lastFailureTime
        unfold recordSuccess
        rw [stays]
        exact ⟨stays, later⟩
      case recordFailure =>
        change ((breaker.run after).recordFailure moment).state = .opened ∧
          last ≤ ((breaker.run after).recordFailure moment).lastFailureTime
        unfold recordFailure
        rw [stays]
        exact ⟨rfl, since⟩
      case reset => exact absurd rfl unreset

/-- Enough failures in a row refuse until the timeout. -/
theorem refuses_after_failures (before after : List (ℚ × CircuitCall)) (last now : ℚ)
    (enough : failureThreshold ≤ failuresInRow (before ++ [(last, .recordFailure)]))
    (kept : ∀ taken ∈ after, taken.2 ≠ .reset ∧ last ≤ taken.1 ∧ taken.1 ≤ now)
    (soon : now - last < recoveryTimeout) :
    (((new failureThreshold recoveryTimeout successThreshold).run
      (before ++ [(last, .recordFailure)] ++ after)).canProceed now).1 = false := by
  let fresh := new failureThreshold recoveryTimeout successThreshold
  have explained := explained_run failureThreshold recoveryTimeout successThreshold before
  obtain ⟨moment, cases⟩ := (fresh.run before).recordFailure_cases last
  have config := run_config fresh (before ++ [(last, .recordFailure)])
  rw [run_snoc] at config
  have opened : ((fresh.run before).recordFailure last).state = .opened := by
    rcases cases with ⟨opened, _⟩ | ⟨_, closed, few, _⟩
    · exact opened
    · rw [(run_config fresh before).1, explained.closed closed] at few
      rw [failuresInRow_snoc] at enough
      exact absurd enough (not_le.mpr few)
  obtain ⟨stays, recent⟩ :=
    run_opened (soon.trans_eq config.2.1.symm) opened moment.ge kept
  rw [run_append, run_snoc]
  apply canProceed_eq_false_iff.mpr
  refine ⟨stays, ?_⟩
  rw [(run_config _ after).2.1, config.2.1]
  change now - (((fresh.run before).step (last, .recordFailure)).run
    after).lastFailureTime < recoveryTimeout
  linarith

/-- A success does not close an open breaker. -/
theorem refuses_despite_success :
    (((new 1 30 2).run ([] ++ [(5, .recordFailure)] ++ [(6, .recordSuccess)])).canProceed
      7).1 = false :=
  refuses_after_failures 1 30 2 [] [(6, .recordSuccess)] 5 7 (by decide)
    (by
      intro taken member
      cases List.mem_singleton.mp member
      exact ⟨by decide, by norm_num, by norm_num⟩)
    (by norm_num)

/-- Only a trial with enough successes in a row closes a breaker. -/
theorem closed_after_trial (before after : List (ℚ × CircuitCall))
    (opened : ((new failureThreshold recoveryTimeout successThreshold).run before).state =
      .opened)
    (unreset : ∀ taken ∈ after, taken.2 ≠ .reset)
    (closed : ((new failureThreshold recoveryTimeout successThreshold).run
      (before ++ after)).state = .closed) :
    ∃ trial, Tried recoveryTimeout before after trial ∧
      Reached successThreshold successesInRow trial := by
  have recovering : Recovering recoveryTimeout successThreshold before after
      ((new failureThreshold recoveryTimeout successThreshold).run (before ++ after)) := by
    clear closed
    induction after using List.reverseRecOn with
    | nil =>
        rw [List.append_nil]
        exact .of_opened opened
    | append_singleton after taken induction =>
        rw [List.forall_mem_append, List.forall_mem_singleton] at unreset
        obtain ⟨_, timeout, threshold⟩ :=
          run_config (new failureThreshold recoveryTimeout successThreshold)
            (before ++ after)
        have next := recovering_step (explained_run _ _ _ _)
          (by rw [timeout, threshold]; exact induction unreset.1) unreset.2
        rw [timeout, threshold] at next
        rwa [← List.append_assoc, run_snoc]
  exact recovering.closed closed

/-- Two successes after the timeout close it. -/
theorem closed_after_two_successes :
    ∃ trial, Tried 30 [(5, .recordFailure)]
        [(40, .canProceed), (41, .recordSuccess), (42, .recordSuccess)] trial ∧
      Reached 2 successesInRow trial :=
  closed_after_trial 1 30 2 _ _ (by decide +kernel) (by simp) (by decide +kernel)

end Results

end CircuitBreaker

/-! ## The registry of breakers -/

/-- `part in text`. -/
def mentions (text part : String) : Bool :=
  decide (part.toList <:+: text.toList)

/-- The breakers by endpoint category. -/
structure CircuitBreakerRegistry where
  defaultFailureThreshold : ℤ
  defaultRecoveryTimeout : ℚ
  defaultSuccessThreshold : ℤ
  enabled : Bool
  breakers : Dict String CircuitBreaker

inductive RegistryCall where
  | canProceed (path : String)
  | recordSuccess (path : String)
  | recordFailure (path : String)
  | resetAll

namespace CircuitBreakerRegistry

/-- The first text found in a path decides. -/
def endpointCategories : List (String × String) :=
  [("orders", "orders"), ("fills", "orders"), ("accounts", "accounts"),
    ("positions", "positions"), ("cfm", "positions"), ("products", "products"),
    ("market", "market"), ("ticker", "market"), ("candles", "market")]

-- `str.lower`.
variable (lower : String → String) (registry : CircuitBreakerRegistry)

def categorizeEndpoint (path : String) : String :=
  ((endpointCategories.find? fun entry => mentions (lower path) entry.1).map
    Prod.snd).getD "default"

def fresh : CircuitBreaker :=
  .new registry.defaultFailureThreshold registry.defaultRecoveryTimeout
    registry.defaultSuccessThreshold

/-- The breaker of a category; a category without one gets a fresh one when it is
first asked for. -/
def breakerOf (category : String) : CircuitBreaker :=
  (registry.breakers.get? category).getD registry.fresh

def setBreaker (category : String) (breaker : CircuitBreaker) : CircuitBreakerRegistry :=
  { registry with breakers := registry.breakers.set category breaker }

def canProceed (now : ℚ) (path : String) : Bool × CircuitBreakerRegistry :=
  if registry.enabled then
    let category := categorizeEndpoint lower path
    let asked := (registry.breakerOf category).canProceed now
    (asked.1, registry.setBreaker category asked.2)
  else (true, registry)

def recordSuccess (path : String) : CircuitBreakerRegistry :=
  if registry.enabled then
    let category := categorizeEndpoint lower path
    registry.setBreaker category (registry.breakerOf category).recordSuccess
  else registry

def recordFailure (now : ℚ) (path : String) : CircuitBreakerRegistry :=
  if registry.enabled then
    let category := categorizeEndpoint lower path
    registry.setBreaker category ((registry.breakerOf category).recordFailure now)
  else registry

/-- Every breaker reset. -/
def resetAll : CircuitBreakerRegistry :=
  { registry with breakers := KeyedLists.mapValues CircuitBreaker.reset registry.breakers }

def step (taken : ℚ × RegistryCall) : CircuitBreakerRegistry :=
  match taken.2 with
  | .canProceed path => (registry.canProceed lower taken.1 path).2
  | .recordSuccess path => registry.recordSuccess lower path
  | .recordFailure path => registry.recordFailure lower taken.1 path
  | .resetAll => registry.resetAll

def run (calls : List (ℚ × RegistryCall)) : CircuitBreakerRegistry :=
  calls.foldl (step lower) registry

/-- What a call to the registry is to the breaker of a category. -/
def concerning (category : String) (taken : ℚ × RegistryCall) :
    Option (ℚ × CircuitCall) :=
  let told (path : String) (call : CircuitCall) :=
    if categorizeEndpoint lower path = category then some (taken.1, call) else none
  match taken.2 with
  | .canProceed path => told path .canProceed
  | .recordSuccess path => told path .recordSuccess
  | .recordFailure path => told path .recordFailure
  | .resetAll => some (taken.1, .reset)

theorem breakerOf_setBreaker (category other : String) (breaker : CircuitBreaker) :
    (registry.setBreaker category breaker).breakerOf other =
      if category = other then breaker else registry.breakerOf other := by
  unfold setBreaker breakerOf
  dsimp only
  rw [Dict.get?_set]
  by_cases same : category = other
  · rw [if_pos same, if_pos same.symm]
    rfl
  · rw [if_neg same, if_neg (Ne.symm same)]
    rfl

variable {registry}

theorem step_fresh (taken : ℚ × RegistryCall) :
    (registry.step lower taken).fresh = registry.fresh ∧
      (registry.step lower taken).enabled = registry.enabled := by
  rcases taken with ⟨now, call⟩
  cases call
  case canProceed path =>
    unfold step canProceed
    dsimp only
    split <;> exact ⟨rfl, rfl⟩
  case recordSuccess path =>
    unfold step recordSuccess
    dsimp only
    split <;> exact ⟨rfl, rfl⟩
  case recordFailure path =>
    unfold step recordFailure
    dsimp only
    split <;> exact ⟨rfl, rfl⟩
  case resetAll => exact ⟨rfl, rfl⟩

/-- A call changes the breaker of its own category alone. -/
theorem breakerOf_step (enabled : registry.enabled = true) (category : String)
    (taken : ℚ × RegistryCall) :
    (registry.step lower taken).breakerOf category =
      (registry.breakerOf category).run (concerning lower category taken).toList := by
  have routed : ∀ (path : String) (call : CircuitCall),
      (registry.setBreaker (categorizeEndpoint lower path)
          ((registry.breakerOf (categorizeEndpoint lower path)).step
            (taken.1, call))).breakerOf category =
        (registry.breakerOf category).run (if categorizeEndpoint lower path = category
          then some (taken.1, call) else none).toList := by
    intro path call
    rw [breakerOf_setBreaker]
    split
    · next same =>
        rw [same]
        rfl
    · rfl
  rcases taken with ⟨now, call⟩
  cases call
  case canProceed path =>
    unfold step canProceed
    dsimp only
    rw [if_pos enabled]
    exact routed path .canProceed
  case recordSuccess path =>
    unfold step recordSuccess
    dsimp only
    rw [if_pos enabled]
    exact routed path .recordSuccess
  case recordFailure path =>
    unfold step recordFailure
    dsimp only
    rw [if_pos enabled]
    exact routed path .recordFailure
  case resetAll =>
    change (registry.resetAll).breakerOf category = (registry.breakerOf category).reset
    unfold resetAll breakerOf
    dsimp only
    rw [KeyedLists.get?_mapValues]
    cases registry.breakers.get? category with
    | none => rfl
    | some breaker => rfl

theorem breakerOf_run (enabled : registry.enabled = true) (category : String)
    (calls : List (ℚ × RegistryCall)) :
    (registry.run lower calls).breakerOf category =
      (registry.breakerOf category).run (calls.filterMap (concerning lower category)) := by
  induction calls generalizing registry with
  | nil => rfl
  | cons taken rest induction =>
      have next := induction ((step_fresh lower taken).2.trans enabled)
      rw [breakerOf_step lower enabled] at next
      refine next.trans ?_
      rw [← CircuitBreaker.run_append]
      congr 1
      rw [List.filterMap_cons]
      cases concerning lower category taken <;> rfl

/-- `CircuitBreakerRegistry(default_failure_threshold=..., ...)`. -/
def new (failureThreshold : ℤ) (recoveryTimeout : ℚ) (successThreshold : ℤ) :
    CircuitBreakerRegistry where
  defaultFailureThreshold := failureThreshold
  defaultRecoveryTimeout := recoveryTimeout
  defaultSuccessThreshold := successThreshold
  enabled := true
  breakers := .empty

/-- A category answers as one breaker that saw the calls of the category only. -/
theorem canProceed_run (failureThreshold : ℤ) (recoveryTimeout : ℚ)
    (successThreshold : ℤ) (calls : List (ℚ × RegistryCall)) (now : ℚ) (path : String) :
    (((new failureThreshold recoveryTimeout successThreshold).run lower calls).canProceed
        lower now path).1 =
      (((CircuitBreaker.new failureThreshold recoveryTimeout successThreshold).run
        (calls.filterMap (concerning lower (categorizeEndpoint lower path)))).canProceed
          now).1 := by
  have enabled : ((new failureThreshold recoveryTimeout successThreshold).run lower
      calls).enabled = true := by
    induction calls using List.reverseRecOn with
    | nil => rfl
    | append_singleton calls taken induction =>
        unfold run at induction ⊢
        rw [List.foldl_append, List.foldl_cons, List.foldl_nil]
        exact (step_fresh lower taken).2.trans induction
  unfold canProceed
  rw [if_pos enabled]
  dsimp only
  rw [breakerOf_run lower rfl]
  rfl

end CircuitBreakerRegistry

/-! ## The response cache -/

/-- `fnmatch.fnmatchcase` for patterns without brackets. -/
def fnmatch : List Char → List Char → Bool
  | [], text => text.isEmpty
  | char :: rest, text =>
      if char = '*' then text.tails.any (fnmatch rest)
      else
        match text with
        | [] => false
        | other :: tail => (decide (char = '?') || decide (char = other)) &&
            fnmatch rest tail

structure CachedResponse (α : Type) where
  data : α
  timestamp : ℚ

/-- The cached responses with their times. -/
structure ResponseCache (α : Type) where
  defaultTtl : ℚ
  maxSize : ℤ
  enabled : Bool
  cache : Dict String (CachedResponse α)

inductive CacheCall (α : Type) where
  | get (path : String)
  | set (path : String) (data : α)
  | invalidate (pattern : String)
  | invalidateAll

namespace ResponseCache

def endpointTtls : List (String × ℚ) :=
  [("**/best_bid_ask*", 5), ("**/ticker*", 5), ("**/market/**", 10),
    ("**/positions*", 30), ("**/cfm/positions*", 30), ("**/accounts*", 60),
    ("**/cfm/balance_summary*", 60), ("**/orders*", 15), ("**/fills*", 30),
    ("**/products*", 300), ("**/product*", 300)]

variable {α : Type} (lower : String → String) (cache : ResponseCache α)

def getTtlForEndpoint (path : String) : ℚ :=
  ((endpointTtls.find? fun entry => fnmatch entry.1.toList path.toList).map
    Prod.snd).getD cache.defaultTtl

/-- `path.strip("/").lower()`. -/
def makeCacheKey (path : String) : String :=
  lower (.ofList ((path.toList.dropWhile (· = '/')).rdropWhile (· = '/')))

/-- The entry outlived its endpoint's time. -/
def isExpired (entry : CachedResponse α) (path : String) (now : ℚ) : Bool :=
  decide (cache.getTtlForEndpoint path < now - entry.timestamp)

/-- The cache without its oldest entry. -/
def evictOldest : ResponseCache α :=
  match cache.cache.entries.argmin fun entry => entry.2.timestamp with
  | none => cache
  | some oldest => { cache with cache := cache.cache.erase oldest.1 }

/-- The fresh data of the key, if any. -/
def get (now : ℚ) (path : String) : Option α × ResponseCache α :=
  if cache.enabled then
    let cacheKey := makeCacheKey lower path
    match cache.cache.get? cacheKey with
    | none => (none, cache)
    | some entry =>
        if cache.isExpired entry path now then
          (none, { cache with cache := cache.cache.erase cacheKey })
        else (some entry.data, cache)
  else (none, cache)

def set (now : ℚ) (path : String) (data : α) : ResponseCache α :=
  if cache.enabled then
    let cacheKey := makeCacheKey lower path
    let evicted :=
      if cache.maxSize ≤ cache.cache.entries.length ∧ cacheKey ∉ cache.cache.keys then
        cache.evictOldest
      else cache
    { evicted with cache := evicted.cache.set cacheKey { data, timestamp := now } }
  else cache

/-- Whether a pattern covers a key, with or without a leading slash. -/
def covers (pattern key : String) : Bool :=
  fnmatch pattern.toList key.toList || fnmatch pattern.toList ('/' :: key.toList)

def invalidate (pattern : String) : ResponseCache α :=
  { cache with
    cache :=
      { entries := cache.cache.entries.filter fun entry => !covers pattern entry.1
        nodup := (List.filter_sublist.map Prod.fst).nodup cache.cache.nodup } }

def invalidateAll : ResponseCache α :=
  { cache with cache := .empty }

def step (taken : ℚ × CacheCall α) : ResponseCache α :=
  match taken.2 with
  | .get path => (cache.get lower taken.1 path).2
  | .set path data => cache.set lower taken.1 path data
  | .invalidate pattern => cache.invalidate pattern
  | .invalidateAll => cache.invalidateAll

def run (calls : List (ℚ × CacheCall α)) : ResponseCache α :=
  calls.foldl (step lower) cache

/-- A call that leaves a key alone: it neither sets it nor covers it. -/
def Spares (key : String) (taken : ℚ × CacheCall α) : Prop :=
  match taken.2 with
  | .get _ => True
  | .set path _ => makeCacheKey lower path ≠ key
  | .invalidate pattern => covers pattern key = false
  | .invalidateAll => False

/-- Every entry is the last response set for its key, and was not invalidated since. -/
def Sound (history : List (ℚ × CacheCall α)) : Prop :=
  ∀ key entry, cache.cache.get? key = some entry →
    ∃ path, makeCacheKey lower path = key ∧
      FollowedBy (Spares lower key) (entry.timestamp, .set path entry.data) history

variable {lower} {cache} {history : List (ℚ × CacheCall α)}

/-- Entries that are kept through a call that leaves their keys alone stay sound. -/
theorem Sound.keep (sound : cache.Sound lower history) {next : ResponseCache α}
    (taken : ℚ × CacheCall α)
    (kept : ∀ key entry, next.cache.get? key = some entry →
      cache.cache.get? key = some entry ∧ Spares lower key taken) :
    next.Sound lower (history ++ [taken]) := by
  intro key entry found
  obtain ⟨before, spared⟩ := kept key entry found
  obtain ⟨path, same, last⟩ := sound key entry before
  exact ⟨path, same, last.snoc spared⟩

theorem get?_erase_eq_some {dict : Dict String (CachedResponse α)} {gone key : String}
    {entry : CachedResponse α} (found : (dict.erase gone).get? key = some entry) :
    dict.get? key = some entry := by
  rw [Dict.get?_erase] at found
  split at found
  · cases found
  · exact found

theorem get?_evictOldest {key : String} {entry : CachedResponse α}
    (found : cache.evictOldest.cache.get? key = some entry) :
    cache.cache.get? key = some entry := by
  unfold evictOldest at found
  split at found
  · exact found
  · exact get?_erase_eq_some found

theorem get?_get {now : ℚ} {path key : String} {entry : CachedResponse α}
    (found : (cache.get lower now path).2.cache.get? key = some entry) :
    cache.cache.get? key = some entry := by
  unfold get at found
  dsimp only at found
  split at found
  · split at found
    · exact found
    · split at found
      · exact get?_erase_eq_some found
      · exact found
  · exact found

theorem get_eq_some {now : ℚ} {path : String} {data : α}
    (answered : (cache.get lower now path).1 = some data) :
    cache.enabled = true ∧ ∃ moment,
      cache.cache.get? (makeCacheKey lower path) = some ⟨data, moment⟩ ∧
        now - moment ≤ cache.getTtlForEndpoint path := by
  unfold get at answered
  dsimp only at answered
  split at answered
  · next enabled =>
      split at answered
      · cases answered
      · next entry held =>
          split at answered
          · cases answered
          · next fresh =>
              obtain rfl := Option.some.inj answered
              exact ⟨enabled, entry.timestamp, held,
                not_lt.mp fun late => fresh (decide_eq_true late)⟩
  · cases answered

theorem sound_step (enabled : cache.enabled = true) (sound : cache.Sound lower history)
    (taken : ℚ × CacheCall α) : (cache.step lower taken).Sound lower (history ++ [taken]) := by
  rcases taken with ⟨now, call⟩
  cases call
  case get path =>
    apply sound.keep
    exact fun key entry found => ⟨get?_get found, trivial⟩
  case set path data =>
    change (cache.set lower now path data).Sound lower _
    unfold set
    rw [if_pos enabled]
    intro key entry found
    dsimp only at found
    rw [Dict.get?_set] at found
    split at found
    · next same =>
        obtain rfl := Option.some.inj found
        exact ⟨path, same.symm, .last⟩
    · next other =>
        have before : cache.cache.get? key = some entry := by
          split at found
          · exact get?_evictOldest found
          · exact found
        obtain ⟨earlier, same, last⟩ := sound key entry before
        exact ⟨earlier, same, last.snoc (Ne.symm other)⟩
  case invalidate pattern =>
    apply sound.keep
    intro key entry found
    rw [Dict.get?_eq_some_iff] at found
    obtain ⟨member, spared⟩ := List.mem_filter.mp found
    exact ⟨Dict.get?_eq_some_iff.mpr member, (Bool.not_eq_true' _).mp spared⟩
  case invalidateAll =>
    intro key entry found
    cases found

variable (lower cache) in
theorem step_config (taken : ℚ × CacheCall α) :
    (cache.step lower taken).enabled = cache.enabled ∧
      (cache.step lower taken).maxSize = cache.maxSize ∧
      (cache.step lower taken).defaultTtl = cache.defaultTtl := by
  rcases taken with ⟨now, call⟩
  cases call
  case get path =>
    unfold step get
    dsimp only
    split
    · split
      · exact ⟨rfl, rfl, rfl⟩
      · split <;> exact ⟨rfl, rfl, rfl⟩
    · exact ⟨rfl, rfl, rfl⟩
  case set path data =>
    unfold step set evictOldest
    dsimp only
    split
    · split
      · split <;> exact ⟨rfl, rfl, rfl⟩
      · exact ⟨rfl, rfl, rfl⟩
    · exact ⟨rfl, rfl, rfl⟩
  case invalidate pattern => exact ⟨rfl, rfl, rfl⟩
  case invalidateAll => exact ⟨rfl, rfl, rfl⟩

/-- `ResponseCache(default_ttl=..., max_size=...)`. -/
def new (defaultTtl : ℚ) (maxSize : ℤ) : ResponseCache α where
  defaultTtl := defaultTtl
  maxSize := maxSize
  enabled := true
  cache := .empty

variable (lower) (defaultTtl : ℚ) (maxSize : ℤ)

theorem run_new (history : List (ℚ × CacheCall α)) :
    ((new defaultTtl maxSize).run lower history).Sound lower history ∧
      ((new defaultTtl maxSize).run lower history).enabled = true ∧
      ((new defaultTtl maxSize).run lower history).maxSize = maxSize ∧
      ((new defaultTtl maxSize).run lower history).defaultTtl = defaultTtl := by
  induction history using List.reverseRecOn with
  | nil =>
      refine ⟨?_, rfl, rfl, rfl⟩
      intro key entry found
      cases found
  | append_singleton history taken induction =>
      obtain ⟨sound, enabled, size, ttl⟩ := induction
      have kept := step_config lower ((new defaultTtl maxSize).run lower history) taken
      unfold run at sound enabled size ttl kept ⊢
      rw [List.foldl_append, List.foldl_cons, List.foldl_nil]
      exact ⟨sound_step enabled sound taken, kept.1.trans enabled, kept.2.1.trans size,
        kept.2.2.trans ttl⟩

theorem get_explained (history : List (ℚ × CacheCall α)) (now : ℚ) (path : String)
    (data : α) (answered :
      (((new defaultTtl maxSize).run lower history).get lower now path).1 = some data) :
    ∃ moment earlier, makeCacheKey lower earlier = makeCacheKey lower path ∧
      FollowedBy (Spares lower (makeCacheKey lower path)) (moment, .set earlier data)
        history ∧
      now - moment ≤ (new defaultTtl maxSize : ResponseCache α).getTtlForEndpoint path := by
  obtain ⟨sound, _, _, ttl⟩ := run_new lower defaultTtl maxSize history
  obtain ⟨_, moment, held, fresh⟩ := get_eq_some answered
  obtain ⟨earlier, same, last⟩ := sound _ _ held
  refine ⟨moment, earlier, same, last, ?_⟩
  unfold getTtlForEndpoint at fresh ⊢
  rwa [ttl] at fresh

/-! ### The number of entries -/

theorem length_erase_le (dict : Dict String (CachedResponse α)) (key : String) :
    (dict.erase key).entries.length ≤ dict.entries.length :=
  List.length_filter_le _ _

variable (cache) in
theorem length_evictOldest :
    cache.evictOldest.cache.entries.length ≤ cache.cache.entries.length - 1 := by
  unfold evictOldest
  split
  · next none =>
      rw [List.argmin_eq_none.mp none]
      exact Nat.zero_le _
  · next oldest found =>
      apply Nat.le_sub_one_of_lt
      apply List.length_filter_lt_length_iff_exists.mpr
      exact ⟨oldest, List.argmin_mem found, by simp⟩

theorem length_set (dict : Dict String (CachedResponse α)) (key : String)
    (entry : CachedResponse α) :
    (dict.set key entry).entries.length =
      if key ∈ dict.keys then dict.entries.length else dict.entries.length + 1 := by
  unfold Dict.set Dict.keys
  split
  · exact List.length_map _
  · exact List.length_append

variable (cache) in
/-- One call keeps the bound on the size. -/
theorem step_length (taken : ℚ × CacheCall α)
    (bound : (cache.cache.entries.length : ℤ) ≤ max 1 cache.maxSize) :
    ((cache.step lower taken).cache.entries.length : ℤ) ≤ max 1 cache.maxSize := by
  have shrink : ∀ next : Dict String (CachedResponse α),
      next.entries.length ≤ cache.cache.entries.length →
        (next.entries.length : ℤ) ≤ max 1 cache.maxSize :=
    fun next fewer => (Int.ofNat_le.mpr fewer).trans bound
  rcases taken with ⟨now, call⟩
  cases call
  case get path =>
    change ((cache.get lower now path).2.cache.entries.length : ℤ) ≤ _
    unfold get
    dsimp only
    split
    · split
      · exact bound
      · split
        · exact shrink _ (length_erase_le _ _)
        · exact bound
    · exact bound
  case set path data =>
    change ((cache.set lower now path data).cache.entries.length : ℤ) ≤ _
    unfold set
    dsimp only
    split
    · rw [length_set]
      split
      · next full =>
          -- A new key in a full cache: the oldest entry has made room for it.
          have room := length_evictOldest cache
          split <;> omega
      · next roomy =>
          rw [not_and_or, not_le, not_not] at roomy
          split
          · exact bound
          · next absent =>
              have less := roomy.resolve_right absent
              omega
    · exact bound
  case invalidate pattern => exact shrink _ (List.length_filter_le _ _)
  case invalidateAll => exact shrink _ (Nat.zero_le _)

/-- The cache never outgrows its size. -/
theorem length_run_le (history : List (ℚ × CacheCall α)) :
    (((new defaultTtl maxSize).run lower history).cache.entries.length : ℤ) ≤
      max 1 maxSize := by
  induction history using List.reverseRecOn with
  | nil => exact Int.le_trans zero_le_one (le_max_left 1 maxSize)
  | append_singleton history taken induction =>
      have size := (run_new (α := α) lower defaultTtl maxSize history).2.2.1
      have next := step_length lower ((new defaultTtl maxSize).run lower history) taken
      rw [size] at next
      unfold run at next induction ⊢
      rw [List.foldl_append, List.foldl_cons, List.foldl_nil]
      exact next induction

end ResponseCache

/-! ### Answers and mutations -/

/-- A look into the cache, or a request that the network answered. -/
inductive ClientEvent (α : Type) where
  | looked (path : String)
  | answered (method path : String) (data : α)

section Mutations

variable {α : Type} (lower : String → String)

/-- The patterns `_invalidate_cache` drops after a request. -/
def invalidatedBy (method path : String) : List String :=
  if method = "POST" ∨ method = "DELETE" then
    if mentions (lower path) "order" then ["**/orders*", "**/fills*"]
    else if mentions (lower path) "account" || mentions (lower path) "position" then
      ["**/accounts*", "**/positions*"]
    else []
  else []

/-- `_cache_response` and `_invalidate_cache` after an answer. -/
def cacheCalls (event : ℚ × ClientEvent α) : List (ℚ × CacheCall α) :=
  match event.2 with
  | .looked path => [(event.1, .get path)]
  | .answered method path data =>
      (if method = "GET" then [(event.1, .set path data)] else []) ++
        (invalidatedBy lower method path).map fun pattern => (event.1, .invalidate pattern)

theorem mem_cacheCalls_set {event : ℚ × ClientEvent α} {moment : ℚ} {path : String}
    {data : α} (member : (moment, .set path data) ∈ cacheCalls lower event) :
    event = (moment, .answered "GET" path data) := by
  rcases event with ⟨now, event⟩
  cases event with
  | looked other =>
      cases List.mem_singleton.mp member
  | answered method other reply =>
      rcases List.mem_append.mp member with stored | dropped
      · split at stored
        · next got =>
            cases List.mem_singleton.mp stored
            rw [got]
        · cases stored
      · obtain ⟨pattern, _, same⟩ := List.mem_map.mp dropped
        cases same

/-- What is read after a mutation was answered after it. -/
theorem cached_after_mutation (defaultTtl : ℚ) (maxSize : ℤ)
    (before after : List (ℚ × ClientEvent α)) (mutated : ℚ)
    (method changed path pattern : String) (reply data : α) (now : ℚ)
    (invalidates : pattern ∈ invalidatedBy lower method changed)
    (covered : ResponseCache.covers pattern (ResponseCache.makeCacheKey lower path) = true)
    (answered : (((ResponseCache.new defaultTtl maxSize).run lower
      ((before ++ (mutated, .answered method changed reply) :: after).flatMap
        (cacheCalls lower))).get lower now path).1 = some data) :
    ∃ moment earlier, (moment, .answered "GET" earlier data) ∈ after ∧
      ResponseCache.makeCacheKey lower earlier = ResponseCache.makeCacheKey lower path ∧
      now - moment ≤
        (ResponseCache.new defaultTtl maxSize : ResponseCache α).getTtlForEndpoint path := by
  obtain ⟨moment, earlier, same, last, fresh⟩ :=
    ResponseCache.get_explained lower defaultTtl maxSize _ now path data answered
  refine ⟨moment, earlier, ?_, same, fresh⟩
  have dropped : (mutated, .invalidate pattern) ∈
      (invalidatedBy lower method changed).map fun pattern =>
        (mutated, (.invalidate pattern : CacheCall α)) :=
    List.mem_map.mpr ⟨pattern, invalidates, rfl⟩
  obtain ⟨first, second, listed⟩ := List.append_of_mem dropped
  -- Nothing that was stored before this invalidation is left for the path.
  have parts : cacheCalls lower (mutated, .answered method changed reply) =
      (if method = "GET" then [(mutated, .set changed reply)] else []) ++ first ++
        (mutated, .invalidate pattern) :: second := by
    rw [List.append_assoc, ← listed]
    rfl
  rw [List.flatMap_append, List.flatMap_cons, parts, List.append_assoc,
    ← List.append_assoc, List.cons_append] at last
  have later := last.mem_of_not_kept (fun spared => by
    rw [show ResponseCache.covers pattern _ = false from spared] at covered
    cases covered) (fun same => by cases same)
  rcases List.mem_append.mp later with invalidated | stored
  · have listedToo : (moment, CacheCall.set earlier data) ∈
        (invalidatedBy lower method changed).map fun pattern =>
          (mutated, (.invalidate pattern : CacheCall α)) := by
      rw [listed]
      exact List.mem_append_right _ (List.mem_cons_of_mem _ invalidated)
    obtain ⟨_, _, same⟩ := List.mem_map.mp listedToo
    cases same
  · obtain ⟨event, member, made⟩ := List.mem_flatMap.mp stored
    rwa [mem_cacheCalls_set lower made] at member

/-- The orders are fetched anew after an order. -/
theorem orders_after_an_order :
    ∃ moment earlier, (moment, .answered "GET" earlier 7) ∈
        [(3, ClientEvent.answered "GET" "/orders" 7)] ∧
      ResponseCache.makeCacheKey id earlier = ResponseCache.makeCacheKey id "/orders" ∧
      4 - moment ≤ (ResponseCache.new 30 9 : ResponseCache ℕ).getTtlForEndpoint "/orders" :=
  cached_after_mutation id 30 9 [] [(3, .answered "GET" "/orders" 7)] 2 "POST" "/orders"
    "/orders" "**/orders*" 0 7 4 (by decide +kernel) (by decide +kernel)
    (by decide +kernel)

end Mutations

end GptTrader
