import GptTrader.Library.DictSums
import GptTrader.Library.LastValues

/-!
# Pauses of live trading

`DegradationState` of `live_trade/degradation.py`: one pause record for everything
and one for each symbol, a later pause replacing the record of its scope unless the
record ends later.  Queries under a clock that does not go back are compared with the
pauses that were issued since the last `clear_all`.
-/

namespace GptTrader

namespace Degradation

-- The moments of the clock, the durations, and `time.time() + seconds`.
variable {τ δ : Type} [LinearOrder τ] (plus : τ → δ → τ)

structure PauseRecord (τ : Type) where
  pausedUntil : τ
  reason : String
  allowReduceOnly : Bool

/-- The pauses and the failure counters. -/
structure DegradationState (τ : Type) where
  globalPause : Option (PauseRecord τ)
  symbolPauses : Dict String (PauseRecord τ)
  slippageFailures : Dict String ℕ
  brokerFailures : ℕ

/-- What the failure counters read of `RiskConfig`. -/
structure RiskConfig (δ : Type) where
  slippageFailurePauseAfter : ℤ
  slippagePauseSeconds : δ
  brokerOutageMaxFailures : ℤ
  brokerOutageCooldownSeconds : δ

namespace DegradationState

/-- `DegradationState()`. -/
def initial : DegradationState τ where
  globalPause := none
  symbolPauses := .empty
  slippageFailures := .empty
  brokerFailures := 0

variable (state : DegradationState τ) (now : τ)

/-- A pause of everything. -/
def pauseAll (seconds : δ) (reason : String) (allowReduceOnly : Bool) :
    DegradationState τ :=
  let newUntil := plus now seconds
  let paused := { state with
    globalPause := some { pausedUntil := newUntil, reason, allowReduceOnly } }
  match state.globalPause with
  | some existing => if newUntil < existing.pausedUntil then state else paused
  | none => paused

/-- A pause of one symbol. -/
def pauseSymbol (symbol : String) (seconds : δ) (reason : String)
    (allowReduceOnly : Bool) : DegradationState τ :=
  let newUntil := plus now seconds
  let paused := { state with
    symbolPauses := state.symbolPauses.set symbol
      { pausedUntil := newUntil, reason, allowReduceOnly } }
  match state.symbolPauses.get? symbol with
  | some existing => if newUntil < existing.pausedUntil then state else paused
  | none => paused

/-- The second half of `is_paused`: the record of the symbol. -/
def isSymbolPaused (symbol : Option String) (isReduceOnly : Bool) :
    Bool × DegradationState τ :=
  match symbol with
  | none => (false, state)
  | some symbol =>
      match state.symbolPauses.get? symbol with
      | none => (false, state)
      | some pause =>
          if now < pause.pausedUntil then
            (!(isReduceOnly && pause.allowReduceOnly), state)
          else
            (false,
              { state with symbolPauses := state.symbolPauses.erase symbol })

def isPaused (symbol : Option String) (isReduceOnly : Bool) :
    Bool × DegradationState τ :=
  match state.globalPause with
  | none => state.isSymbolPaused now symbol isReduceOnly
  | some pause =>
      if now < pause.pausedUntil then
        (!(isReduceOnly && pause.allowReduceOnly), state)
      else
        { state with globalPause := none }.isSymbolPaused now symbol isReduceOnly

/-- Enough failures pause the symbol. -/
def recordSlippageFailure (symbol : String) (config : RiskConfig δ) :
    Bool × DegradationState τ :=
  let count := (state.slippageFailures.get? symbol).getD 0 + 1
  let counted := { state with
    slippageFailures := state.slippageFailures.set symbol count }
  if config.slippageFailurePauseAfter ≤ count then
    let paused := counted.pauseSymbol plus now symbol config.slippagePauseSeconds
      ("slippage_failures:" ++ toString count) true
    (true, { paused with slippageFailures := paused.slippageFailures.set symbol 0 })
  else (false, counted)

def resetSlippageFailures (symbol : String) : DegradationState τ :=
  { state with slippageFailures := state.slippageFailures.set symbol 0 }

/-- Enough failures pause everything. -/
def recordBrokerFailure (config : RiskConfig δ) : Bool × DegradationState τ :=
  let counted := { state with brokerFailures := state.brokerFailures + 1 }
  if config.brokerOutageMaxFailures ≤ counted.brokerFailures then
    let paused := counted.pauseAll plus now config.brokerOutageCooldownSeconds
      ("broker_outage:" ++ toString counted.brokerFailures) true
    (true, { paused with brokerFailures := 0 })
  else (false, counted)

def resetBrokerFailures : DegradationState τ :=
  { state with brokerFailures := 0 }

def clearAll (_ : DegradationState τ) : DegradationState τ :=
  initial

end DegradationState

/-! ## Calls and the pauses they issue -/

/-- The calls on the state. -/
inductive Call (δ : Type) where
  | pauseAll (seconds : δ) (reason : String) (allowReduceOnly : Bool)
  | pauseSymbol (symbol : String) (seconds : δ) (reason : String)
      (allowReduceOnly : Bool)
  | isPaused (symbol : Option String) (isReduceOnly : Bool)
  | recordSlippageFailure (symbol : String) (config : RiskConfig δ)
  | resetSlippageFailures (symbol : String)
  | recordBrokerFailure (config : RiskConfig δ)
  | resetBrokerFailures
  | clearAll

def Call.perform (now : τ) (state : DegradationState τ) :
    Call δ → Bool × DegradationState τ
  | .pauseAll seconds reason allowReduceOnly =>
      (false, state.pauseAll plus now seconds reason allowReduceOnly)
  | .pauseSymbol symbol seconds reason allowReduceOnly =>
      (false, state.pauseSymbol plus now symbol seconds reason allowReduceOnly)
  | .isPaused symbol isReduceOnly => state.isPaused now symbol isReduceOnly
  | .recordSlippageFailure symbol config =>
      state.recordSlippageFailure plus now symbol config
  | .resetSlippageFailures symbol => (false, state.resetSlippageFailures symbol)
  | .recordBrokerFailure config => state.recordBrokerFailure plus now config
  | .resetBrokerFailures => (false, state.resetBrokerFailures)
  | .clearAll => (false, state.clearAll)

/-- A pause as it was issued: for a symbol, or for everything. -/
structure Pause (τ : Type) where
  scope : Option String
  ends : τ
  allowReduceOnly : Bool
  deriving DecidableEq

/-- The pauses issued since the last `clear_all`, after a call and what it
returned.  A failure issues one exactly when it says so. -/
def Call.pausesAfter (now : τ) (pauses : List (Pause τ)) (returned : Bool) :
    Call δ → List (Pause τ)
  | .pauseAll seconds _ allowReduceOnly =>
      pauses ++ [⟨none, plus now seconds, allowReduceOnly⟩]
  | .pauseSymbol symbol seconds _ allowReduceOnly =>
      pauses ++ [⟨some symbol, plus now seconds, allowReduceOnly⟩]
  | .recordSlippageFailure symbol config =>
      if returned then
        pauses ++ [⟨some symbol, plus now config.slippagePauseSeconds, true⟩]
      else pauses
  | .recordBrokerFailure config =>
      if returned then
        pauses ++ [⟨none, plus now config.brokerOutageCooldownSeconds, true⟩]
      else pauses
  | .clearAll => []
  | .isPaused _ _ => pauses
  | .resetSlippageFailures _ => pauses
  | .resetBrokerFailures => pauses

/-- A state and the pauses issued since the last `clear_all`. -/
structure Course (τ : Type) where
  state : DegradationState τ
  pauses : List (Pause τ)

def Course.step (course : Course τ) (timed : τ × Call δ) : Course τ where
  state := (timed.2.perform plus timed.1 course.state).2
  pauses := timed.2.pausesAfter plus timed.1 course.pauses
    (timed.2.perform plus timed.1 course.state).1

def run (calls : List (τ × Call δ)) : Course τ :=
  calls.foldl (Course.step plus) { state := .initial, pauses := [] }

/-! ## The records keep the pause that ends last -/

namespace DegradationState

/-- The pause on record for a scope. -/
def record (state : DegradationState τ) : Option String → Option (PauseRecord τ)
  | none => state.globalPause
  | some symbol => state.symbolPauses.get? symbol

def extended (existing : Option (PauseRecord τ)) (new : PauseRecord τ) :
    PauseRecord τ :=
  match existing with
  | some existing => if new.pausedUntil < existing.pausedUntil then existing else new
  | none => new

variable (state : DegradationState τ) (now : τ)

theorem record_pauseAll (seconds : δ) (reason : String) (allowReduceOnly : Bool)
    (scope : Option String) :
    (state.pauseAll plus now seconds reason allowReduceOnly).record scope =
      if scope = none then
        some (extended (state.record none)
          ⟨plus now seconds, reason, allowReduceOnly⟩)
      else state.record scope := by
  unfold pauseAll
  cases scope with
  | none =>
      rcases found : state.globalPause with _ | existing
      · simp [record, extended, found]
      · by_cases later : plus now seconds < existing.pausedUntil
        · simp [record, extended, found, later]
        · simp [record, extended, found, later]
  | some symbol =>
      rcases found : state.globalPause with _ | existing
      · simp [record]
      · by_cases later : plus now seconds < existing.pausedUntil
        · simp [record, later]
        · simp [record, later]

theorem record_pauseSymbol (symbol : String) (seconds : δ) (reason : String)
    (allowReduceOnly : Bool) (scope : Option String) :
    (state.pauseSymbol plus now symbol seconds reason allowReduceOnly).record scope =
      if scope = some symbol then
        some (extended (state.record (some symbol))
          ⟨plus now seconds, reason, allowReduceOnly⟩)
      else state.record scope := by
  unfold pauseSymbol
  cases scope with
  | none =>
      rcases found : state.symbolPauses.get? symbol with _ | existing
      · simp [record]
      · by_cases later : plus now seconds < existing.pausedUntil
        · simp [record, later]
        · simp [record, later]
  | some other =>
      rcases found : state.symbolPauses.get? symbol with _ | existing
      · simp [record, extended, found, Dict.get?_set]
      · by_cases later : plus now seconds < existing.pausedUntil
        · by_cases same : other = symbol
          · simp [record, extended, found, later, same]
          · simp [record, later, same]
        · simp [record, extended, found, later, Dict.get?_set]

theorem recordSlippageFailure_cases (symbol : String) (config : RiskConfig δ) :
    ((state.recordSlippageFailure plus now symbol config).1 = true ∧
      ∃ reason, ∀ scope,
        (state.recordSlippageFailure plus now symbol config).2.record scope =
          if scope = some symbol then
            some (extended (state.record (some symbol))
              ⟨plus now config.slippagePauseSeconds, reason, true⟩)
          else state.record scope) ∨
    ((state.recordSlippageFailure plus now symbol config).1 = false ∧
      ∀ scope, (state.recordSlippageFailure plus now symbol config).2.record scope =
        state.record scope) := by
  unfold recordSlippageFailure
  dsimp only
  split
  · left
    refine ⟨rfl, "slippage_failures:" ++
      toString ((state.slippageFailures.get? symbol).getD 0 + 1), fun scope => ?_⟩
    have counters : ∀ (paused : DegradationState τ) failures,
        ({ paused with slippageFailures := failures }).record scope =
          paused.record scope := by
      intro paused failures
      cases scope <;> rfl
    rw [counters, record_pauseSymbol]
    cases scope <;> rfl
  · right
    refine ⟨rfl, fun scope => ?_⟩
    cases scope <;> rfl

theorem recordBrokerFailure_cases (config : RiskConfig δ) :
    ((state.recordBrokerFailure plus now config).1 = true ∧
      ∃ reason, ∀ scope,
        (state.recordBrokerFailure plus now config).2.record scope =
          if scope = none then
            some (extended (state.record none)
              ⟨plus now config.brokerOutageCooldownSeconds, reason, true⟩)
          else state.record scope) ∨
    ((state.recordBrokerFailure plus now config).1 = false ∧
      ∀ scope, (state.recordBrokerFailure plus now config).2.record scope =
        state.record scope) := by
  unfold recordBrokerFailure
  dsimp only
  split
  · left
    refine ⟨rfl, "broker_outage:" ++ toString (state.brokerFailures + 1),
      fun scope => ?_⟩
    have counters : ∀ (paused : DegradationState τ) failures,
        ({ paused with brokerFailures := failures }).record scope =
          paused.record scope := by
      intro paused failures
      cases scope <;> rfl
    rw [counters, record_pauseAll]
    cases scope <;> rfl
  · right
    refine ⟨rfl, fun scope => ?_⟩
    cases scope <;> rfl

/-- The pause stops such an order. -/
def Stops (now : τ) (isReduceOnly : Bool) (pause : PauseRecord τ) : Prop :=
  now < pause.pausedUntil ∧ (isReduceOnly = true → pause.allowReduceOnly = false)

section

variable (symbol : Option String) (isReduceOnly : Bool)

include symbol isReduceOnly

theorem isSymbolPaused_iff :
    (state.isSymbolPaused now symbol isReduceOnly).1 = true ↔
      ∃ name pause, symbol = some name ∧ state.record (some name) = some pause ∧
        Stops now isReduceOnly pause := by
  unfold isSymbolPaused
  rcases symbol with _ | name
  · simp
  · rcases found : state.symbolPauses.get? name with _ | pause
    · simp [record, found]
    · by_cases live : now < pause.pausedUntil
      · cases isReduceOnly with
        | false => simp [record, found, live, Stops]
        | true => simp [record, found, live, Stops]
      · simp [record, found, live, Stops]

theorem isPaused_iff :
    (state.isPaused now symbol isReduceOnly).1 = true ↔
      (∃ pause, state.record none = some pause ∧ Stops now isReduceOnly pause) ∨
      ((∀ pause, state.record none = some pause → pause.pausedUntil ≤ now) ∧
        ∃ name pause, symbol = some name ∧ state.record (some name) = some pause ∧
          Stops now isReduceOnly pause) := by
  unfold isPaused
  rcases found : state.globalPause with _ | pause
  · have absent : state.record none = none := found
    simp only [absent, isSymbolPaused_iff]
    simp
  · have present : state.record none = some pause := found
    by_cases live : now < pause.pausedUntil
    · simp only [present, if_pos live]
      cases isReduceOnly with
      | false => simp [Stops, live, not_le.mpr live]
      | true => simp [Stops, live, not_le.mpr live]
    · simp only [present, if_neg live, isSymbolPaused_iff]
      simp [Stops, live, not_lt.mp live, record]

theorem record_isSymbolPaused (scope : Option String) :
    (state.isSymbolPaused now symbol isReduceOnly).2.record scope =
        state.record scope ∨
      ((state.isSymbolPaused now symbol isReduceOnly).2.record scope = none ∧
        ∀ pause, state.record scope = some pause → pause.pausedUntil ≤ now) := by
  unfold isSymbolPaused
  rcases symbol with _ | name
  · exact .inl rfl
  · rcases found : state.symbolPauses.get? name with _ | pause
    · left
      simp only [found]
    · by_cases live : now < pause.pausedUntil
      · left
        simp only [found, if_pos live]
      · simp only [found, if_neg live]
        rcases scope with _ | other
        · exact .inl rfl
        · by_cases same : other = name
          · right
            simp [record, Dict.get?_erase, same, found, not_lt.mp live]
          · left
            simp [record, Dict.get?_erase, same]

theorem record_isPaused (scope : Option String) :
    (state.isPaused now symbol isReduceOnly).2.record scope = state.record scope ∨
      ((state.isPaused now symbol isReduceOnly).2.record scope = none ∧
        ∀ pause, state.record scope = some pause → pause.pausedUntil ≤ now) := by
  unfold isPaused
  rcases found : state.globalPause with _ | pause
  · exact record_isSymbolPaused state now symbol isReduceOnly scope
  · by_cases live : now < pause.pausedUntil
    · left
      simp only [if_pos live]
    · simp only [if_neg live]
      have cleared := record_isSymbolPaused { state with globalPause := none } now
        symbol isReduceOnly scope
      rcases scope with _ | name
      · right
        rcases cleared with same | ⟨none, _⟩
        · exact ⟨same, by simp [record, found, not_lt.mp live]⟩
        · exact ⟨none, by simp [record, found, not_lt.mp live]⟩
      · exact cleared

end

end DegradationState

def ofScope (pauses : List (Pause τ)) (scope : Option String) : List (Pause τ) :=
  pauses.filter fun pause => decide (pause.scope = scope)

omit [LinearOrder τ] in
theorem ofScope_append (earlier later : List (Pause τ)) (scope : Option String) :
    ofScope (earlier ++ later) scope =
      ofScope earlier scope ++ ofScope later scope :=
  List.filter_append ..

/-- The record is that of the pause of its scope that ends last, the later issued of
two that end together. -/
def Kept (pauses : List (Pause τ)) (record : Option (PauseRecord τ)) : Prop :=
  ∃ kept pause, record = some kept ∧ LastMax Pause.ends pauses pause ∧
    kept.pausedUntil = pause.ends ∧ kept.allowReduceOnly = pause.allowReduceOnly

/-- Every pause of the scope has ended. -/
def Over (clock : τ) (pauses : List (Pause τ)) (record : Option (PauseRecord τ)) :
    Prop :=
  (∀ pause ∈ pauses, pause.ends ≤ clock) ∧
    ∀ kept, record = some kept → kept.pausedUntil ≤ clock

def Course.Holds (clock : τ) (course : Course τ) : Prop :=
  ∀ scope, Kept (ofScope course.pauses scope) (course.state.record scope) ∨
    Over clock (ofScope course.pauses scope) (course.state.record scope)

theorem Course.Holds.later {clock now : τ} {course : Course τ}
    (holds : course.Holds clock) (ordered : clock ≤ now) : course.Holds now := by
  intro scope
  rcases holds scope with kept | ⟨issued, kept⟩
  · exact .inl kept
  · right
    constructor
    · intro pause member
      exact le_trans (issued pause member) ordered
    · intro record found
      exact le_trans (kept record found) ordered

/-- A new pause keeps what the record says of its scope. -/
theorem extended_holds {now : τ} {pauses : List (Pause τ)}
    {existing : Option (PauseRecord τ)} {new : PauseRecord τ} {pause : Pause τ}
    (holds : Kept pauses existing ∨ Over now pauses existing)
    (ends : new.pausedUntil = pause.ends)
    (allows : new.allowReduceOnly = pause.allowReduceOnly) :
    Kept (pauses ++ [pause]) (some (DegradationState.extended existing new)) ∨
      Over now (pauses ++ [pause])
        (some (DegradationState.extended existing new)) := by
  rcases holds with ⟨kept, last, rfl, lastMax, until', allow⟩ | ⟨issued, kept⟩
  · left
    by_cases longer : new.pausedUntil < kept.pausedUntil
    · refine ⟨kept, last, by simp [DegradationState.extended, longer], ?_, until',
        allow⟩
      apply lastMax.keep
      rwa [← ends, ← until']
    · refine ⟨new, pause, by simp [DegradationState.extended, longer], ?_, ends,
        allows⟩
      apply LastMax.replace
      intro other member
      rw [← ends]
      have bound : other.ends ≤ kept.pausedUntil := by
        rw [until']
        exact lastMax.le member
      exact le_trans bound (not_lt.mp longer)
  · by_cases fresh : now < new.pausedUntil
    · left
      refine ⟨new, pause, ?_, ?_, ends, allows⟩
      · rcases existing with _ | record
        · rfl
        · have ended : record.pausedUntil ≤ now := kept record rfl
          have longer : ¬new.pausedUntil < record.pausedUntil := by
            exact not_lt.mpr (le_trans ended (le_of_lt fresh))
          simp [DegradationState.extended, longer]
      · apply LastMax.replace
        intro other member
        rw [← ends]
        exact le_trans (issued other member) (le_of_lt fresh)
    · right
      constructor
      · intro other member
        rcases List.mem_append.mp member with early | added
        · exact issued other early
        · rw [List.mem_singleton.mp added, ← ends]
          exact not_lt.mp fresh
      · intro record found
        obtain rfl := Option.some.inj found
        rcases existing with _ | record
        · exact not_lt.mp fresh
        · unfold DegradationState.extended
          dsimp only
          split
          · exact kept record rfl
          · exact not_lt.mp fresh

theorem Course.Holds.issue {now : τ} {course : Course τ}
    (holds : course.Holds now) {state : DegradationState τ}
    {scope : Option String} {new : PauseRecord τ}
    (records : ∀ other, state.record other =
      if other = scope then
        some (DegradationState.extended (course.state.record scope) new)
      else course.state.record other) :
    Course.Holds now
      { state, pauses := course.pauses ++
          [⟨scope, new.pausedUntil, new.allowReduceOnly⟩] } := by
  intro other
  dsimp only
  rw [records other, ofScope_append]
  by_cases same : other = scope
  · subst same
    rw [if_pos rfl]
    have one : ofScope [⟨other, new.pausedUntil, new.allowReduceOnly⟩] other =
        [(⟨other, new.pausedUntil, new.allowReduceOnly⟩ : Pause τ)] := by
      simp [ofScope]
    rw [one]
    exact extended_holds (holds other) rfl rfl
  · rw [if_neg same]
    have none : ofScope [(⟨scope, new.pausedUntil, new.allowReduceOnly⟩ : Pause τ)]
        other = [] := by
      simp [ofScope, Ne.symm same]
    rw [none, List.append_nil]
    exact holds other

theorem Course.Holds.clears {now : τ} {course : Course τ}
    (holds : course.Holds now) {state : DegradationState τ}
    (records : ∀ scope, state.record scope = course.state.record scope ∨
      (state.record scope = none ∧
        ∀ pause, course.state.record scope = some pause →
          pause.pausedUntil ≤ now)) :
    Course.Holds now { state, pauses := course.pauses } := by
  intro scope
  dsimp only
  rcases records scope with same | ⟨cleared, expired⟩
  · rw [same]
    exact holds scope
  · right
    rw [cleared]
    constructor
    · rcases holds scope with ⟨kept, last, found, lastMax, until', _⟩ | ⟨issued, _⟩
      · intro pause member
        have ended : kept.pausedUntil ≤ now := expired kept found
        rw [until'] at ended
        exact le_trans (lastMax.le member) ended
      · exact issued
    · intro kept found
      cases found

/-- A call keeps what the records say. -/
theorem Course.Holds.step {clock now : τ} {course : Course τ}
    (holds : course.Holds clock) (ordered : clock ≤ now) (call : Call δ) :
    (course.step plus (now, call)).Holds now := by
  have current := holds.later ordered
  cases call with
  | pauseAll seconds reason allowReduceOnly =>
      exact current.issue (course.state.record_pauseAll plus now seconds reason
        allowReduceOnly)
  | pauseSymbol symbol seconds reason allowReduceOnly =>
      exact current.issue (course.state.record_pauseSymbol plus now symbol seconds
        reason allowReduceOnly)
  | isPaused symbol isReduceOnly =>
      exact current.clears (course.state.record_isPaused now symbol isReduceOnly)
  | recordSlippageFailure symbol config =>
      unfold Course.step Call.perform Call.pausesAfter
      dsimp only
      rcases course.state.recordSlippageFailure_cases plus now symbol config with
        ⟨paused, reason, records⟩ | ⟨counted, records⟩
      · rw [if_pos paused]
        exact current.issue records
      · rw [if_neg (Bool.eq_false_iff.mp counted)]
        exact current.clears fun scope => .inl (records scope)
  | resetSlippageFailures symbol =>
      exact current.clears fun scope => .inl (by cases scope <;> rfl)
  | recordBrokerFailure config =>
      unfold Course.step Call.perform Call.pausesAfter
      dsimp only
      rcases course.state.recordBrokerFailure_cases plus now config with
        ⟨paused, reason, records⟩ | ⟨counted, records⟩
      · rw [if_pos paused]
        exact current.issue records
      · rw [if_neg (Bool.eq_false_iff.mp counted)]
        exact current.clears fun scope => .inl (records scope)
  | resetBrokerFailures =>
      exact current.clears fun scope => .inl (by cases scope <;> rfl)
  | clearAll =>
      intro scope
      right
      constructor
      · intro pause member
        cases member
      · intro kept found
        cases scope <;> cases found

theorem holds_foldl {clock now : τ} {course : Course τ} {calls : List (τ × Call δ)}
    (holds : course.Holds clock)
    (ordered : (clock :: (calls.map Prod.fst ++ [now])).Pairwise (· ≤ ·)) :
    (calls.foldl (Course.step plus) course).Holds now := by
  induction calls generalizing clock course with
  | nil => exact holds.later (by simpa using ordered)
  | cons timed rest induction =>
      obtain ⟨first, later⟩ := List.pairwise_cons.mp ordered
      apply induction (holds.step plus (first timed.1 (by simp)) timed.2)
      exact later

/-- The calls come in order of time. -/
def Ordered (calls : List (τ × Call δ)) (now : τ) : Prop :=
  (calls.map Prod.fst ++ [now]).Pairwise (· ≤ ·)

theorem run_holds {calls : List (τ × Call δ)} {now : τ}
    (ordered : Ordered calls now) : (run plus calls).Holds now := by
  have fresh : ∀ clock : τ, Course.Holds clock
      { state := .initial, pauses := [] } := by
    intro clock scope
    right
    constructor
    · intro pause member
      cases member
    · intro kept found
      cases scope <;> cases found
  cases calls with
  | nil => exact fresh now
  | cons timed rest =>
      apply holds_foldl plus (fresh timed.1)
      apply List.pairwise_cons.mpr
      refine ⟨?_, ordered⟩
      intro moment member
      rcases List.mem_cons.mp member with rfl | later
      · exact le_refl _
      · exact (List.pairwise_cons.mp ordered).1 moment later

/-! ## Queries -/

/-- The pause that decides a query: of the pauses of everything, when one of them is
live, the one that ends last, and otherwise that of the symbol's pauses. -/
def Decides (pauses : List (Pause τ)) (now : τ) (symbol : Option String)
    (pause : Pause τ) : Prop :=
  now < pause.ends ∧
    (LastMax Pause.ends (ofScope pauses none) pause ∨
      ((∀ other ∈ pauses, other.scope = none → other.ends ≤ now) ∧
        ∃ name, symbol = some name ∧
          LastMax Pause.ends (ofScope pauses (some name)) pause))

def Pause.Live (now : τ) (symbol : Option String) (pause : Pause τ) : Prop :=
  (pause.scope = none ∨ pause.scope = symbol) ∧ now < pause.ends

omit [LinearOrder τ] in
theorem mem_ofScope {pauses : List (Pause τ)} {scope : Option String}
    {pause : Pause τ} :
    pause ∈ ofScope pauses scope ↔ pause ∈ pauses ∧ pause.scope = scope := by
  simp [ofScope]

section Query

variable {now : τ} {course : Course τ} (holds : course.Holds now)

include holds

theorem last_of_record {scope : Option String} {record : PauseRecord τ}
    (found : course.state.record scope = some record)
    (live : now < record.pausedUntil) :
    ∃ pause, LastMax Pause.ends (ofScope course.pauses scope) pause ∧
      record.pausedUntil = pause.ends ∧
      record.allowReduceOnly = pause.allowReduceOnly := by
  rcases holds scope with ⟨kept, pause, same, last, until', allows⟩ | ⟨_, passed⟩
  · rw [found] at same
    cases same
    exact ⟨pause, last, until', allows⟩
  · exact absurd live (not_lt.mpr (passed record found))

theorem record_of_last {scope : Option String} {pause : Pause τ}
    (last : LastMax Pause.ends (ofScope course.pauses scope) pause)
    (live : now < pause.ends) :
    ∃ record, course.state.record scope = some record ∧
      record.pausedUntil = pause.ends ∧
      record.allowReduceOnly = pause.allowReduceOnly := by
  rcases holds scope with ⟨kept, other, found, lastToo, until', allows⟩ | ⟨passed, _⟩
  · obtain rfl := last.unique lastToo
    exact ⟨kept, found, until', allows⟩
  · exact absurd live (not_lt.mpr (passed pause last.mem))

theorem exists_last {scope : Option String} {pause : Pause τ}
    (member : pause ∈ course.pauses) (inScope : pause.scope = scope)
    (live : now < pause.ends) :
    ∃ last, LastMax Pause.ends (ofScope course.pauses scope) last ∧
      now < last.ends := by
  have listed : pause ∈ ofScope course.pauses scope :=
    mem_ofScope.mpr ⟨member, inScope⟩
  rcases holds scope with ⟨_, last, _, lastMax, _, _⟩ | ⟨passed, _⟩
  · exact ⟨last, lastMax, lt_of_lt_of_le live (lastMax.le listed)⟩
  · exact absurd live (not_lt.mpr (passed pause listed))

/-- An order stops for a pause that decides. -/
theorem isPaused_iff_decides (symbol : Option String) (isReduceOnly : Bool) :
    (course.state.isPaused now symbol isReduceOnly).1 = true ↔
      ∃ pause, Decides course.pauses now symbol pause ∧
        (isReduceOnly = true → pause.allowReduceOnly = false) := by
  rw [DegradationState.isPaused_iff]
  constructor
  · rintro (⟨record, found, live, forbids⟩ |
      ⟨passed, name, record, rfl, found, live, forbids⟩)
    · obtain ⟨pause, last, until', allows⟩ := last_of_record holds found live
      rw [until'] at live
      rw [allows] at forbids
      exact ⟨pause, ⟨live, .inl last⟩, forbids⟩
    · obtain ⟨pause, last, until', allows⟩ := last_of_record holds found live
      rw [until'] at live
      rw [allows] at forbids
      refine ⟨pause, ⟨live, .inr ⟨?_, name, rfl, last⟩⟩, forbids⟩
      intro other member inScope
      by_contra lasting
      obtain ⟨global, lastGlobal, liveGlobal⟩ :=
        exists_last holds member inScope (not_le.mp lasting)
      obtain ⟨kept, foundGlobal, ends, _⟩ :=
        record_of_last holds lastGlobal liveGlobal
      have ended := passed kept foundGlobal
      rw [ends] at ended
      exact absurd liveGlobal (not_lt.mpr ended)
  · rintro ⟨pause, ⟨live, last | ⟨passed, name, rfl, last⟩⟩, forbids⟩
    · obtain ⟨record, found, until', allows⟩ := record_of_last holds last live
      left
      refine ⟨record, found, ?_, ?_⟩
      · rwa [until']
      · rwa [allows]
    · obtain ⟨record, found, until', allows⟩ := record_of_last holds last live
      right
      constructor
      · intro kept foundGlobal
        by_contra lasting
        obtain ⟨global, lastGlobal, ends, _⟩ :=
          last_of_record holds foundGlobal (not_le.mp lasting)
        obtain ⟨member, inScope⟩ := mem_ofScope.mp lastGlobal.mem
        have ended := passed global member inScope
        rw [← ends] at ended
        exact lasting ended
      · refine ⟨name, record, rfl, found, ?_, ?_⟩
        · rwa [until']
        · rwa [allows]

theorem exists_decides_iff (symbol : Option String) :
    (∃ pause, Decides course.pauses now symbol pause) ↔
      ∃ pause ∈ course.pauses, pause.Live now symbol := by
  constructor
  · rintro ⟨pause, live, last | ⟨_, name, rfl, last⟩⟩
    · obtain ⟨member, inScope⟩ := mem_ofScope.mp last.mem
      exact ⟨pause, member, .inl inScope, live⟩
    · obtain ⟨member, inScope⟩ := mem_ofScope.mp last.mem
      exact ⟨pause, member, .inr inScope, live⟩
  · rintro ⟨pause, member, covers, live⟩
    by_cases global : ∃ other ∈ course.pauses, other.scope = none ∧ now < other.ends
    · obtain ⟨other, listed, inScope, lasting⟩ := global
      obtain ⟨last, lastMax, liveLast⟩ := exists_last holds listed inScope lasting
      exact ⟨last, liveLast, .inl lastMax⟩
    · have passed : ∀ other ∈ course.pauses, other.scope = none →
          other.ends ≤ now := by
        intro other listed inScope
        by_contra lasting
        exact global ⟨other, listed, inScope, not_le.mp lasting⟩
      have named : pause.scope ≠ none := by
        intro inScope
        exact absurd live (not_lt.mpr (passed pause member inScope))
      have same : pause.scope = symbol := covers.resolve_left named
      obtain ⟨name, symbolName⟩ := Option.ne_none_iff_exists'.mp named
      obtain ⟨last, lastMax, liveLast⟩ := exists_last holds member symbolName live
      exact ⟨last, liveLast, .inr ⟨passed, name, same.symm.trans symbolName, lastMax⟩⟩

end Query

/-- Orders stop exactly while a pause is live. -/
def BlocksWhilePaused (course : Course τ) (now : τ) (symbol : Option String) :
    Prop :=
  (course.state.isPaused now symbol false).1 = true ↔
    ∃ pause ∈ course.pauses, pause.Live now symbol

/-- A live pause forbids reduce-only orders too. -/
def Forbidden (pauses : List (Pause τ)) (now : τ) (symbol : Option String) : Prop :=
  ∃ pause ∈ pauses, pause.Live now symbol ∧ pause.allowReduceOnly = false

/-- Forbidden reduce-only orders are stopped. -/
def BlocksForbidden (course : Course τ) (now : τ) (symbol : Option String) :
    Prop :=
  Forbidden course.pauses now symbol →
    (course.state.isPaused now symbol true).1 = true

def DecisiveForbids (pauses : List (Pause τ)) (now : τ) (symbol : Option String) :
    Prop :=
  Forbidden pauses now symbol →
    ∃ pause, Decides pauses now symbol pause ∧ pause.allowReduceOnly = false

/-- Other orders never leak through a pause; orders that only reduce leak exactly
when the deciding pause lets through what another live one forbids. -/
theorem pauses_leak_iff (calls : List (τ × Call δ)) (now : τ)
    (ordered : Ordered calls now) (symbol : Option String) :
    BlocksWhilePaused (run plus calls) now symbol ∧
      (BlocksForbidden (run plus calls) now symbol ↔
        DecisiveForbids (run plus calls).pauses now symbol) := by
  have holds := run_holds plus ordered
  constructor
  · unfold BlocksWhilePaused
    rw [isPaused_iff_decides holds, ← exists_decides_iff holds]
    simp
  · unfold BlocksForbidden DecisiveForbids
    rw [isPaused_iff_decides holds]
    simp

def haltDuringOutage : List (ℤ × Call ℤ) :=
  [(0, .recordBrokerFailure ⟨3, 60, 1, 30⟩),
    (1, .pauseAll 60 "API error rate high" false)]

/-- A halt while the broker's outage pauses everything. -/
theorem haltDuringOutage_blocks :
    BlocksWhilePaused (run (· + ·) haltDuringOutage) 2 (some "BTC-USD") ∧
      (BlocksForbidden (run (· + ·) haltDuringOutage) 2 (some "BTC-USD") ↔
        DecisiveForbids (run (· + ·) haltDuringOutage).pauses 2
          (some "BTC-USD")) :=
  pauses_leak_iff (· + ·) haltDuringOutage 2
    (by simp [Ordered, haltDuringOutage]) (some "BTC-USD")

/-- A full halt of a minute, and then two minutes of a broker outage that let
through orders that only reduce. -/
def outageAfterHalt : List (ℤ × Call ℤ) :=
  [(0, .pauseAll 60 "API error rate high" false),
    (1, .recordBrokerFailure ⟨3, 60, 1, 120⟩)]

theorem outageAfterHalt_ordered : Ordered outageAfterHalt 2 := by
  simp [Ordered, outageAfterHalt]

/-- The outage lifts the halt for orders that only reduce. -/
theorem outageAfterHalt_leaks :
    Ordered outageAfterHalt 2 ∧
      ¬BlocksForbidden (run (· + ·) outageAfterHalt) 2 (some "BTC-USD") := by
  refine ⟨outageAfterHalt_ordered, ?_⟩
  intro blocks
  have forbidden : Forbidden (run (· + ·) outageAfterHalt).pauses 2
      (some "BTC-USD") :=
    ⟨⟨none, 60, false⟩, by decide, ⟨.inl rfl, by decide⟩, rfl⟩
  have blocked := blocks forbidden
  have passed : ((run (· + ·) outageAfterHalt).state.isPaused 2
      (some "BTC-USD") true).1 = false := by
    rfl
  rw [passed] at blocked
  cases blocked

end Degradation

end GptTrader
