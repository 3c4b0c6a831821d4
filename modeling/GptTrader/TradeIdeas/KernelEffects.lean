import GptTrader.TradeIdeas.AutonomyGrowth
import GptTrader.TradeIdeas.Kernel

/-!
# What a decision changes

A decision settles the logs it reads: it seeds the budget log, seeds the autonomy
log or ratchets the level down.  Nothing else of the state changes until the
decision is recorded.
-/

namespace GptTrader

/-- The relation holds of the stores. -/
def Over (relation : TradeState → TradeState → Prop)
    (before after : ServiceState) : Prop :=
  Relation.ReflTransGen relation before.store after.store

section Over

variable {relation : TradeState → TradeState → Prop} {α : Type}
variable {state : ServiceState}

instance : Std.Refl (Over relation) :=
  ⟨fun _ => .refl⟩

instance : IsTrans ServiceState (Over relation) :=
  ⟨fun _ _ _ first second => first.trans second⟩

theorem Over.mono {weaker : TradeState → TradeState → Prop}
    (implied : ∀ before after, relation before after → weaker before after)
    {before after : ServiceState} (steps : Over relation before after) :
    Over weaker before after :=
  Relation.ReflTransGen.mono implied _ _ steps

theorem Over.rollback (before after : ServiceState) :
    Over relation before (before.rollback after) :=
  .refl

namespace ServiceTx

theorem keepsAt_ask {query : Query α} :
    Tx.KeepsAt (Over relation) (ask query) state :=
  Relation.ReflTransGen.refl

theorem keepsAt_pure {value : α} :
    Tx.KeepsAt (Over relation) (pure value : ServiceTx α) state :=
  Relation.ReflTransGen.refl

theorem keepsAt_raise {error : ServiceError} :
    Tx.KeepsAt (Over relation) (Tx.raise error : ServiceTx α) state :=
  Relation.ReflTransGen.refl

theorem keepsAt_ask_bind {β : Type} {query : Query α} {next : α → ServiceTx β}
    (rest : ∀ value, query state.store = .ok value →
      Tx.KeepsAt (Over relation) (next value) state) :
    Tx.KeepsAt (Over relation) (ask query >>= next) state :=
  Tx.keepsAt_read_bind rest

theorem keepsAt_lift_bind {β : Type} {outcome : Except ServiceError α}
    {next : α → ServiceTx β}
    (rest : ∀ value, outcome = .ok value →
      Tx.KeepsAt (Over relation) (next value) state) :
    Tx.KeepsAt (Over relation) (lift outcome >>= next) state :=
  Tx.keepsAt_read_bind rest

theorem keepsAt_now_bind {β : Type} {env : TradeEnv} {next : ℤ → ServiceTx β}
    (rest : ∀ reached, reached.store = state.store →
      Tx.KeepsAt (Over relation) (next (env.clock state.readings)) reached) :
    Tx.KeepsAt (Over relation) (now env >>= next) state := by
  have kept := rest { state with readings := state.readings + 1 } rfl
  exact kept

theorem ask_eq_ok {query : Query α} {value : α} {reached : ServiceState} :
    ask query state = (.ok value, reached) ↔
      query state.store = .ok value ∧ state = reached :=
  Tx.read_eq_ok

theorem ask_eq_error {query : Query α} {error : ServiceError}
    {reached : ServiceState} :
    ask query state = (.error error, reached) ↔
      query state.store = .error error ∧ state = reached :=
  Tx.read_eq_error

theorem lift_eq_ok {outcome : Except ServiceError α} {value : α}
    {reached : ServiceState} :
    lift outcome state = (.ok value, reached) ↔
      outcome = .ok value ∧ state = reached :=
  Tx.read_eq_ok

theorem lift_eq_error {outcome : Except ServiceError α} {error : ServiceError}
    {reached : ServiceState} :
    lift outcome state = (.error error, reached) ↔
      outcome = .error error ∧ state = reached :=
  Tx.read_eq_error

theorem now_apply {env : TradeEnv} :
    now env state =
      (.ok (env.clock state.readings),
        { state with readings := state.readings + 1 }) :=
  rfl

theorem alter_apply {change : TradeState → Except ServiceError TradeState} :
    alter change state =
      match change state.store with
      | .ok store => (.ok (), { state with store := store })
      | .error error => (.error error, state) := by
  simp only [alter, Tx.evolve]
  cases change state.store <;> rfl

theorem keepsAt_alter {change : TradeState → Except ServiceError TradeState}
    (stepped : ∀ store, change state.store = .ok store →
      Relation.ReflTransGen relation state.store store) :
    Tx.KeepsAt (Over relation) (alter change) state := by
  unfold Tx.KeepsAt
  rw [alter_apply]
  cases outcome : change state.store with
  | ok store => exact stepped store outcome
  | error error => exact .refl

end ServiceTx

end Over

section Budget

variable {log : RiskBudgetLog}

namespace RiskBudgetLog

theorem history_eq_ok {entries : List BudgetLogEntry}
    (read : log.history = .ok entries) : entries = log := by
  refine Replay.replay_induction (fun lines entries => entries = lines) rfl ?_
    read
  rintro lines entries line next _ rfl accepted
  unfold readEntry at accepted
  rw [Outcome.branch_eq_ok] at accepted
  cases accepted.2
  rfl

theorem current_eq_ok {found : Option RiskBudget}
    (read : log.current = .ok found) :
    found = log.getLast?.map BudgetLogEntry.budget := by
  obtain ⟨entries, history, rfl⟩ := Outcome.map_eq_ok.mp read
  rw [history_eq_ok history]

theorem current_eq_none : log.current = .ok none ↔ log = [] := by
  constructor
  · intro read
    have none := current_eq_ok read
    simpa using none.symm
  · rintro rfl
    rfl

theorem append_seed (timestamp : ℤ) :
    append [] (ServiceTx.budgetSeed timestamp) =
      .ok [ServiceTx.budgetSeed timestamp] :=
  rfl

end RiskBudgetLog

end Budget

/-- One thing a decision may change. -/
inductive Settle (env : TradeEnv) : TradeState → TradeState → Prop where
  | seedBudget {store : TradeState} (empty : store.budget = [])
      (timestamp : ℤ) :
      Settle env store
        { store with budget := [ServiceTx.budgetSeed timestamp] }
  | growAutonomy {store : TradeState} {lines : List StoredLine}
      (grown : AutonomyLog.Grows env.formats store.autonomy lines) :
      Settle env store { store with autonomy := lines }

/-- What settling leaves as it is. -/
structure SameRecords (before after : TradeState) : Prop where
  versions : after.versions = before.versions
  latest : after.latest = before.latest
  audit : after.audit = before.audit
  closeouts : after.closeouts = before.closeouts
  journal : after.journal = before.journal

theorem SameRecords.refl (store : TradeState) : SameRecords store store :=
  ⟨rfl, rfl, rfl, rfl, rfl⟩

theorem SameRecords.trans {first second third : TradeState}
    (earlier : SameRecords first second) (later : SameRecords second third) :
    SameRecords first third :=
  ⟨later.versions.trans earlier.versions, later.latest.trans earlier.latest,
    later.audit.trans earlier.audit, later.closeouts.trans earlier.closeouts,
    later.journal.trans earlier.journal⟩

theorem Settle.sameRecords {env : TradeEnv} {before after : TradeState}
    (settled : Settle env before after) : SameRecords before after := by
  cases settled with
  | seedBudget empty timestamp => exact ⟨rfl, rfl, rfl, rfl, rfl⟩
  | growAutonomy grown => exact ⟨rfl, rfl, rfl, rfl, rfl⟩

abbrev Settles (env : TradeEnv) : ServiceState → ServiceState → Prop :=
  Over (Settle env)

theorem Settles.sameRecords {env : TradeEnv} {before after : ServiceState}
    (settles : Settles env before after) :
    SameRecords before.store after.store := by
  have settled : ∀ {first last : TradeState},
      Relation.ReflTransGen (Settle env) first last → SameRecords first last := by
    intro first last settles
    induction settles with
    | refl => exact .refl _
    | tail _ settled induction => exact induction.trans settled.sameRecords
  exact settled settles

namespace ServiceTx

variable {env : TradeEnv} {state reached : ServiceState}

section CurrentBudget

def seededBudget (env : TradeEnv) (state : ServiceState) : ServiceState :=
  { store := { state.store with
      budget := [budgetSeed (env.clock state.readings)] }
    readings := state.readings + 1 }

theorem currentBudget_apply :
    currentBudget env state =
      match state.store.budget.current with
      | .error error => (.error error, state)
      | .ok (some budget) => (.ok budget, state)
      | .ok none => (.ok defaultRiskBudget, seededBudget env state) := by
  simp only [currentBudget, ask, Tx.bind_apply, Tx.read_apply]
  cases found : state.store.budget.current with
  | error error => rfl
  | ok budget =>
      cases budget with
      | some budget => rfl
      | none =>
          have empty := RiskBudgetLog.current_eq_none.mp found
          have seeded : seedBudget env state =
              (.ok defaultRiskBudget, seededBudget env state) := by
            simp only [seedBudget, appendBudget, seededBudget, Tx.bind_apply,
              now_apply, alter_apply, empty, RiskBudgetLog.append_seed,
              Except.map, Tx.pure_apply]
          change Tx.handle (seedBudget env) adoptBudget state = _
          unfold Tx.handle
          rw [seeded]

theorem currentBudget_settles :
    Tx.KeepsAt (Settles env) (currentBudget env) state := by
  unfold Tx.KeepsAt
  rw [currentBudget_apply]
  cases found : state.store.budget.current with
  | error error => exact .refl
  | ok budget =>
      cases budget with
      | some budget => exact .refl
      | none =>
          exact .single
            (.seedBudget (RiskBudgetLog.current_eq_none.mp found) _)

theorem currentBudget_autonomy :
    (currentBudget env state).2.store.autonomy = state.store.autonomy := by
  rw [currentBudget_apply]
  split <;> rfl

end CurrentBudget

section CurrentAutonomy

theorem make_eq_ok {version : ℤ} {timestamp : DateTime} {mode : AutonomyMode}
    {actorType : ActorType} {actorId reason : Json} {evidence : List Json}
    {entry : AutonomyStateEntry}
    (made : AutonomyStateEntry.make version timestamp mode actorType actorId
      reason evidence = .ok entry) :
    entry.version = version ∧ entry.mode = mode ∧
      entry.actorType = actorType ∧ entry.actorId = actorId := by
  unfold AutonomyStateEntry.make at made
  split at made
  · split at made
    · split at made
      · cases made
        exact ⟨rfl, rfl, rfl, rfl⟩
      · cases made
    · cases made
  · cases made

def autonomySeed (timestamp : ℤ) : AutonomyStateEntry :=
  { version := 1
    timestamp := .utc timestamp
    mode := defaultAutonomyMode
    actorType := .system
    actorId := .str "seed-defaults"
    reason := autonomySeedReason
    evidence := []
    positive := le_rfl
    rationale := by decide +kernel }

def seededResolution : AutonomyResolution :=
  { mode := defaultAutonomyMode
    version := some 1
    source := .log
    error := none }

def seededAutonomy (env : TradeEnv) (state : ServiceState) : ServiceState :=
  { store := { state.store with
      autonomy := state.store.autonomy ++
        [.json ((autonomySeed (env.clock state.readings)).toDict env.formats)] }
    readings := state.readings + 1 }

theorem makeEntry_seed (timestamp : ℤ) :
    (makeEntry 1 timestamp defaultAutonomyMode .system "seed-defaults"
      autonomySeedReason [] : ServiceTx AutonomyStateEntry) =
        lift (.ok (autonomySeed timestamp)) := by
  have rationale : isBlank autonomySeedReason = false := by decide +kernel
  unfold makeEntry AutonomyStateEntry.make
  simp [rationale, autonomySeed, Except.mapError]

theorem append_autonomySeed {lines : List StoredLine} {timestamp : ℤ}
    (empty : AutonomyLog.history env.formats lines = .ok []) :
    AutonomyLog.append env.formats lines (autonomySeed timestamp) =
      .ok (lines ++ [.json ((autonomySeed timestamp).toDict env.formats)]) :=
  AutonomyLog.append_eq_ok.mpr ⟨[], empty, rfl, rfl⟩

theorem history_of_seededDefault {lines : List StoredLine}
    {resolution : AutonomyResolution}
    (resolved : AutonomyLog.resolveAutonomy env.formats lines = .ok resolution)
    (default : resolution.source = .seededDefault) :
    AutonomyLog.history env.formats lines = .ok [] := by
  unfold AutonomyLog.resolveAutonomy at resolved
  cases found : AutonomyLog.current env.formats lines with
  | error error =>
      simp only [found] at resolved
      split at resolved
      · cases resolved
        cases default
      · cases resolved
  | ok entry =>
      cases entry with
      | none =>
          obtain ⟨entries, read, last⟩ := AutonomyLog.current_eq_ok.mp found
          rw [List.getLast?_eq_none_iff.mp last] at read
          exact read
      | some entry =>
          simp only [found] at resolved
          cases resolved
          cases default

theorem currentAutonomy_apply :
    currentAutonomy env state =
      match AutonomyLog.resolveAutonomy env.formats state.store.autonomy with
      | .error error => (.error error, state)
      | .ok resolution =>
          if resolution.source = .seededDefault then
            (.ok seededResolution, seededAutonomy env state)
          else (.ok resolution, state) := by
  simp only [currentAutonomy, ask, TradeState.peekAutonomy, Tx.bind_apply,
    Tx.read_apply]
  cases resolved : AutonomyLog.resolveAutonomy env.formats
      state.store.autonomy with
  | error error => rfl
  | ok resolution =>
      by_cases default : resolution.source = .seededDefault
      · have empty := history_of_seededDefault resolved default
        have seeded : seedAutonomy env state =
            (.ok seededResolution, seededAutonomy env state) := by
          simp only [seedAutonomy, appendAutonomy, makeEntry_seed, lift,
            seededAutonomy, Tx.bind_apply, Tx.read_apply, now_apply,
            alter_apply, append_autonomySeed empty, Except.map, Tx.pure_apply]
          rfl
        simp only [if_pos default]
        unfold Tx.handle
        rw [seeded]
      · simp only [if_neg default]
        rfl

theorem currentAutonomy_settles :
    Tx.KeepsAt (Settles env) (currentAutonomy env) state := by
  unfold Tx.KeepsAt
  rw [currentAutonomy_apply]
  cases resolved : AutonomyLog.resolveAutonomy env.formats
      state.store.autonomy with
  | error error => exact .refl
  | ok resolution =>
      by_cases default : resolution.source = .seededDefault
      · have empty := history_of_seededDefault resolved default
        simp only [if_pos default]
        refine .single (.growAutonomy ⟨_, append_autonomySeed empty, ?_⟩)
        exact .seed (AutonomyLog.current_eq_ok.mpr ⟨[], empty, rfl⟩) rfl rfl
      · simp only [if_neg default]
        exact .refl

theorem currentAutonomy_active {resolution : AutonomyResolution}
    (returned : currentAutonomy env state = (.ok resolution, reached))
    (open' : resolution.source ≠ .failClosed) :
    ∃ active, AutonomyLog.current env.formats reached.store.autonomy =
        .ok (some active) ∧ resolution.mode = active.mode ∧
          resolution.version = some active.version := by
  rw [currentAutonomy_apply] at returned
  cases resolved : AutonomyLog.resolveAutonomy env.formats
      state.store.autonomy with
  | error error =>
      simp only [resolved] at returned
      cases returned
  | ok found =>
      simp only [resolved] at returned
      by_cases default : found.source = .seededDefault
      · have empty := history_of_seededDefault resolved default
        simp only [if_pos default] at returned
        cases returned
        refine ⟨autonomySeed (env.clock state.readings),
          AutonomyLog.current_eq_ok.mpr
            ⟨_, AutonomyLog.history_append (append_autonomySeed empty) empty,
              rfl⟩, rfl, rfl⟩
      · simp only [if_neg default] at returned
        cases returned
        unfold AutonomyLog.resolveAutonomy at resolved
        cases current : AutonomyLog.current env.formats state.store.autonomy with
        | error error =>
            simp only [current] at resolved
            split at resolved
            · cases resolved
              exact absurd rfl open'
            · cases resolved
        | ok entry =>
            cases entry with
            | none =>
                simp only [current] at resolved
                cases resolved
                exact absurd rfl default
            | some entry =>
                simp only [current] at resolved
                cases resolved
                exact ⟨entry, rfl, rfl, rfl⟩

end CurrentAutonomy

section Decisions

theorem keepsAt_givenOr {relation : TradeState → TradeState → Prop} {α : Type}
    {given : Option α} {compute : ServiceTx α}
    (kept : Tx.KeepsAt (Over relation) compute state) :
    Tx.KeepsAt (Over relation) (givenOr given compute) state := by
  cases given with
  | none => exact kept
  | some value => exact keepsAt_pure

theorem givenOr_ask_eq_ok {α : Type} {given : Option α} {query : Query α}
    {value : α}
    (returned : givenOr given (ask query) state = (.ok value, reached)) :
    reached = state := by
  cases given with
  | none =>
      change ask query state = _ at returned
      exact (Tx.read_eq_ok.mp returned).2.symm
  | some found => exact (Tx.pure_eq_ok.mp returned).2.symm

theorem givenOr_budget_autonomy {given : Option RiskBudget}
    {budget : RiskBudget}
    (returned : givenOr given (currentBudget env) state = (.ok budget, reached)) :
    reached.store.autonomy = state.store.autonomy := by
  cases given with
  | none =>
      have same := @currentBudget_autonomy env state
      change currentBudget env state = _ at returned
      rwa [returned] at same
  | some found => rw [(Tx.pure_eq_ok.mp returned).2]

theorem appendAutonomy_settles {entry : AutonomyStateEntry}
    (justified : AutonomyLog.Justified env.formats state.store.autonomy entry) :
    Tx.KeepsAt (Settles env) (appendAutonomy env entry) state := by
  refine keepsAt_alter fun store changed => ?_
  obtain ⟨lines, appended, rfl⟩ := Outcome.map_eq_ok.mp changed
  exact .single (.growAutonomy ⟨entry, appended, justified⟩)

theorem ratchet_settles {moment : ℤ} {resolution : AutonomyResolution}
    {found : Breach} {active : AutonomyStateEntry}
    (read : AutonomyLog.current env.formats state.store.autonomy =
      .ok (some active))
    (above : AutonomyMode.humanApprovedExecution.rank < active.mode.rank) :
    Tx.KeepsAt (Settles env) (ratchet env moment resolution found) state := by
  refine keepsAt_lift_bind fun entry made => ?_
  obtain ⟨_, mode, system, actor⟩ :=
    make_eq_ok (Outcome.mapError_eq_ok.mp made)
  refine Tx.keepsAt_bind (appendAutonomy_settles
    (.ratchet read (by rw [mode]; exact above) system actor)) ?_
  intro _ reached _
  exact keepsAt_pure

theorem applyRatchet_settles {moment : ℤ} {resolution : AutonomyResolution}
    {budget : Option RiskBudget} {context : Option ApprovalBudgetContext}
    {active : AutonomyStateEntry}
    (read : AutonomyLog.current env.formats state.store.autonomy =
      .ok (some active))
    (above : AutonomyMode.humanApprovedExecution.rank < active.mode.rank) :
    Tx.KeepsAt (Settles env)
      (applyRatchet env moment resolution budget context) state := by
  refine Tx.keepsAt_bind (keepsAt_givenOr currentBudget_settles) ?_
  intro budget budgeted settled
  have same := givenOr_budget_autonomy settled
  refine Tx.keepsAt_bind (keepsAt_givenOr keepsAt_ask) ?_
  intro context asked answered
  obtain rfl := givenOr_ask_eq_ok answered
  refine keepsAt_ask_bind fun found _ => ?_
  cases found with
  | none => exact keepsAt_pure
  | some found => exact ratchet_settles (by rw [same]; exact read) above

theorem decisionAutonomy_settles {moment : ℤ} {budget : Option RiskBudget}
    {context : Option ApprovalBudgetContext} :
    Tx.KeepsAt (Settles env) (decisionAutonomy env moment budget context)
      state := by
  refine Tx.keepsAt_bind currentAutonomy_settles ?_
  intro resolution resolved returned
  split
  · exact keepsAt_pure
  · next above =>
      rw [not_or, not_le] at above
      obtain ⟨active, read, mode, _⟩ :=
        currentAutonomy_active returned above.1
      exact applyRatchet_settles read (mode ▸ above.2)

theorem checkApproval_settles {idea : TradeIdea} {actorType : ActorType} :
    Tx.KeepsAt (Settles env) (checkApproval env idea actorType) state := by
  refine keepsAt_now_bind fun started _ => ?_
  refine Tx.keepsAt_bind currentBudget_settles ?_
  intro budget budgeted _
  refine keepsAt_ask_bind fun context _ => ?_
  refine Tx.keepsAt_bind decisionAutonomy_settles ?_
  intro resolution resolved _
  refine keepsAt_ask_bind fun violations _ => ?_
  exact keepsAt_pure

end Decisions

end ServiceTx

end GptTrader
