import GptTrader.Persistence.StoreWriters

/-!
# How far a writer gets

Inside of an open writing transaction a writer is done, or it is refused before
it changes anything, or it breaks: it raises after it has written, or after it
has rolled back the connection it shares with the transaction.
-/

namespace GptTrader

/-- What becomes of a computation on the working copy. -/
inductive Attempt (α : Type) where
  | done (value : α) (changed : OrdersDatabase)
  | refused (error : StoreError)
  | broken (error : StoreError)

namespace Attempt

variable {α β : Type}

/-- Go on with what was read. -/
def afterRead (outcome : Except StoreError α) (next : α → Attempt β) :
    Attempt β :=
  match outcome with
  | .ok value => next value
  | .error error => .refused error

def afterWrite (written : Except StoreError OrdersDatabase)
    (next : OrdersDatabase → Except StoreError (α × OrdersDatabase)) :
    Attempt α :=
  match written with
  | .error error => .refused error
  | .ok changed =>
      match next changed with
      | .ok (value, reached) => .done value reached
      | .error error => .broken error

theorem afterRead_eq_done {outcome : Except StoreError α}
    {next : α → Attempt β} {result : β} {changed : OrdersDatabase} :
    afterRead outcome next = .done result changed ↔
      ∃ value, outcome = .ok value ∧ next value = .done result changed := by
  cases outcome <;> simp [afterRead]

theorem afterWrite_eq_done {written : Except StoreError OrdersDatabase}
    {next : OrdersDatabase → Except StoreError (α × OrdersDatabase)}
    {result : α} {changed : OrdersDatabase} :
    afterWrite written next = .done result changed ↔
      ∃ middle, written = .ok middle ∧ next middle = .ok (result, changed) := by
  cases written with
  | error error => simp [afterWrite]
  | ok middle =>
      cases outcome : next middle with
      | error error => simp [afterWrite, outcome]
      | ok reached => simp [afterWrite, outcome, Prod.ext_iff]

/-- What an attempt answers. -/
def outcome : Attempt α → Except StoreError (α × OrdersDatabase)
  | .done value changed => .ok (value, changed)
  | .refused error => .error error
  | .broken error => .error error

/-- The state an attempt leaves. -/
def settled (attempt : Attempt α) (database : OrdersDatabase) :
    OrdersDatabase :=
  match attempt with
  | .done _ changed => changed
  | _ => database

theorem settled_outcome (attempt : Attempt α) (database : OrdersDatabase) :
    GptTrader.settled database attempt.outcome = attempt.settled database := by
  cases attempt <;> rfl

end Attempt

/-- Inside of a writing transaction the computation gets as far as the attempt
says. -/
structure Attempts {α : Type} (body : StoreTx α)
    (attempt : OrdersDatabase → Attempt α) : Prop where
  done : ∀ store database value changed, store.Writing →
    store.connection.working = some database →
      attempt database = .done value changed →
        body store = (.ok value, store.working changed)
  refused : ∀ store database error, store.Writing →
    store.connection.working = some database →
      attempt database = .refused error → body store = (.error error, store)
  broken : ∀ store database error, store.Writing →
    store.connection.working = some database →
      attempt database = .broken error → Abandons (body store) store

section Rules

variable {α β : Type} {store : OrdersStore} {database : OrdersDatabase}

theorem abandons_of_refused {error : StoreError}
    {body : StoreTx α} (refused : body store = (.error error, store)) :
    Abandons (body store) store := by
  rw [refused]
  exact
    { raised := ⟨error, rfl⟩
      history := rfl
      depth := rfl
      write := rfl }

theorem Attempts.acts {body : StoreTx α} {attempt : OrdersDatabase → Attempt α}
    (attempts : Attempts body attempt) :
    ActsAs body fun database => (attempt database).outcome where
  returns store database value changed writing opened outcome := by
    match tried : attempt database with
    | .done result reached =>
        rw [tried] at outcome
        obtain ⟨rfl, rfl⟩ : result = value ∧ reached = changed := by
          simpa [Attempt.outcome] using outcome
        exact attempts.done store database result reached writing opened tried
    | .refused error => simp [tried, Attempt.outcome] at outcome
    | .broken error => simp [tried, Attempt.outcome] at outcome
  fails store database error writing opened outcome := by
    match tried : attempt database with
    | .done result reached => simp [tried, Attempt.outcome] at outcome
    | .refused thrown =>
        exact abandons_of_refused
          (attempts.refused store database thrown writing opened tried)
    | .broken thrown =>
        exact attempts.broken store database thrown writing opened tried

theorem attempts_pure (value : α) :
    Attempts (pure value) fun database => .done value database where
  done store database result changed _ opened tried := by
    obtain ⟨rfl, rfl⟩ : value = result ∧ database = changed := by
      simpa using tried
    simp [OrdersStore.working_self opened]
  refused store database error _ _ tried := by cases tried
  broken store database error _ _ tried := by cases tried

theorem attempts_select_bind {query : OrdersDatabase → Except StoreError α}
    {next : α → StoreTx β} (attempt : α → OrdersDatabase → Attempt β)
    (rest : ∀ value, Attempts (next value) (attempt value)) :
    Attempts (OrdersStore.select query >>= next) fun database =>
      .afterRead (query database) fun value => attempt value database := by
  have found : ∀ store database value, store.connection.working = some database →
      query database = .ok value →
        (OrdersStore.select query >>= next) store = next value store := by
    intro store database value opened located
    rw [Tx.bind_apply]
    simp only [OrdersStore.select, Tx.read_apply, database_of_working opened, located]
  have missed : ∀ store database error, store.connection.working = some database →
      query database = .error error →
        (OrdersStore.select query >>= next) store = (.error error, store) := by
    intro store database error opened located
    rw [Tx.bind_apply]
    simp only [OrdersStore.select, Tx.read_apply, database_of_working opened, located]
  constructor
  · intro store database value changed writing opened tried
    cases located : query database with
    | ok given =>
        rw [located] at tried
        rw [found store database given opened located]
        exact (rest given).done store database value changed writing opened tried
    | error error => simp [located, Attempt.afterRead] at tried
  · intro store database error writing opened tried
    cases located : query database with
    | ok given =>
        rw [located] at tried
        rw [found store database given opened located]
        exact (rest given).refused store database error writing opened tried
    | error thrown =>
        obtain rfl : thrown = error := by
          simpa [located, Attempt.afterRead] using tried
        rw [missed store database thrown opened located]
  · intro store database error writing opened tried
    cases located : query database with
    | ok given =>
        rw [located] at tried
        rw [found store database given opened located]
        exact (rest given).broken store database error writing opened tried
    | error thrown => simp [located, Attempt.afterRead] at tried

theorem attempts_lift_bind {outcome : Except StoreError α}
    {next : α → StoreTx β} (attempt : α → OrdersDatabase → Attempt β)
    (rest : ∀ value, Attempts (next value) (attempt value)) :
    Attempts (OrdersStore.lift outcome >>= next) fun database =>
      .afterRead outcome fun value => attempt value database := by
  change Attempts (OrdersStore.select (fun _ => outcome) >>= next) _
  exact attempts_select_bind attempt rest

theorem attempts_require_bind {condition : Prop} [Decidable condition]
    {error : StoreError} {next : Unit → StoreTx β}
    {attempt : OrdersDatabase → Attempt β}
    (rest : Attempts (next ()) attempt) :
    Attempts (Tx.require condition error >>= next) fun database =>
      if condition then attempt database else .refused error := by
  by_cases holds : condition
  · have skips : ∀ store, (Tx.require condition error >>= next) store =
        next () store := by
      intro store
      simp [Tx.bind_apply, Tx.require, holds]
    constructor <;> intro store <;> rw [skips] <;> simp only [if_pos holds]
    · exact rest.done store
    · exact rest.refused store
    · exact rest.broken store
  · have raises : ∀ store, (Tx.require condition error >>= next) store =
        (.error error, store) := by
      intro store
      simp [Tx.bind_apply, Tx.require, holds]
    constructor <;> intro store database <;> simp only [raises, if_neg holds]
    · intro value changed _ _ tried
      cases tried
    · intro thrown _ _ tried
      cases tried
      rfl
    · intro thrown _ _ tried
      cases tried

theorem attempts_require {condition : Prop} [Decidable condition]
    {error : StoreError} :
    Attempts (Tx.require condition error) fun database =>
      if condition then .done () database else .refused error := by
  have same : Tx.require condition error = (Tx.require condition error >>=
      pure : StoreTx Unit) := by
    funext store
    by_cases holds : condition <;> simp [Tx.bind_apply, Tx.require, holds]
  rw [same]
  exact attempts_require_bind (attempts_pure ())

theorem acts_require {condition : Prop} [Decidable condition]
    {error : StoreError} :
    ActsAs (Tx.require condition error) fun database =>
      if condition then .ok ((), database) else .error error := by
  refine attempts_require.acts.congr fun database => ?_
  split <;> rfl

theorem attempts_write_bind
    {change : OrdersDatabase → Except StoreError OrdersDatabase}
    {next : Unit → StoreTx α}
    {step : OrdersDatabase → Except StoreError (α × OrdersDatabase)}
    (rest : ActsAs (next ()) step) :
    Attempts (OrdersStore.write change >>= next) fun database =>
      .afterWrite (change database) step := by
  have writes : ∀ store database changed, store.connection.working = some database →
      change database = .ok changed →
        (OrdersStore.write change >>= next) store = next () (store.working changed) := by
    intro store database changed opened written
    rw [Tx.bind_apply]
    simp only [OrdersStore.write, Tx.evolve, database_of_working opened, written]
    simp [OrdersStore.working, Connection.write, opened]
  have raises : ∀ store database error, store.connection.working = some database →
      change database = .error error →
        (OrdersStore.write change >>= next) store = (.error error, store) := by
    intro store database error opened unwritten
    rw [Tx.bind_apply]
    simp only [OrdersStore.write, Tx.evolve, database_of_working opened, unwritten]
  constructor
  · intro store database value changed writing opened tried
    unfold Attempt.afterWrite at tried
    split at tried
    · cases tried
    · next middle written =>
        split at tried
        · next result reached finished =>
            cases tried
            rw [writes store database middle opened written]
            exact rest.returns (store.working middle) middle value changed
              writing.working rfl finished
        · cases tried
  · intro store database error writing opened tried
    unfold Attempt.afterWrite at tried
    split at tried
    · next thrown unwritten =>
        cases tried
        rw [raises store database error opened unwritten]
    · split at tried <;> cases tried
  · intro store database error writing opened tried
    unfold Attempt.afterWrite at tried
    split at tried
    · cases tried
    · next middle written =>
        split at tried
        · cases tried
        · next thrown failed =>
            rw [writes store database middle opened written]
            have abandons := rest.fails (store.working middle) middle thrown
              writing.working rfl failed
            exact
              { raised := abandons.raised
                history := abandons.history
                depth := abandons.depth
                write := abandons.write }

theorem attempts_write
    {change : OrdersDatabase → Except StoreError OrdersDatabase} :
    Attempts (OrdersStore.write change) fun database =>
      .afterWrite (change database) fun changed => .ok ((), changed) := by
  have same : OrdersStore.write change =
      (OrdersStore.write change >>= pure : StoreTx Unit) := by
    funext store
    rw [Tx.bind_apply]
    match OrdersStore.write change store with
    | (.ok value, reached) => rfl
    | (.error error, reached) => rfl
  rw [same]
  exact attempts_write_bind (acts_pure ())

theorem enterTransaction_writing (writing : store.Writing) (mode : Bool) :
    OrdersStore.enterTransaction mode store =
      (.ok (), { store with transactionDepth := store.transactionDepth + 1 }) := by
  simp [OrdersStore.enterTransaction, Tx.bind_apply, writing.depth,
    Tx.require, writing.write]

theorem OrdersStore.Writing.entered (writing : store.Writing) :
    { store with
      transactionDepth := store.transactionDepth + 1 : OrdersStore }.Writing :=
  { depth := by simp
    write := writing.write }

theorem transaction_nested {mode : Bool} (nested : store.transactionDepth ≠ 0)
    (enters : OrdersStore.enterTransaction mode store =
      (.ok (), { store with transactionDepth := store.transactionDepth + 1 }))
    {body : StoreTx α} {outcome : Except StoreError α} {reached : OrdersStore}
    (ran : body { store with transactionDepth := store.transactionDepth + 1 } =
      (outcome, reached))
    (depth : reached.transactionDepth = store.transactionDepth + 1) :
    OrdersStore.transaction mode body store =
      (outcome, { reached with transactionDepth := store.transactionDepth }) := by
  cases outcome with
  | ok value =>
      simp [OrdersStore.transaction, Tx.bind_apply, enters, Tx.handle, ran,
        OrdersStore.leaveTransaction, Tx.when, depth, nested]
  | error error =>
      rw [transaction_of_raise enters ran]
      have inner : OrdersStore.leavingError (store.transactionDepth + 1) error =
          error := by
        unfold OrdersStore.leavingError
        split
        · next outermost => omega
        · rfl
      simp [depth, nested, inner]

theorem attempts_transaction {body : StoreTx α}
    {attempt : OrdersDatabase → Attempt α} (attempts : Attempts body attempt) :
    Attempts (OrdersStore.transaction true body) attempt where
  done store database value changed writing opened tried := by
    have inner := attempts.done _ database value changed writing.entered opened
      tried
    rw [transaction_nested writing.depth (enterTransaction_writing writing true)
      inner rfl]
    rfl
  refused store database error writing opened tried := by
    have inner := attempts.refused _ database error writing.entered opened tried
    rw [transaction_nested writing.depth (enterTransaction_writing writing true)
      inner rfl]
  broken store database error writing opened tried := by
    have inner := attempts.broken _ database error writing.entered opened tried
    obtain ⟨thrown, raised⟩ := inner.apply
    rw [transaction_nested writing.depth (enterTransaction_writing writing true)
      raised inner.depth]
    exact
      { raised := ⟨thrown, rfl⟩
        history := inner.history
        depth := rfl
        write := inner.write }

end Rules

section Writers

variable (context : OrdersContext)

def upsertFills (existing : OrderRecord) (fact : FillFact)
    (quantity notional : ℚ) (now : DateTime) (database : OrdersDatabase) :
    Except StoreError OrdersDatabase :=
  if existing.status.venueTerminal = false then do
    let complete ←
      (Decimal.eq (.finite quantity) existing.quantity).mapError .python
    upsertResult context
      (OrdersStore.withFills existing fact quantity notional complete now)
      database
  else .error (.integrity "Identified fills exceed terminal receipt")

def advanceOrder (existing : OrderRecord) (fact : FillFact)
    (quantity notional : ℚ) (now : DateTime) (database : OrdersDatabase) :
    Except StoreError OrdersDatabase := do
  let advanced ←
    (existing.filledQuantity.lt (.finite quantity)).mapError .python
  if advanced then upsertFills context existing fact quantity notional now database
  else .ok database

def advanceResult (existing : Option OrderRecord) (fact : FillFact)
    (quantity notional : ℚ) (now : DateTime) (database : OrdersDatabase) :
    Except StoreError (Bool × OrdersDatabase) :=
  match existing with
  | none => .ok (true, database)
  | some existing =>
      (advanceOrder context existing fact quantity notional now database).map
        fun changed => (true, changed)

def newFillAttempt (fact : FillFact) (now : DateTime)
    (existing : Option OrderRecord) (sameOrder : List FillFact)
    (database : OrdersDatabase) : Attempt Bool :=
  if ∀ item ∈ sameOrder, item.symbol = fact.symbol ∧ item.side = fact.side then
    .afterRead (existing.toList.forM fun existing =>
      OrdersDatabase.fillsWithinIntent existing
        (OrdersStore.totalQuantity (sameOrder ++ [fact]))) fun _ =>
    .afterWrite (database.insertFact fact)
      (advanceResult context existing fact
        (OrdersStore.totalQuantity (sameOrder ++ [fact]))
        (OrdersStore.totalNotional (sameOrder ++ [fact])) now)
  else .refused (.integrity "Order fill facts conflict")

def knownFillAttempt (fact : FillFact) (now : DateTime)
    (existing : Option OrderRecord) (facts : List FillFact)
    (database : OrdersDatabase) : Attempt Bool :=
  match facts.find? fun item =>
      decide (item.orderId = fact.orderId ∧ item.fillId = fact.fillId) with
  | some duplicate =>
      if duplicate = fact then .done false database
      else .refused (.integrity "Fill ID reused with different payload")
  | none =>
      .afterRead (database.baselineAllows fact) fun _ =>
        newFillAttempt context fact now existing
          (facts.filter fun item => decide (item.orderId = fact.orderId))
          database

/-- A fill as an attempt on the tables. -/
def fillAttempt (fact : FillFact) (now : DateTime)
    (database : OrdersDatabase) : Attempt Bool :=
  .afterRead (database.fillOrder context fact) fun existing =>
  .afterRead (existing.toList.forM (OrdersDatabase.fillMatches context fact))
    fun _ =>
  .afterRead (database.facts now fact.orderId) fun facts =>
    knownFillAttempt context fact now existing facts database

/-- How far recording an observation gets: it breaks when another stored
observation is invalid, unless it was stored already. -/
def observationAttempt (observation : Option FillObservation)
    (database : OrdersDatabase) : Attempt Unit :=
  match observation with
  | none => .done () database
  | some observation =>
      let digest := context.observationDigest observation
      let stored := database.observations.any fun row =>
        decide (row.orderId = observation.orderId ∧ row.key = digest)
      match (database.insertObservation digest observation).observationsValid with
      | .ok _ => .done () (database.insertObservation digest observation)
      | .error error => if stored then .refused error else .broken error

def newBaselineAttempt (baseline : PositionBaseline) (now : DateTime)
    (bindings : List (String × ReceiptBinding))
    (stored : Option BaselinePayload) (database : OrdersDatabase) :
    Attempt Unit :=
  let payload : BaselinePayload :=
    { baseline := baseline
      coveredReceipts := bindings }
  match stored with
  | some stored =>
      if stored = payload then .done () database
      else .refused (.integrity "Opening baseline is immutable")
  | none =>
      .afterRead (database.allFacts now) fun facts =>
        if ∀ fact ∈ facts, fact.orderId ∈ baseline.coveredOrderIds →
            fact.executedAt ≤ baseline.effectiveAt then
          .afterWrite (database.insertBaseline payload) fun changed =>
            .ok ((), changed)
        else
          .refused
            (.integrity "Baseline conflicts with identified later execution")

def storeBaselineAttempt (baseline : PositionBaseline) (now : DateTime)
    (bindings : List (String × ReceiptBinding)) (database : OrdersDatabase) :
    Attempt Unit :=
  .afterRead (database.storedBaseline baseline.symbol) fun stored =>
    newBaselineAttempt baseline now bindings stored database

/-- A baseline as an attempt on the tables. -/
def baselineAttempt (baseline : PositionBaseline) (now : DateTime)
    (database : OrdersDatabase) : Attempt Unit :=
  .afterRead (baseline.coveredOrderIds.mapM
    (database.coveredReceipt context baseline.symbol)) fun bindings =>
      storeBaselineAttempt baseline now bindings database

variable {context}

theorem acts_upsertFills (existing : OrderRecord) (fact : FillFact)
    (quantity notional : ℚ) (now : DateTime) :
    ActsAs
      (do
        Tx.require (existing.status.venueTerminal = false)
          (.integrity "Identified fills exceed terminal receipt")
        let complete ← OrdersStore.lift
          ((Decimal.eq (.finite quantity) existing.quantity).mapError .python)
        let _ ← OrdersStore.upsertByClientId context
          (OrdersStore.withFills existing fact quantity notional complete now)
          true
        pure ())
      (fun database =>
        (upsertFills context existing fact quantity notional now database).map
          fun changed => ((), changed)) := by
  refine ActsAs.congr
    (acts_bind _ acts_require fun _ =>
      acts_bind _ (acts_lift _) fun complete =>
        acts_bind (fun _ database => .ok ((), database))
          (acts_upsertByClientId context
            (OrdersStore.withFills existing fact quantity notional complete now))
          fun _ => acts_pure ()) fun database => ?_
  unfold upsertFills
  split
  · match (Decimal.eq (.finite quantity) existing.quantity).mapError
        StoreError.python with
    | .error error => rfl
    | .ok complete =>
        simp only [Except.map, bind, Except.bind]
        cases upsertResult context (OrdersStore.withFills existing fact quantity
          notional complete now) database <;> rfl
  · rfl

theorem acts_applyFills (existing : OrderRecord) (fact : FillFact)
    (quantity notional : ℚ) (now : DateTime) :
    ActsAs
      (OrdersStore.applyFills context existing fact quantity notional now)
      (fun database =>
        (advanceOrder context existing fact quantity notional now database).map
          fun changed => ((), changed)) := by
  unfold OrdersStore.applyFills
  refine ActsAs.congr
    (acts_bind
      (fun advanced database =>
        if advanced = true then
          (upsertFills context existing fact quantity notional now database).map
            fun changed => ((), changed)
        else .ok ((), database))
      (acts_lift _) fun advanced => ?_) fun database => ?_
  · cases advanced with
    | true => exact acts_upsertFills existing fact quantity notional now
    | false => exact acts_pure ()
  · unfold advanceOrder
    match (existing.filledQuantity.lt (.finite quantity)).mapError
        StoreError.python with
    | .error error => rfl
    | .ok false => rfl
    | .ok true => rfl

/-- Recording a fill gets as far as `fillAttempt` says. -/
theorem attempts_recordFillBody (fact : FillFact) (now : DateTime) :
    Attempts (OrdersStore.recordFillBody context fact now)
      (fillAttempt context fact now) := by
  unfold OrdersStore.recordFillBody
  refine attempts_select_bind
    (fun existing database =>
      .afterRead
        (existing.toList.forM (OrdersDatabase.fillMatches context fact))
        fun _ => .afterRead (database.facts now fact.orderId) fun facts =>
          knownFillAttempt context fact now existing facts database)
    fun existing => ?_
  refine attempts_lift_bind
    (fun _ database => .afterRead (database.facts now fact.orderId) fun facts =>
      knownFillAttempt context fact now existing facts database)
    fun _ => ?_
  refine attempts_select_bind
    (fun facts => knownFillAttempt context fact now existing facts)
    fun facts => ?_
  unfold knownFillAttempt
  cases facts.find? fun item =>
      decide (item.orderId = fact.orderId ∧ item.fillId = fact.fillId) with
  | some duplicate =>
      exact attempts_require_bind (attempts_pure false)
  | none =>
      refine attempts_select_bind
        (fun _ => newFillAttempt context fact now existing
          (facts.filter fun item => decide (item.orderId = fact.orderId)))
        fun _ => ?_
      refine attempts_require_bind ?_
      refine attempts_lift_bind
        (fun _ database => .afterWrite (database.insertFact fact)
          (advanceResult context existing fact _ _ now)) fun _ => ?_
      refine attempts_write_bind ?_
      cases existing with
      | none => exact acts_pure true
      | some existing =>
          refine ActsAs.congr (acts_bind (fun _ database => .ok (true, database))
            (acts_applyFills existing fact _ _ now) fun _ => acts_pure true)
            fun database => ?_
          simp only [advanceResult]
          cases advanceOrder context existing fact _ _ now database <;> rfl

theorem attempts_recordFill (fact : FillFact) (now : DateTime) :
    Attempts (OrdersStore.recordFill context fact now) fun database =>
      .afterRead (OrdersDatabase.requireObservedTime now fact.executedAt)
        fun _ => fillAttempt context fact now database :=
  attempts_lift_bind (fun _ => fillAttempt context fact now) fun _ =>
    attempts_transaction (attempts_recordFillBody fact now)

theorem recordFill_eq (fact : FillFact) (now : DateTime)
    (store : OrdersStore) :
    OrdersStore.recordFill context fact now store =
      match OrdersDatabase.requireObservedTime now fact.executedAt with
      | .error error => (.error error, store)
      | .ok _ => OrdersStore.transaction true
          (OrdersStore.recordFillBody context fact now) store := by
  unfold OrdersStore.recordFill OrdersStore.lift
  rw [Tx.bind_apply, Tx.read_apply]
  cases OrdersDatabase.requireObservedTime now fact.executedAt <;> rfl

theorem acts_recordFillBody (context : OrdersContext) (fact : FillFact)
    (now : DateTime) :
    ActsAs (OrdersStore.recordFillBody context fact now)
      fun database => (fillAttempt context fact now database).outcome :=
  (attempts_recordFillBody fact now).acts

theorem outcome_eq_ok {α : Type} {attempt : Attempt α} {value : α}
    {changed : OrdersDatabase}
    (result : attempt.outcome = .ok (value, changed)) :
    attempt = .done value changed := by
  cases attempt with
  | done other reached =>
      cases result
      rfl
  | refused error => cases result
  | broken error => cases result

theorem recordFill_cases (context : OrdersContext) (fact : FillFact)
    (now : DateTime) {store : OrdersStore} (idle : store.Idle) :
    (∃ value changed reached,
      OrdersStore.recordFill context fact now store = (.ok value, reached) ∧
        fillAttempt context fact now store.database = .done value changed ∧
        reached.Holds changed) ∨
      ∃ error reached,
        OrdersStore.recordFill context fact now store =
          (.error error, reached) ∧ reached.Holds store.database := by
  rw [recordFill_eq]
  cases OrdersDatabase.requireObservedTime now fact.executedAt with
  | error error => exact .inr ⟨error, store, rfl, idle, rfl⟩
  | ok _ =>
      have acts := acts_recordFillBody context fact now
      cases result : supported
          (fun database => (fillAttempt context fact now database).outcome)
          store.database with
      | ok value =>
          obtain ⟨reached, returned, holds⟩ := transaction_ok acts idle result
          exact .inl ⟨value.1, value.2, reached, returned,
            outcome_eq_ok (Outcome.branch_eq_ok.mp result).2, holds⟩
      | error error =>
          obtain ⟨thrown, reached, raised, holds⟩ :=
            transaction_error acts idle result
          exact .inr ⟨thrown, reached, raised, holds⟩

theorem recordFill_done {fact : FillFact} {now : ℤ} {store : OrdersStore}
    (idle : store.Idle) (supported : store.database.schemaVersions = [1])
    (past : fact.executedAt ≤ now) {value : Bool} {changed : OrdersDatabase}
    (done : fillAttempt context fact (.utc now) store.database =
      .done value changed) :
    ∃ reached, OrdersStore.recordFill context fact (.utc now) store =
        (.ok value, reached) ∧ reached.Holds changed := by
  have observed : OrdersDatabase.requireObservedTime (.utc now)
      fact.executedAt = .ok () := by
    unfold OrdersDatabase.requireObservedTime
    rw [if_neg]
    simpa [DateTime.utc, DateTime.instant] using past
  rw [recordFill_eq, observed]
  exact transaction_returns (acts_recordFillBody context fact (.utc now)) idle
    supported (by rw [done]; rfl)

theorem attempts_recordBaselineBody (baseline : PositionBaseline)
    (now : DateTime) :
    Attempts (OrdersStore.recordBaselineBody context baseline now)
      (baselineAttempt context baseline now) := by
  unfold OrdersStore.recordBaselineBody
  refine attempts_select_bind (storeBaselineAttempt baseline now)
    fun bindings => ?_
  refine attempts_select_bind
    (fun stored => newBaselineAttempt baseline now bindings stored)
    fun stored => ?_
  cases stored with
  | some stored => exact attempts_require
  | none =>
      refine attempts_select_bind
        (fun (facts : List FillFact) database =>
          if ∀ fact ∈ facts, fact.orderId ∈ baseline.coveredOrderIds →
              fact.executedAt ≤ baseline.effectiveAt then
            .afterWrite (database.insertBaseline _) fun changed =>
              .ok ((), changed)
          else
            .refused
              (.integrity "Baseline conflicts with identified later execution"))
        fun facts => ?_
      exact attempts_require_bind attempts_write

theorem attempts_recordBaseline (baseline : PositionBaseline)
    (now : DateTime) :
    Attempts (OrdersStore.recordBaseline context baseline now) fun database =>
      .afterRead (OrdersDatabase.requireObservedTime now baseline.effectiveAt)
        fun _ => baselineAttempt context baseline now database :=
  attempts_lift_bind (fun _ => baselineAttempt context baseline now) fun _ =>
    attempts_transaction (attempts_recordBaselineBody baseline now)

theorem insertObservation_of_stored {digest : String}
    {observation : FillObservation} {database : OrdersDatabase}
    (stored : database.observations.any (fun row =>
      decide (row.orderId = observation.orderId ∧ row.key = digest)) = true) :
    database.insertObservation digest observation = database :=
  if_pos stored

theorem attempts_recordObservationBody (observation : FillObservation) :
    Attempts
      (do
        OrdersStore.write fun database =>
          .ok (database.insertObservation
            (context.observationDigest observation) observation)
        OrdersStore.select fun database => database.observationsValid)
      (observationAttempt context (some observation)) := by
  have acts : ActsAs
      (do
        OrdersStore.write fun database =>
          .ok (database.insertObservation
            (context.observationDigest observation) observation)
        OrdersStore.select fun database => database.observationsValid)
      (fun database =>
        (database.insertObservation (context.observationDigest observation)
          observation).observationsValid.map fun value =>
            (value, database.insertObservation
              (context.observationDigest observation) observation)) :=
    (acts_bind _ (acts_write _) fun _ => acts_select _).congr fun database => rfl
  constructor
  · intro store database value changed writing opened tried
    refine acts.returns store database value changed writing opened ?_
    unfold observationAttempt at tried
    dsimp only at tried ⊢
    split at tried
    · next valid =>
        cases tried
        rw [valid]
        rfl
    · split at tried <;> cases tried
  · intro store database error writing opened tried
    unfold observationAttempt at tried
    dsimp only at tried
    split at tried
    · cases tried
    · next thrown invalid =>
        split at tried
        · next stored =>
            cases tried
            rw [insertObservation_of_stored stored] at invalid
            have writes := (acts_write fun database =>
              .ok (database.insertObservation
                (context.observationDigest observation) observation)).returns
              store database () database writing opened (by
                rw [insertObservation_of_stored stored]
                rfl)
            rw [Tx.bind_apply, writes, OrdersStore.working_self opened]
            simp [OrdersStore.select, database_of_working opened, invalid]
        · cases tried
  · intro store database error writing opened tried
    unfold observationAttempt at tried
    dsimp only at tried
    split at tried
    · cases tried
    · next thrown invalid =>
        split at tried
        · cases tried
        · cases tried
          refine acts.fails store database error writing opened ?_
          rw [invalid]
          rfl

theorem attempts_recordObservation (order : OrderRecord) (source : String) :
    Attempts (OrdersStore.recordObservation context order source)
      fun database => .afterRead
        (OrdersStore.observationOf context order source)
        fun observation => observationAttempt context observation database := by
  refine attempts_lift_bind (observationAttempt context) fun observation => ?_
  cases observation with
  | none => exact attempts_pure ()
  | some observation =>
      exact attempts_transaction (attempts_recordObservationBody observation)

/-! ### What the writers leave alone -/

variable {database changed : OrdersDatabase}

theorem upsert_frame {record : OrderRecord}
    (upserted : database.upsert record = .ok changed) :
    changed = { database with orders := changed.orders } := by
  unfold OrdersDatabase.upsert at upserted
  split at upserted
  · cases upserted
    rfl
  · split at upserted
    · cases upserted
      rfl
    · cases upserted

theorem upsertResult_frame {order : OrderRecord}
    (result : upsertResult context order database = .ok changed) :
    changed = { database with orders := changed.orders } := by
  simp only [upsertResult, Outcome.bind_eq_ok] at result
  obtain ⟨_, _, _, _, _, _, upserted⟩ := result
  exact upsert_frame upserted

theorem insertFact_eq_ok {fact : FillFact} :
    database.insertFact fact = .ok changed ↔
      (∀ row ∈ database.fillFacts,
        ¬(row.orderId = fact.orderId ∧ row.fillId = fact.fillId)) ∧
      changed =
        { database with
          fillFacts := database.fillFacts ++
            [{ orderId := fact.orderId
               fillId := fact.fillId
               content := .ok fact }] } := by
  unfold OrdersDatabase.insertFact
  rw [Outcome.guard_eq_ok, List.any_eq_true]
  constructor
  · rintro ⟨fresh, same⟩
    cases same
    exact ⟨fun row member known =>
      fresh ⟨row, member, decide_eq_true known⟩, rfl⟩
  · rintro ⟨fresh, rfl⟩
    exact ⟨fun ⟨row, member, known⟩ =>
      fresh row member (of_decide_eq_true known), rfl⟩

theorem advanceOrder_frame {existing : OrderRecord} {fact : FillFact}
    {quantity notional : ℚ} {now : DateTime}
    (advanced : advanceOrder context existing fact quantity notional now
      database = .ok changed) :
    changed = { database with orders := changed.orders } := by
  obtain ⟨ahead, _, advanced⟩ := Outcome.bind_eq_ok.mp advanced
  split at advanced
  · unfold upsertFills at advanced
    split at advanced
    · obtain ⟨complete, _, upserted⟩ := Outcome.bind_eq_ok.mp advanced
      exact upsertResult_frame upserted
    · cases advanced
  · cases advanced
    rfl

theorem advanceResult_frame {existing : Option OrderRecord} {fact : FillFact}
    {quantity notional : ℚ} {now : DateTime} {recorded : Bool}
    (advanced : advanceResult context existing fact quantity notional now
      database = .ok (recorded, changed)) :
    recorded = true ∧ changed = { database with orders := changed.orders } := by
  cases existing with
  | none =>
      cases advanced
      exact ⟨rfl, rfl⟩
  | some existing =>
      obtain ⟨reached, moved, same⟩ := Outcome.map_eq_ok.mp advanced
      cases same
      exact ⟨rfl, advanceOrder_frame moved⟩

theorem fillAttempt_done {fact : FillFact} {now : DateTime} {recorded : Bool}
    (done : fillAttempt context fact now database = .done recorded changed) :
    (recorded = false ∧ changed = database) ∨
      (recorded = true ∧ ∃ orders,
        (∀ row ∈ database.fillFacts,
          ¬(row.orderId = fact.orderId ∧ row.fillId = fact.fillId)) ∧
        changed =
          { database with
            orders := orders
            fillFacts := database.fillFacts ++
              [{ orderId := fact.orderId
                 fillId := fact.fillId
                 content := .ok fact }] }) := by
  obtain ⟨existing, _, done⟩ := Attempt.afterRead_eq_done.mp done
  obtain ⟨_, _, done⟩ := Attempt.afterRead_eq_done.mp done
  obtain ⟨facts, _, done⟩ := Attempt.afterRead_eq_done.mp done
  unfold knownFillAttempt at done
  split at done
  · split at done
    · cases done
      exact .inl ⟨rfl, rfl⟩
    · cases done
  · obtain ⟨_, _, done⟩ := Attempt.afterRead_eq_done.mp done
    unfold newFillAttempt at done
    split at done
    · obtain ⟨_, _, done⟩ := Attempt.afterRead_eq_done.mp done
      obtain ⟨stored, inserted, advanced⟩ := Attempt.afterWrite_eq_done.mp done
      obtain ⟨fresh, rfl⟩ := insertFact_eq_ok.mp inserted
      obtain ⟨rfl, framed⟩ := advanceResult_frame advanced
      exact .inr ⟨rfl, changed.orders, fresh, framed⟩
    · cases done

theorem observationAttempt_done {observation : Option FillObservation}
    {result : Unit}
    (done : observationAttempt context observation database =
      .done result changed) :
    (observation = none ∧ changed = database) ∨
      ∃ stored, observation = some stored ∧
        changed = database.insertObservation
          (context.observationDigest stored) stored := by
  cases observation with
  | none =>
      cases done
      exact .inl ⟨rfl, rfl⟩
  | some observation =>
      unfold observationAttempt at done
      dsimp only at done
      split at done
      · cases done
        exact .inr ⟨observation, rfl, rfl⟩
      · split at done <;> cases done

theorem baselineAttempt_done {baseline : PositionBaseline} {now : DateTime}
    {result : Unit}
    (done : baselineAttempt context baseline now database =
      .done result changed) :
    changed = database ∨
      ∃ bindings, database.insertBaseline
        { baseline := baseline, coveredReceipts := bindings } = .ok changed := by
  obtain ⟨bindings, _, done⟩ := Attempt.afterRead_eq_done.mp done
  obtain ⟨stored, _, done⟩ := Attempt.afterRead_eq_done.mp done
  unfold newBaselineAttempt at done
  dsimp only at done
  split at done
  · split at done
    · cases done
      exact .inl rfl
    · cases done
  · obtain ⟨facts, _, done⟩ := Attempt.afterRead_eq_done.mp done
    split at done
    · obtain ⟨middle, inserted, same⟩ := Attempt.afterWrite_eq_done.mp done
      cases same
      exact .inr ⟨bindings, inserted⟩
    · cases done

end Writers

end GptTrader
