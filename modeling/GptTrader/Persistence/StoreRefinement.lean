import GptTrader.Library.Outcome
import GptTrader.Persistence.FillHistory

/-!
# Store computations as functions on the database

Inside of an open writing transaction a store computation is a function from
the working copy to a changed working copy, or it fails and leaves the
transaction to be abandoned.  `ActsAs` relates the two, and
`transaction_database` says what an outermost transaction commits.
-/

namespace GptTrader

/-- No transaction is open. -/
structure OrdersStore.Idle (store : OrdersStore) : Prop where
  depth : store.transactionDepth = 0
  closed : store.connection.working = none

/-- A writing transaction is open. -/
structure OrdersStore.Writing (store : OrdersStore) : Prop where
  depth : store.transactionDepth ≠ 0
  write : store.transactionWrite = true

def OrdersStore.working (store : OrdersStore) (database : OrdersDatabase) :
    OrdersStore :=
  { store with
    connection := { store.connection with working := some database } }

/-- An abandoned computation of an open transaction. -/
structure Abandons {α : Type} (outcome : Except StoreError α × OrdersStore)
    (store : OrdersStore) : Prop where
  raised : ∃ error, outcome.1 = .error error
  history : outcome.2.connection.history = store.connection.history
  depth : outcome.2.transactionDepth = store.transactionDepth
  write : outcome.2.transactionWrite = store.transactionWrite

/-- Inside of a writing transaction the computation is the function. -/
structure ActsAs {α : Type} (body : StoreTx α)
    (step : OrdersDatabase → Except StoreError (α × OrdersDatabase)) :
    Prop where
  returns : ∀ store database value changed, store.Writing →
    store.connection.working = some database →
      step database = .ok (value, changed) →
        body store = (.ok value, store.working changed)
  fails : ∀ store database error, store.Writing →
    store.connection.working = some database →
      step database = .error error → Abandons (body store) store

section Rules

variable {α β : Type} {store : OrdersStore} {database : OrdersDatabase}

theorem OrdersStore.working_self
    (opened : store.connection.working = some database) :
    store.working database = store := by
  unfold OrdersStore.working
  rw [← opened]

theorem OrdersStore.Writing.working (writing : store.Writing) :
    (store.working database).Writing :=
  { depth := writing.depth
    write := writing.write }

theorem database_of_working
    (opened : store.connection.working = some database) :
    store.database = database := by
  simp [OrdersStore.database, Connection.current, opened]

theorem Abandons.apply {outcome : Except StoreError α × OrdersStore}
    (abandons : Abandons outcome store) :
    ∃ error, outcome = (.error error, outcome.2) := by
  obtain ⟨error, raised⟩ := abandons.raised
  exact ⟨error, by rw [← raised]⟩

theorem acts_pure (value : α) :
    ActsAs (pure value) fun database => .ok (value, database) where
  returns store database result changed _ opened outcome := by
    obtain ⟨rfl, rfl⟩ : value = result ∧ database = changed := by
      simpa using outcome
    simp [OrdersStore.working_self opened]
  fails store database error _ _ outcome := by simp at outcome

theorem acts_select (query : OrdersDatabase → Except StoreError α) :
    ActsAs (OrdersStore.select query) fun database =>
      (query database).map fun value => (value, database) where
  returns store database value changed _ opened outcome := by
    obtain ⟨found, located, same⟩ := Outcome.map_eq_ok.mp outcome
    obtain ⟨rfl, rfl⟩ : found = value ∧ database = changed := by
      simpa using same
    rw [OrdersStore.working_self opened]
    simp [OrdersStore.select, database_of_working opened, located]
  fails store database error _ opened outcome := by
    match located : query database with
    | .ok value => simp [located, Except.map] at outcome
    | .error thrown =>
        have raises : OrdersStore.select query store =
            (.error thrown, store) := by
          simp [OrdersStore.select, database_of_working opened, located]
        rw [raises]
        exact
          { raised := ⟨thrown, rfl⟩
            history := rfl
            depth := rfl
            write := rfl }

theorem acts_lift (outcome : Except StoreError α) :
    ActsAs (OrdersStore.lift outcome) fun database =>
      outcome.map fun value => (value, database) :=
  acts_select fun _ => outcome

theorem acts_write
    (change : OrdersDatabase → Except StoreError OrdersDatabase) :
    ActsAs (OrdersStore.write change) fun database =>
      (change database).map fun changed => ((), changed) where
  returns store database value changed _ opened outcome := by
    obtain ⟨reached, written, same⟩ := Outcome.map_eq_ok.mp outcome
    obtain rfl : reached = changed := by simpa using same
    simp [OrdersStore.write, Tx.evolve, database_of_working opened, written,
      OrdersStore.working, Connection.write, opened]
  fails store database error _ opened outcome := by
    match written : change database with
    | .ok reached => simp [written, Except.map] at outcome
    | .error thrown =>
        have raises : OrdersStore.write change store =
            (.error thrown, store) := by
          simp [OrdersStore.write, Tx.evolve, database_of_working opened,
            written]
        rw [raises]
        exact
          { raised := ⟨thrown, rfl⟩
            history := rfl
            depth := rfl
            write := rfl }

theorem acts_bind {body : StoreTx α} {next : α → StoreTx β}
    {first : OrdersDatabase → Except StoreError (α × OrdersDatabase)}
    (second : α → OrdersDatabase → Except StoreError (β × OrdersDatabase))
    (bodyActs : ActsAs body first)
    (nextActs : ∀ value, ActsAs (next value) (second value)) :
    ActsAs (body >>= next) fun database => do
      let reached ← first database
      second reached.1 reached.2 where
  returns store database result changed writing opened outcome := by
    obtain ⟨⟨value, middle⟩, started, finished⟩ := Outcome.bind_eq_ok.mp outcome
    rw [Tx.bind_apply,
      bodyActs.returns store database value middle writing opened started]
    exact (nextActs value).returns (store.working middle) middle result changed
      writing.working rfl finished
  fails store database error writing opened outcome := by
    rcases Outcome.bind_eq_error.mp outcome with
      failed | ⟨⟨value, middle⟩, started, failed⟩
    · have abandons := bodyActs.fails store database error writing opened failed
      obtain ⟨thrown, raised⟩ := abandons.apply
      rw [Tx.bind_apply, raised]
      exact
        { raised := ⟨thrown, rfl⟩
          history := abandons.history
          depth := abandons.depth
          write := abandons.write }
    · rw [Tx.bind_apply,
        bodyActs.returns store database value middle writing opened started]
      have abandons := (nextActs value).fails (store.working middle) middle
        error writing.working rfl failed
      exact
        { raised := abandons.raised
          history := abandons.history
          depth := abandons.depth
          write := abandons.write }

theorem transaction_of_raise {body : StoreTx α} {writing : Bool}
    {entered reached : OrdersStore} {error : StoreError}
    (enters : OrdersStore.enterTransaction writing store = (.ok (), entered))
    (raised : body entered = (.error error, reached)) :
    OrdersStore.transaction writing body store =
      (.error (OrdersStore.leavingError reached.transactionDepth error),
        { connection :=
            if reached.transactionDepth = 1 then reached.connection.rollback
            else reached.connection
          transactionDepth := reached.transactionDepth - 1
          transactionWrite := reached.transactionWrite }) := by
  simp only [OrdersStore.transaction, Tx.bind_apply, enters, Tx.handle, raised,
    OrdersStore.abandonTransaction, Tx.view_apply, Tx.when]
  by_cases outermost : reached.transactionDepth = 1
  · simp [outermost, OrdersStore.rollback]
  · simp [outermost]

/-- A transaction acts as its body does on the tables. -/
theorem acts_transaction {body : StoreTx α}
    {step : OrdersDatabase → Except StoreError (α × OrdersDatabase)}
    (acts : ActsAs body step) :
    ActsAs (OrdersStore.transaction true body) step := by
  have enters : ∀ store : OrdersStore, store.Writing →
      OrdersStore.enterTransaction true store =
        (.ok (),
          { store with transactionDepth := store.transactionDepth + 1 }) := by
    intro store writing
    simp [OrdersStore.enterTransaction, Tx.bind_apply, writing.depth,
      Tx.require, writing.write]
  have entered : ∀ store : OrdersStore, store.Writing →
      { store with
        transactionDepth := store.transactionDepth + 1 : OrdersStore }.Writing :=
    fun store writing => { depth := by simp, write := writing.write }
  constructor
  · intro store database value changed writing opened outcome
    have inner := acts.returns _ database value changed (entered store writing)
      opened outcome
    simp [OrdersStore.transaction, Tx.bind_apply, enters store writing,
      Tx.handle, inner, OrdersStore.leaveTransaction, Tx.when,
      OrdersStore.working, writing.depth]
  · intro store database error writing opened outcome
    have inner := acts.fails _ database error (entered store writing) opened
      outcome
    obtain ⟨thrown, raised⟩ := inner.apply
    rw [transaction_of_raise (enters store writing) raised]
    have depth := inner.depth
    refine
      { raised := ⟨_, rfl⟩
        history := ?_
        depth := ?_
        write := inner.write }
    · simp [depth, writing.depth, inner.history]
    · simp [depth]

def settled (database : OrdersDatabase)
    (outcome : Except StoreError (α × OrdersDatabase)) : OrdersDatabase :=
  match outcome with
  | .ok (_, changed) => changed
  | .error _ => database

/-- No transaction is open and the database is the given one. -/
structure OrdersStore.Holds (store : OrdersStore) (database : OrdersDatabase) :
    Prop where
  idle : store.Idle
  database : store.database = database

theorem OrdersStore.Idle.database_eq (idle : store.Idle) :
    store.database = store.connection.committed := by
  simp [OrdersStore.database, Connection.current, idle.closed]

theorem idle_fresh (database : OrdersDatabase) :
    (OrdersStore.fresh database).Idle :=
  { depth := rfl
    closed := rfl }

theorem enterTransaction_idle (idle : store.Idle) (mode : Bool)
    (versions : store.database.schemaVersions = [1]) :
    OrdersStore.enterTransaction mode store =
      (.ok (),
        { connection :=
            { store.connection with
              working := some store.connection.committed }
          transactionDepth := 1
          transactionWrite := mode }) := by
  rw [idle.database_eq] at versions
  simp [OrdersStore.enterTransaction, Tx.bind_apply, idle.depth, Tx.handle,
    OrdersStore.begin, Tx.evolve, Connection.begin, idle.closed,
    OrdersStore.fetch, OrdersStore.database, Connection.current, versions]

theorem enterTransaction_supported (idle : store.Idle)
    (supported : store.database.schemaVersions = [1]) :
    ∃ entered, OrdersStore.enterTransaction true store = (.ok (), entered) ∧
      entered.Writing ∧ entered.transactionDepth = 1 ∧
      entered.connection.working = some store.database ∧
      entered.connection.history = store.connection.history := by
  refine ⟨_, enterTransaction_idle idle true supported, ⟨by simp, rfl⟩, rfl, ?_,
    rfl⟩
  rw [idle.database_eq]

section

variable {body : StoreTx α}
variable {step : OrdersDatabase → Except StoreError (α × OrdersDatabase)}
variable (acts : ActsAs body step) (idle : store.Idle)
variable (supported : store.database.schemaVersions = [1])

include body step acts idle supported

theorem transaction_returns {value : α} {changed : OrdersDatabase}
    (result : step store.database = .ok (value, changed)) :
    ∃ reached, OrdersStore.transaction true body store = (.ok value, reached) ∧
      reached.Holds changed := by
  obtain ⟨entered, enters, writing, depth, opened, _⟩ :=
    enterTransaction_supported idle supported
  have inner := acts.returns entered _ value changed writing opened result
  refine ⟨
    { connection := (entered.working changed).connection.commit
      transactionDepth := 0
      transactionWrite := entered.transactionWrite }, ?_, ⟨⟨rfl, rfl⟩, rfl⟩⟩
  simp [OrdersStore.transaction, Tx.bind_apply, enters, Tx.handle, inner,
    OrdersStore.leaveTransaction, Tx.when, OrdersStore.working, depth,
    OrdersStore.commit]

theorem transaction_raises {error : StoreError}
    (result : step store.database = .error error) :
    ∃ thrown reached,
      OrdersStore.transaction true body store = (.error thrown, reached) ∧
        reached.Holds store.database := by
  obtain ⟨entered, enters, writing, depth, opened, history⟩ :=
    enterTransaction_supported idle supported
  have inner := acts.fails entered _ error writing opened result
  obtain ⟨thrown, raised⟩ := inner.apply
  have left : (body entered).2.transactionDepth = 1 := inner.depth.trans depth
  have committed : (body entered).2.connection.committed =
      store.connection.committed :=
    (List.cons.inj (inner.history.trans history)).1
  refine ⟨_, _, transaction_of_raise enters raised, ⟨⟨?_, ?_⟩, ?_⟩⟩
  · simp [left]
  · simp [left, Connection.rollback]
  · rw [idle.database_eq]
    simp [left, OrdersStore.database, committed]

end

theorem transaction_unsupported {body : StoreTx α} (idle : store.Idle)
    (unsupported : store.database.schemaVersions ≠ [1]) :
    ∃ thrown reached,
      OrdersStore.transaction true body store = (.error thrown, reached) ∧
        reached.Holds store.database := by
  have current := idle.database_eq
  rw [current] at unsupported ⊢
  refine ⟨.write "Unsupported accounting schema",
    { store with
      connection := { store.connection with working := none } }, ?_,
    ⟨⟨idle.depth, rfl⟩, rfl⟩⟩
  simp [OrdersStore.transaction, OrdersStore.enterTransaction,
    Tx.bind_apply, idle.depth, Tx.handle, OrdersStore.begin, Tx.evolve,
    Connection.begin, idle.closed, OrdersStore.fetch, OrdersStore.database,
    Connection.current, unsupported, OrdersStore.rollback,
    Connection.rollback]

def supported (step : OrdersDatabase → Except StoreError (α × OrdersDatabase))
    (database : OrdersDatabase) : Except StoreError (α × OrdersDatabase) :=
  if database.schemaVersions = [1] then step database
  else .error (.write "Unsupported accounting schema")

section

variable {body : StoreTx α}
variable {step : OrdersDatabase → Except StoreError (α × OrdersDatabase)}
variable (acts : ActsAs body step) (idle : store.Idle)

include body step acts idle

theorem transaction_ok {value : α} {changed : OrdersDatabase}
    (result : supported step store.database = .ok (value, changed)) :
    ∃ reached, OrdersStore.transaction true body store = (.ok value, reached) ∧
      reached.Holds changed := by
  obtain ⟨versions, result⟩ := Outcome.branch_eq_ok.mp result
  exact transaction_returns acts idle versions result

theorem transaction_error {error : StoreError}
    (result : supported step store.database = .error error) :
    ∃ thrown reached,
      OrdersStore.transaction true body store = (.error thrown, reached) ∧
        reached.Holds store.database := by
  by_cases versions : store.database.schemaVersions = [1]
  · unfold supported at result
    rw [if_pos versions] at result
    exact transaction_raises acts idle versions result
  · exact transaction_unsupported idle versions

theorem transaction_database :
    (OrdersStore.transaction true body store).2.database =
      if store.database.schemaVersions = [1] then
        settled store.database (step store.database)
      else store.database := by
  by_cases supported : store.database.schemaVersions = [1]
  · rw [if_pos supported]
    match result : step store.database with
    | .ok (value, changed) =>
        obtain ⟨reached, returned, holds⟩ :=
          transaction_returns acts idle supported result
        rw [returned]
        exact holds.database
    | .error error =>
        obtain ⟨thrown, reached, raised, holds⟩ :=
          transaction_raises acts idle supported result
        rw [raised]
        exact holds.database
  · rw [if_neg supported]
    have refused : ∃ thrown reached,
        OrdersStore.transaction true body store = (.error thrown, reached) ∧
          reached.Holds store.database :=
      transaction_unsupported idle supported
    obtain ⟨thrown, reached, raised, holds⟩ := refused
    rw [raised]
    exact holds.database

end

end Rules

end GptTrader
