import GptTrader.Persistence.StoreRefinement

/-!
# The writers as functions on the database

What `upsert_by_client_id` and `record_observation` make of the database, inside
of an open writing transaction and in a transaction of their own.
-/

namespace GptTrader

variable {context : OrdersContext} {store : OrdersStore}
variable {database changed : OrdersDatabase} {order : OrderRecord}

def upsertResult (context : OrdersContext) (order : OrderRecord)
    (database : OrdersDatabase) : Except StoreError OrdersDatabase := do
  let existing ←
    database.getOrderByClientOrderId context order.clientOrderId
  let updated ← OrdersStore.updatedOrder context existing order
  let checksum ← updated.computeChecksum context
  database.upsert (updated.stored checksum)

theorem upsertStatements_ok
    (opened : store.connection.working = some database)
    (result : upsertResult context order database = .ok changed) :
    OrdersStore.upsertStatements context order store =
      (.ok (), store.working changed) := by
  simp only [upsertResult, Outcome.bind_eq_ok] at result
  obtain ⟨existing, found, updated, accepted, checksum, computed, written⟩ :=
    result
  simp [OrdersStore.upsertStatements, OrdersStore.select, OrdersStore.lift,
    OrdersStore.write, Tx.evolve, Tx.bind_apply, database_of_working opened,
    found, accepted, computed, written, OrdersStore.working, Connection.write,
    opened]

theorem upsertStatements_error {error : StoreError}
    (opened : store.connection.working = some database)
    (result : upsertResult context order database = .error error) :
    OrdersStore.upsertStatements context order store =
      (.error error, store) := by
  have current := database_of_working opened
  simp only [upsertResult, Outcome.bind_eq_error] at result
  rcases result with unread | ⟨existing, found, refused |
    ⟨updated, accepted, unsupported | ⟨checksum, computed, unwritten⟩⟩⟩
  · simp [OrdersStore.upsertStatements, OrdersStore.select, Tx.bind_apply,
      current, unread]
  · simp [OrdersStore.upsertStatements, OrdersStore.select, OrdersStore.lift,
      Tx.bind_apply, current, found, refused]
  · simp [OrdersStore.upsertStatements, OrdersStore.select, OrdersStore.lift,
      Tx.bind_apply, current, found, accepted, unsupported]
  · simp [OrdersStore.upsertStatements, OrdersStore.select, OrdersStore.lift,
      OrdersStore.write, Tx.evolve, Tx.bind_apply, current, found, accepted,
      computed, unwritten]

theorem upsertFailed_raises (order : OrderRecord) (store : OrdersStore)
    (error : StoreError) :
    ∃ thrown, OrdersStore.upsertFailed order true error store =
      (.error thrown,
        { store with connection := store.connection.rollback }) := by
  simp only [OrdersStore.upsertFailed, OrdersStore.rollback, Tx.bind_apply,
    Tx.modify_apply, if_true]
  split <;> exact ⟨_, rfl⟩

theorem acts_upsertByClientId (context : OrdersContext) (order : OrderRecord) :
    ActsAs (OrdersStore.upsertByClientId context order true) fun database =>
      (upsertResult context order database).map fun changed =>
        (.ok, changed) where
  returns store database value changed writing opened outcome := by
    obtain ⟨reached, result, same⟩ := Outcome.map_eq_ok.mp outcome
    obtain ⟨rfl, rfl⟩ : WriteResult.ok = value ∧ reached = changed := by
      simpa using same
    simp [OrdersStore.upsertByClientId, Tx.handle, OrdersStore.upsertOwned,
      Tx.bind_apply, writing.depth, writing.write, Tx.require,
      upsertStatements_ok opened result]
  fails store database error writing opened outcome := by
    cases result : upsertResult context order database with
    | ok reached => simp [result, Except.map] at outcome
    | error thrown =>
        have raises : OrdersStore.upsertByClientId context order true store =
            OrdersStore.upsertFailed order true thrown store := by
          simp [OrdersStore.upsertByClientId, Tx.handle,
            OrdersStore.upsertOwned, Tx.bind_apply, writing.depth,
            writing.write, Tx.require, upsertStatements_error opened result]
        obtain ⟨final, failed⟩ := upsertFailed_raises order store thrown
        rw [raises, failed]
        exact
          { raised := ⟨final, rfl⟩
            history := rfl
            depth := rfl
            write := rfl }

theorem begin_idle (idle : store.Idle) :
    OrdersStore.begin store = (.ok (), store.working store.database) := by
  simp [OrdersStore.begin, Tx.evolve, Connection.begin, idle.closed,
    OrdersStore.working, OrdersStore.database, Connection.current]

theorem upsertByClientId_fails {raiseOnError : Bool} {error : StoreError}
    (idle : store.Idle)
    (result : upsertResult context order store.database = .error error) :
    OrdersStore.upsertByClientId context order raiseOnError store =
      OrdersStore.upsertFailed order raiseOnError error
        (store.working store.database) := by
  have opened : (store.working store.database).connection.working =
      some store.database := rfl
  simp [OrdersStore.upsertByClientId, Tx.handle, OrdersStore.upsertOwned,
    Tx.bind_apply, idle.depth, begin_idle idle,
    upsertStatements_error opened result]

theorem upsertByClientId_commits {raiseOnError : Bool} (idle : store.Idle)
    (result : upsertResult context order store.database = .ok changed) :
    OrdersStore.upsertByClientId context order raiseOnError store =
      (OrdersStore.commit >>= fun _ => pure .ok)
        ((store.working store.database).working changed) := by
  have opened : (store.working store.database).connection.working =
      some store.database := rfl
  simp [OrdersStore.upsertByClientId, Tx.handle, OrdersStore.upsertOwned,
    Tx.bind_apply, idle.depth, begin_idle idle,
    upsertStatements_ok opened result, OrdersStore.commit]

theorem upsertByClientId_database {raiseOnError : Bool} (idle : store.Idle) :
    (OrdersStore.upsertByClientId context order raiseOnError store).2.database =
      match upsertResult context order store.database with
      | .ok changed => changed
      | .error _ => store.database := by
  match result : upsertResult context order store.database with
  | .ok changed =>
      rw [upsertByClientId_commits idle result]
      rfl
  | .error error =>
      have left := idle.database_eq
      rw [upsertByClientId_fails idle result]
      simp only [OrdersStore.upsertFailed, Tx.bind_apply, OrdersStore.rollback,
        Tx.modify_apply]
      split
      · split <;> exact left.symm
      · exact left.symm

theorem upsertByClientId_settles {raiseOnError : Bool} (idle : store.Idle)
    (result : upsertResult context order store.database = .ok changed) :
    (OrdersStore.upsertByClientId context order raiseOnError store).2.database =
      changed := by
  rw [upsertByClientId_database idle, result]

theorem upsertByClientId_unchanged {raiseOnError : Bool} {error : StoreError}
    (idle : store.Idle)
    (result : upsertResult context order store.database = .error error) :
    (OrdersStore.upsertByClientId context order raiseOnError store).2.database =
      store.database := by
  rw [upsertByClientId_database idle, result]

theorem upsertByClientId_raises {error : StoreError} (idle : store.Idle)
    (result : upsertResult context order store.database = .error error) :
    ∃ thrown,
      (OrdersStore.upsertByClientId context order true store).1 =
        .error thrown := by
  obtain ⟨thrown, failed⟩ :=
    upsertFailed_raises order (store.working store.database) error
  rw [upsertByClientId_fails idle result, failed]
  exact ⟨thrown, rfl⟩

def observed (context : OrdersContext) (database : OrdersDatabase) :
    Option FillObservation → Except StoreError OrdersDatabase
  | none => .ok database
  | some observation => do
      let changed := database.insertObservation
        (context.observationDigest observation) observation
      changed.observationsValid
      .ok changed

def observeResult (context : OrdersContext) (record : OrderRecord)
    (source : String) (database : OrdersDatabase) :
    Except StoreError OrdersDatabase := do
  let observation ← OrdersStore.observationOf context record source
  observed context database observation

theorem ActsAs.congr {α : Type} {body : StoreTx α}
    {first second : OrdersDatabase → Except StoreError (α × OrdersDatabase)}
    (acts : ActsAs body first)
    (same : ∀ database, first database = second database) :
    ActsAs body second := by
  rwa [← funext same]

theorem acts_recordObservation (context : OrdersContext)
    (record : OrderRecord) (source : String) :
    ActsAs (OrdersStore.recordObservation context record source)
      fun database => (observeResult context record source database).map
        fun changed => ((), changed) := by
  unfold OrdersStore.recordObservation
  refine ActsAs.congr (acts_bind
    (fun observation database =>
      (observed context database observation).map fun changed => ((), changed))
    (acts_lift _) fun observation => ?_) fun database => ?_
  · cases observation with
    | none => exact acts_pure ()
    | some observation =>
        refine acts_transaction (ActsAs.congr
          (acts_bind _ (acts_write _) fun _ => acts_select _) fun database => ?_)
        match checked : (database.insertObservation
            (context.observationDigest observation)
            observation).observationsValid with
        | .ok value =>
            simp [observed, Except.map, checked, bind, Except.bind]
        | .error error =>
            simp [observed, Except.map, checked, bind, Except.bind]
  · unfold observeResult
    match OrdersStore.observationOf context record source with
    | .ok observation => rfl
    | .error error => rfl

end GptTrader
