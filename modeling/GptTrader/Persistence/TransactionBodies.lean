import GptTrader.Persistence.StoreAttempts
import GptTrader.Persistence.OrderRuns

/-!
# All or nothing

A body run inside of `OrdersStore.transaction` calls the writers, catches what
it likes of their errors, and nests further transactions.  A failing upsert
rolls the shared connection back while the transaction around it goes on, and
a fill or an observation may fail after it was stored.  Unless the body lets
such an error through, what is committed is not what succeeded.
-/

namespace GptTrader

inductive WriterResult where
  | upserted (result : WriteResult)
  | filled (recorded : Bool)
  | recorded
  deriving DecidableEq

/-- The writing calls of a transaction. -/
inductive WriterCall where
  | upsertByClientId (order : OrderRecord) (raiseOnError : Bool)
  | recordFill (fact : FillFact) (now : DateTime)
  | recordObservation (order : OrderRecord) (source : String)
  | recordBaseline (baseline : PositionBaseline) (now : DateTime)

namespace Attempt

variable {α β : Type}

/-- The attempt stopped between two statements. -/
def isBroken : Attempt α → Bool
  | .broken _ => true
  | _ => false

def map (change : α → β) : Attempt α → Attempt β
  | .done value changed => .done (change value) changed
  | .refused error => .refused error
  | .broken error => .broken error

end Attempt

def succeeded : Except StoreError WriterResult → Bool
  | .ok (.upserted (.fail _)) => false
  | .ok _ => true
  | .error _ => false

namespace WriterCall

variable (context : OrdersContext)

/-- One call as the store runs it. -/
def perform : WriterCall → StoreTx WriterResult
  | .upsertByClientId order raiseOnError => do
      let result ← OrdersStore.upsertByClientId context order raiseOnError
      pure (.upserted result)
  | .recordFill fact now => do
      let recorded ← OrdersStore.recordFill context fact now
      pure (.filled recorded)
  | .recordObservation order source => do
      OrdersStore.recordObservation context order source
      pure .recorded
  | .recordBaseline baseline now => do
      OrdersStore.recordBaseline context baseline now
      pure .recorded

def upsertAttempt (order : OrderRecord) (database : OrdersDatabase) :
    Attempt WriterResult :=
  match upsertResult context order database with
  | .ok changed => .done (.upserted .ok) changed
  | .error error => .broken error

/-- One call as an attempt on the tables. -/
def attempt : WriterCall → OrdersDatabase → Attempt WriterResult
  | .upsertByClientId order _, database => upsertAttempt context order database
  | .recordFill fact now, database =>
      (Attempt.afterRead
        (OrdersDatabase.requireObservedTime now fact.executedAt)
        fun _ => fillAttempt context fact now database).map .filled
  | .recordObservation order source, database =>
      (Attempt.afterRead (OrdersStore.observationOf context order source)
        fun observation => observationAttempt context observation database).map
          fun _ => .recorded
  | .recordBaseline baseline now, database =>
      (Attempt.afterRead
        (OrdersDatabase.requireObservedTime now baseline.effectiveAt)
        fun _ => baselineAttempt context baseline now database).map
          fun _ => .recorded

/-- The tables after a call. -/
def effect (call : WriterCall) (database : OrdersDatabase) : OrdersDatabase :=
  (call.perform context (.fresh database)).2.database

def effects (calls : List WriterCall) (database : OrdersDatabase) :
    OrdersDatabase :=
  calls.foldl (fun reached call => call.effect context reached) database

end WriterCall

/-- The body of a transaction. -/
inductive TransactionBody where
  | done
  | raise (error : StoreError)
  | call (writer : WriterCall)
      (next : Except StoreError WriterResult → TransactionBody)
  | nested (writing : Bool) (inner : TransactionBody)
      (next : Except StoreError Unit → TransactionBody)

/-- A call of a body, with the database it found. -/
structure CallEvent where
  call : WriterCall
  found : OrdersDatabase
  outcome : Except StoreError WriterResult

namespace TransactionBody

variable (context : OrdersContext)

/-- The body as the store runs it. -/
def run : TransactionBody → StoreTx Unit
  | .done => pure ()
  | .raise error => Tx.raise error
  | .call writer next => fun store =>
      let outcome := writer.perform context store
      (next outcome.1).run outcome.2
  | .nested writing inner next => fun store =>
      let outcome := OrdersStore.transaction writing inner.run store
      (next outcome.1).run outcome.2

/-- The calls of a body with their replies. -/
def events : TransactionBody → OrdersStore → List CallEvent
  | .done, _ => []
  | .raise _, _ => []
  | .call writer next, store =>
      let outcome := writer.perform context store
      { call := writer
        found := store.database
        outcome := outcome.1 } :: (next outcome.1).events outcome.2
  | .nested writing inner next, store =>
      let outcome := OrdersStore.transaction writing (inner.run context) store
      (match OrdersStore.enterTransaction writing store with
        | (.ok _, entered) => inner.events entered
        | (.error _, _) => []) ++ (next outcome.1).events outcome.2

end TransactionBody

def successes (events : List CallEvent) : List WriterCall :=
  (events.filter fun event => succeeded event.outcome).map CallEvent.call

def CallEvent.Broken (context : OrdersContext) (event : CallEvent) : Prop :=
  (event.call.attempt context event.found).isBroken = true

instance (context : OrdersContext) (event : CallEvent) :
    Decidable (event.Broken context) :=
  inferInstanceAs (Decidable (_ = _))

section Transactions

variable (context : OrdersContext) (writing : Bool) (body : TransactionBody)
  (store : OrdersStore)

/-- `with store.transaction(write=…):` around the body. -/
def runTransaction : Except StoreError Unit × OrdersStore :=
  OrdersStore.transaction writing (body.run context) store

def bodyEvents : List CallEvent :=
  match OrdersStore.enterTransaction writing store with
  | (.ok _, entered) => body.events context entered
  | (.error _, _) => []

/-- A transaction commits the effects of the calls that reported success when
its body returns and nothing when it raises, in one step, and ends. -/
structure AllOrNothing : Prop where
  returns : (runTransaction context writing body store).1 = .ok () →
    (runTransaction context writing body store).2.database =
      WriterCall.effects context
        (successes (bodyEvents context writing body store)) store.database
  raises : ∀ error,
    (runTransaction context writing body store).1 = .error error →
      (runTransaction context writing body store).2.database = store.database
  once : (runTransaction context writing body store).2.connection.history =
      store.connection.history ∨
    (runTransaction context writing body store).2.connection.history =
      (runTransaction context writing body store).2.database ::
        store.connection.history
  ends : (runTransaction context writing body store).2.Idle

/-- Nothing follows a broken call. -/
def BreaksUncaught : Prop :=
  ∀ earlier event later,
    bodyEvents context writing body store = earlier ++ event :: later →
      event.Broken context →
        later = [] ∧
          ∃ error, (runTransaction context writing body store).1 = .error error

end Transactions

/-! ## One call -/

/-- What a transaction in progress has committed, and how deep it is. -/
structure KeepsCommitted (before after : OrdersStore) : Prop where
  history : after.connection.history = before.connection.history
  depth : after.transactionDepth = before.transactionDepth
  write : after.transactionWrite = before.transactionWrite

theorem KeepsCommitted.refl (store : OrdersStore) : KeepsCommitted store store :=
  { history := rfl
    depth := rfl
    write := rfl }

theorem KeepsCommitted.trans {first second third : OrdersStore}
    (before : KeepsCommitted first second) (after : KeepsCommitted second third) :
    KeepsCommitted first third :=
  { history := after.history.trans before.history
    depth := after.depth.trans before.depth
    write := after.write.trans before.write }

theorem KeepsCommitted.working {store : OrdersStore}
    {database : OrdersDatabase} : KeepsCommitted store (store.working database) :=
  { history := rfl
    depth := rfl
    write := rfl }

section Calls

variable {context : OrdersContext} {store : OrdersStore}
variable {database changed : OrdersDatabase} {call : WriterCall}

theorem Attempts.map {α β : Type} {body : StoreTx α}
    {attempt : OrdersDatabase → Attempt α} (attempts : Attempts body attempt)
    (change : α → β) :
    Attempts
      (do
        let value ← body
        pure (change value))
      fun database => (attempt database).map change := by
  constructor
  · intro store database value changed writing opened tried
    match outcome : attempt database with
    | .done result reached =>
        rw [outcome] at tried
        cases tried
        rw [Tx.bind_apply, attempts.done store database result changed writing
          opened outcome]
        rfl
    | .refused error => simp [outcome, Attempt.map] at tried
    | .broken error => simp [outcome, Attempt.map] at tried
  · intro store database error writing opened tried
    match outcome : attempt database with
    | .done result reached => simp [outcome, Attempt.map] at tried
    | .refused thrown =>
        rw [outcome] at tried
        cases tried
        rw [Tx.bind_apply, attempts.refused store database error writing opened
          outcome]
    | .broken thrown => simp [outcome, Attempt.map] at tried
  · intro store database error writing opened tried
    match outcome : attempt database with
    | .done result reached => simp [outcome, Attempt.map] at tried
    | .refused thrown => simp [outcome, Attempt.map] at tried
    | .broken thrown =>
        have abandons := attempts.broken store database thrown writing opened
          outcome
        obtain ⟨raised, failed⟩ := abandons.apply
        rw [Tx.bind_apply, failed]
        exact
          { raised := ⟨raised, rfl⟩
            history := abandons.history
            depth := abandons.depth
            write := abandons.write }

theorem WriterCall.upserts_or_attempts (context : OrdersContext)
    (call : WriterCall) :
    (∃ order raiseOnError, call = .upsertByClientId order raiseOnError) ∨
      Attempts (call.perform context) (call.attempt context) := by
  cases call with
  | upsertByClientId order raiseOnError => exact .inl ⟨order, raiseOnError, rfl⟩
  | recordFill fact now =>
      exact .inr ((attempts_recordFill fact now).map WriterResult.filled)
  | recordObservation order source =>
      exact .inr ((attempts_recordObservation order source).map
        fun _ => WriterResult.recorded)
  | recordBaseline baseline now =>
      exact .inr ((attempts_recordBaseline baseline now).map
        fun _ => WriterResult.recorded)

theorem upsertByClientId_ok {order : OrderRecord} {raiseOnError : Bool}
    (writing : store.Writing)
    (opened : store.connection.working = some database)
    (result : upsertResult context order database = .ok changed) :
    OrdersStore.upsertByClientId context order raiseOnError store =
      (.ok .ok, store.working changed) := by
  simp [OrdersStore.upsertByClientId, Tx.handle, OrdersStore.upsertOwned,
    Tx.bind_apply, writing.depth, writing.write, Tx.require,
    upsertStatements_ok opened result]

theorem upsertByClientId_error {order : OrderRecord} {raiseOnError : Bool}
    {error : StoreError} (writing : store.Writing)
    (opened : store.connection.working = some database)
    (result : upsertResult context order database = .error error) :
    OrdersStore.upsertByClientId context order raiseOnError store =
      OrdersStore.upsertFailed order raiseOnError error store := by
  simp [OrdersStore.upsertByClientId, Tx.handle, OrdersStore.upsertOwned,
    Tx.bind_apply, writing.depth, writing.write, Tx.require,
    upsertStatements_error opened result]

theorem upsertFailed_outcome (order : OrderRecord) (raiseOnError : Bool)
    (error : StoreError) (store : OrdersStore) :
    (OrdersStore.upsertFailed order raiseOnError error store).2 =
        { store with connection := store.connection.rollback } ∧
      ∀ result, (OrdersStore.upsertFailed order raiseOnError error store).1 =
        .ok result → ∃ reason, result = .fail reason := by
  simp only [OrdersStore.upsertFailed, OrdersStore.rollback, Tx.bind_apply,
    Tx.modify_apply]
  split
  · split
    · exact ⟨rfl, fun result returned => by cases returned⟩
    · refine ⟨rfl, fun result returned => ?_⟩
      cases returned
      exact ⟨error, rfl⟩
  · exact ⟨rfl, fun result returned => by cases returned⟩

theorem WriterCall.perform_done {value : WriterResult}
    (writing : store.Writing)
    (opened : store.connection.working = some database)
    (tried : call.attempt context database = .done value changed) :
    call.perform context store = (.ok value, store.working changed) := by
  rcases call.upserts_or_attempts context with ⟨order, raiseOnError, rfl⟩ | attempts
  · change upsertAttempt context order database = _ at tried
    unfold upsertAttempt at tried
    split at tried
    · next reached result =>
        cases tried
        simp [perform, Tx.bind_apply, upsertByClientId_ok writing opened result]
    · cases tried
  · exact attempts.done store database value changed writing opened tried

theorem WriterCall.perform_refused {error : StoreError}
    (writing : store.Writing)
    (opened : store.connection.working = some database)
    (tried : call.attempt context database = .refused error) :
    call.perform context store = (.error error, store) := by
  rcases call.upserts_or_attempts context with ⟨order, raiseOnError, rfl⟩ | attempts
  · change upsertAttempt context order database = _ at tried
    unfold upsertAttempt at tried
    split at tried <;> cases tried
  · exact attempts.refused store database error writing opened tried

theorem Abandons.keepsCommitted {α : Type}
    {outcome : Except StoreError α × OrdersStore}
    (abandons : Abandons outcome store) : KeepsCommitted store outcome.2 :=
  { history := abandons.history
    depth := abandons.depth
    write := abandons.write }

theorem WriterCall.perform_broken {error : StoreError}
    (writing : store.Writing)
    (opened : store.connection.working = some database)
    (tried : call.attempt context database = .broken error) :
    KeepsCommitted store (call.perform context store).2 := by
  rcases call.upserts_or_attempts context with ⟨order, raiseOnError, rfl⟩ | attempts
  · change upsertAttempt context order database = _ at tried
    unfold upsertAttempt at tried
    split at tried
    · cases tried
    · next thrown result =>
        simp only [perform, Tx.map_apply,
          upsertByClientId_error writing opened result,
          (upsertFailed_outcome order raiseOnError thrown store).1]
        exact
          { history := rfl
            depth := rfl
            write := rfl }
  · exact (attempts.broken store database error writing opened
      tried).keepsCommitted

theorem Attempt.map_eq_done {α β : Type} {attempt : Attempt α} {change : α → β}
    {value : β} :
    attempt.map change = .done value changed ↔
      ∃ result, attempt = .done result changed ∧ change result = value := by
  cases attempt <;> simp [Attempt.map, and_comm]

theorem WriterCall.succeeded_done {value : WriterResult}
    (tried : call.attempt context database = .done value changed) :
    succeeded (.ok value) = true := by
  cases call with
  | upsertByClientId order raiseOnError =>
      change upsertAttempt context order database = _ at tried
      unfold upsertAttempt at tried
      split at tried
      · cases tried
        rfl
      · cases tried
  | recordFill fact now =>
      obtain ⟨_, _, rfl⟩ := Attempt.map_eq_done.mp tried
      rfl
  | recordObservation order source =>
      obtain ⟨_, _, rfl⟩ := Attempt.map_eq_done.mp tried
      rfl
  | recordBaseline baseline now =>
      obtain ⟨_, _, rfl⟩ := Attempt.map_eq_done.mp tried
      rfl

end Calls

/-! ## A call by itself -/

section Effects

variable {context : OrdersContext} {database changed : OrdersDatabase}

theorem fresh_transaction_database {β : Type} {body : StoreTx β}
    {attempt : OrdersDatabase → Attempt β} (attempts : Attempts body attempt)
    (versions : database.schemaVersions = [1]) :
    (OrdersStore.transaction true body (.fresh database)).2.database =
      (attempt database).settled database := by
  have committed := transaction_database attempts.acts (idle_fresh database)
  have found : (OrdersStore.fresh database).database = database := rfl
  rw [found, if_pos versions, Attempt.settled_outcome] at committed
  exact committed

theorem lift_transaction_database {α β : Type} {outcome : Except StoreError α}
    {body : StoreTx β} {attempt : OrdersDatabase → Attempt β}
    (attempts : Attempts body attempt)
    (versions : database.schemaVersions = [1]) :
    ((OrdersStore.lift outcome >>= fun _ => OrdersStore.transaction true body)
        (.fresh database)).2.database =
      (Attempt.afterRead outcome fun _ => attempt database).settled database := by
  rw [Tx.bind_apply]
  match outcome with
  | .error error => rfl
  | .ok value => exact fresh_transaction_database attempts versions

theorem Attempt.settled_map {α β : Type} (attempt : Attempt α)
    (change : α → β) :
    (attempt.map change).settled database = attempt.settled database := by
  cases attempt <;> rfl

theorem WriterCall.effect_eq (call : WriterCall)
    (versions : database.schemaVersions = [1]) :
    call.effect context database =
      (call.attempt context database).settled database := by
  unfold effect
  cases call with
  | upsertByClientId order raiseOnError =>
      simp only [perform, Tx.map_apply,
        upsertByClientId_database (idle_fresh database)]
      change (match upsertResult context order database with
        | .ok changed => changed
        | .error _ => database) =
          (upsertAttempt context order database).settled database
      unfold upsertAttempt
      cases upsertResult context order database <;> rfl
  | recordFill fact now =>
      simp only [perform, Tx.map_apply, attempt, Attempt.settled_map]
      exact lift_transaction_database (attempts_recordFillBody fact now) versions
  | recordObservation order source =>
      simp only [perform, Tx.map_apply, attempt, Attempt.settled_map]
      unfold OrdersStore.recordObservation
      rw [Tx.bind_apply]
      match OrdersStore.observationOf context order source with
      | .error error => rfl
      | .ok none => rfl
      | .ok (some observation) =>
          exact fresh_transaction_database
            (attempts_recordObservationBody observation) versions
  | recordBaseline baseline now =>
      simp only [perform, Tx.map_apply, attempt, Attempt.settled_map]
      exact lift_transaction_database
        (attempts_recordBaselineBody baseline now) versions

theorem insertObservation_schemaVersions (digest : String)
    (observation : FillObservation) (database : OrdersDatabase) :
    (database.insertObservation digest observation).schemaVersions =
      database.schemaVersions := by
  unfold OrdersDatabase.insertObservation
  split <;> rfl

theorem WriterCall.attempt_schemaVersions {call : WriterCall}
    {value : WriterResult}
    (done : call.attempt context database = .done value changed) :
    changed.schemaVersions = database.schemaVersions := by
  cases call with
  | upsertByClientId order raiseOnError =>
      change upsertAttempt context order database = _ at done
      unfold upsertAttempt at done
      split at done
      · next reached result =>
          cases done
          rw [upsertResult_frame result]
      · cases done
  | recordFill fact now =>
      obtain ⟨recorded, done, _⟩ := Attempt.map_eq_done.mp done
      obtain ⟨_, _, done⟩ := Attempt.afterRead_eq_done.mp done
      rcases fillAttempt_done done with ⟨_, rfl⟩ | ⟨_, orders, _, rfl⟩ <;> rfl
  | recordObservation order source =>
      obtain ⟨recorded, done, _⟩ := Attempt.map_eq_done.mp done
      obtain ⟨_, _, done⟩ := Attempt.afterRead_eq_done.mp done
      rcases observationAttempt_done done with ⟨_, rfl⟩ | ⟨stored, _, rfl⟩
      · rfl
      · exact insertObservation_schemaVersions _ _ _
  | recordBaseline baseline now =>
      obtain ⟨recorded, done, _⟩ := Attempt.map_eq_done.mp done
      obtain ⟨_, _, done⟩ := Attempt.afterRead_eq_done.mp done
      rcases baselineAttempt_done done with rfl | ⟨bindings, inserted⟩
      · rfl
      · unfold OrdersDatabase.insertBaseline at inserted
        split at inserted
        · cases inserted
        · cases inserted
          rfl

end Effects

/-! ## Bodies of a writing transaction -/

section Bodies

variable {context : OrdersContext} {store : OrdersStore}
variable {database : OrdersDatabase}

theorem enterTransaction_nested (nested : store.transactionDepth ≠ 0)
    (mode : Bool) :
    OrdersStore.enterTransaction mode store =
        (.ok (),
          { store with transactionDepth := store.transactionDepth + 1 }) ∨
      ∃ error, OrdersStore.enterTransaction mode store =
        (.error error, store) := by
  by_cases admitted : mode = true → store.transactionWrite = true
  · left
    simp only [OrdersStore.enterTransaction, Tx.bind_apply, Tx.view_apply,
      if_neg nested, Tx.require, if_pos admitted, Tx.modify_apply]
  · right
    refine ⟨.write "Cannot promote accounting read transaction", ?_⟩
    simp only [OrdersStore.enterTransaction, Tx.bind_apply, Tx.view_apply,
      if_neg nested, Tx.require, if_neg admitted]

theorem transaction_refused {mode : Bool} {error : StoreError}
    (refused : OrdersStore.enterTransaction mode store = (.error error, store))
    (body : StoreTx Unit) :
    OrdersStore.transaction mode body store = (.error error, store) := by
  simp [OrdersStore.transaction, Tx.bind_apply, refused]

theorem prod_eq_of_snd {α β : Type} {pair : α × β} {second : β}
    (same : pair.2 = second) : pair = (pair.1, second) :=
  Prod.ext rfl same

theorem TransactionBody.run_quiet (body : TransactionBody)
    (nested : store.transactionDepth ≠ 0)
    (quiet : body.events context store = []) :
    (body.run context store).2 = store := by
  induction body generalizing store with
  | done => rfl
  | raise error => rfl
  | call writer next induction => simp [events] at quiet
  | nested mode inner next innerInduction nextInduction =>
      simp only [events, List.append_eq_nil_iff] at quiet
      obtain ⟨innerQuiet, nextQuiet⟩ := quiet
      have unchanged :
          (OrdersStore.transaction mode (inner.run context) store).2 = store := by
        rcases enterTransaction_nested nested mode with entered | ⟨error, refused⟩
        · rw [entered] at innerQuiet
          have same := innerInduction (by simp) innerQuiet
          have left := transaction_nested nested entered
            (prod_eq_of_snd same) rfl
          exact congrArg Prod.snd left
        · exact congrArg Prod.snd (transaction_refused refused _)
      simp only [run]
      rw [unchanged] at nextQuiet ⊢
      exact nextInduction _ nested nextQuiet

theorem successes_append (earlier later : List CallEvent) :
    successes (earlier ++ later) = successes earlier ++ successes later := by
  simp [successes]

theorem successes_cons (event : CallEvent) (later : List CallEvent) :
    successes (event :: later) =
      (if succeeded event.outcome then [event.call] else []) ++
        successes later := by
  unfold successes
  cases success : succeeded event.outcome <;> simp [success]

theorem WriterCall.effects_step (call : WriterCall) (success : Bool)
    (later : List WriterCall) (database : OrdersDatabase) :
    effects context ((if success then [call] else []) ++ later) database =
      effects context later
        (if success then call.effect context database else database) := by
  cases success <;> rfl

theorem WriterCall.effects_append (earlier later : List WriterCall)
    (database : OrdersDatabase) :
    effects context (earlier ++ later) database =
      effects context later (effects context earlier database) := by
  simp [effects]

theorem WriterCall.perform_unbroken (call : WriterCall)
    (writing : store.Writing)
    (opened : store.connection.working = some database)
    (versions : database.schemaVersions = [1])
    (unbroken : ∀ error, call.attempt context database ≠ .broken error) :
    (call.perform context store).2 = store.working
        (if succeeded (call.perform context store).1 then
          call.effect context database
        else database) ∧
      (if succeeded (call.perform context store).1 then
        call.effect context database
      else database).schemaVersions = [1] := by
  match tried : call.attempt context database with
  | .done value changed =>
      have effect : call.effect context database = changed := by
        rw [call.effect_eq versions, tried]
        rfl
      rw [perform_done writing opened tried, if_pos (succeeded_done tried),
        effect]
      exact ⟨rfl, (attempt_schemaVersions tried).trans versions⟩
  | .refused error =>
      rw [perform_refused writing opened tried]
      exact ⟨(OrdersStore.working_self opened).symm, versions⟩
  | .broken error => exact absurd tried (unbroken error)

/-- An unbroken body has the effects of its successful calls. -/
theorem TransactionBody.run_unbroken (body : TransactionBody)
    (writing : store.Writing)
    (opened : store.connection.working = some database)
    (versions : database.schemaVersions = [1])
    (unbroken : ∀ event ∈ body.events context store, ¬event.Broken context) :
    (body.run context store).2 = store.working
        (WriterCall.effects context (successes (body.events context store))
          database) ∧
      (WriterCall.effects context (successes (body.events context store))
        database).schemaVersions = [1] := by
  induction body generalizing store database with
  | done => exact ⟨(OrdersStore.working_self opened).symm, versions⟩
  | raise error => exact ⟨(OrdersStore.working_self opened).symm, versions⟩
  | call writer next induction =>
      have current := database_of_working opened
      have first := unbroken
        { call := writer
          found := store.database
          outcome := (writer.perform context store).1 } (by simp [events])
      obtain ⟨reached, kept⟩ := writer.perform_unbroken writing opened versions
        fun error tried => first (by
          unfold CallEvent.Broken
          rw [current, tried]
          rfl)
      have rest := induction (writer.perform context store).1
        (writing.working) rfl kept
        (by
          rw [← reached]
          exact fun event member => unbroken event (by simp [events, member]))
      rw [← reached] at rest
      simp only [run, events, successes_cons, WriterCall.effects_step]
      refine ⟨rest.1.trans ?_, rest.2⟩
      rw [reached]
      rfl
  | nested mode inner next innerInduction nextInduction =>
      have entered := enterTransaction_writing writing mode
      simp only [events, entered, List.mem_append] at unbroken
      obtain ⟨reached, kept⟩ := innerInduction writing.entered opened versions
        fun event member => unbroken event (.inl member)
      have left := congrArg Prod.snd (transaction_nested writing.depth entered
        (prod_eq_of_snd reached) rfl)
      have ended : (OrdersStore.transaction mode (inner.run context) store).2 =
          store.working (WriterCall.effects context
            (successes (inner.events context
              { store with transactionDepth := store.transactionDepth + 1 }))
            database) := left
      have rest := nextInduction
        (OrdersStore.transaction mode (inner.run context) store).1
        writing.working rfl kept
        (by
          rw [← ended]
          exact fun event member => unbroken event (.inr member))
      rw [← ended] at rest
      simp only [run, events, entered, successes_append,
        WriterCall.effects_append]
      refine ⟨rest.1.trans ?_, rest.2⟩
      rw [ended]
      rfl

def BreaksLast (context : OrdersContext) (events : List CallEvent) : Prop :=
  ∀ earlier event later, events = earlier ++ event :: later →
    event.Broken context → later = []

theorem BreaksLast.tail {event : CallEvent} {later : List CallEvent}
    (last : BreaksLast context (event :: later)) : BreaksLast context later := by
  intro earlier broken rest same
  exact last (event :: earlier) broken rest (by rw [same]; rfl)

theorem BreaksLast.right {earlier later : List CallEvent}
    (last : BreaksLast context (earlier ++ later)) :
    BreaksLast context later := by
  intro before broken rest same
  exact last (earlier ++ before) broken rest (by rw [same, List.append_assoc])

theorem BreaksLast.left {earlier later : List CallEvent}
    (last : BreaksLast context (earlier ++ later)) :
    BreaksLast context earlier ∧
      (later = [] ∨ ∀ event ∈ earlier, ¬event.Broken context) := by
  constructor
  · intro before broken rest same breaks
    have none := last before broken (rest ++ later) (by rw [same]; simp) breaks
    exact (List.append_eq_nil_iff.mp none).1
  · by_cases breaks : ∃ event ∈ earlier, event.Broken context
    · left
      obtain ⟨event, member, broken⟩ := breaks
      obtain ⟨before, rest, rfl⟩ := List.append_of_mem member
      have none := last before event (rest ++ later) (by simp) broken
      exact (List.append_eq_nil_iff.mp none).2
    · right
      exact fun event member broken => breaks ⟨event, member, broken⟩

/-- As long as only the last call breaks, the body commits nothing by itself. -/
theorem TransactionBody.run_keepsCommitted (body : TransactionBody)
    (writing : store.Writing)
    (opened : store.connection.working = some database)
    (versions : database.schemaVersions = [1])
    (last : BreaksLast context (body.events context store)) :
    KeepsCommitted store (body.run context store).2 := by
  induction body generalizing store database with
  | done => exact .refl store
  | raise error => exact .refl store
  | call writer next induction =>
      have current := database_of_working opened
      by_cases broken : ∃ error, writer.attempt context database = .broken error
      · obtain ⟨error, tried⟩ := broken
        have quiet := last [] _ _ rfl (by
          unfold CallEvent.Broken
          rw [current, tried]
          rfl)
        have kept := writer.perform_broken writing opened tried
        have nested : (writer.perform context store).2.transactionDepth ≠ 0 := by
          rw [kept.depth]
          exact writing.depth
        simp only [run]
        rw [run_quiet _ nested quiet]
        exact kept
      · obtain ⟨reached, kept⟩ := writer.perform_unbroken writing opened versions
          fun error tried => broken ⟨error, tried⟩
        have tail := last.tail
        rw [reached] at tail
        have rest := induction (writer.perform context store).1 writing.working
          rfl kept tail
        simp only [run]
        rw [reached]
        exact KeepsCommitted.working.trans rest
  | nested mode inner next innerInduction nextInduction =>
      have entered := enterTransaction_writing writing mode
      simp only [events, entered] at last
      obtain ⟨innerLast, quiet | unbroken⟩ := last.left
      · have inside := innerInduction writing.entered opened versions innerLast
        have ran := (Prod.eta (inner.run context
          { store with
            transactionDepth := store.transactionDepth + 1 })).symm
        have left := congrArg Prod.snd
          (transaction_nested writing.depth entered ran inside.depth)
        have kept : KeepsCommitted store
            (OrdersStore.transaction mode (inner.run context) store).2 := by
          rw [left]
          exact
            { history := inside.history
              depth := rfl
              write := inside.write }
        have nested :
            (OrdersStore.transaction mode (inner.run context)
              store).2.transactionDepth ≠ 0 := by
          rw [kept.depth]
          exact writing.depth
        simp only [run]
        rw [run_quiet _ nested quiet]
        exact kept
      · obtain ⟨reached, kept⟩ := run_unbroken inner writing.entered opened
          versions unbroken
        have ended : (OrdersStore.transaction mode (inner.run context) store).2 =
            store.working (WriterCall.effects context
              (successes (inner.events context
                { store with transactionDepth := store.transactionDepth + 1 }))
              database) :=
          congrArg Prod.snd (transaction_nested writing.depth entered
            (prod_eq_of_snd reached) rfl)
        have later := last.right
        rw [ended] at later
        have rest := nextInduction
          (OrdersStore.transaction mode (inner.run context) store).1
          writing.working rfl kept later
        simp only [run]
        rw [ended]
        exact KeepsCommitted.working.trans rest

end Bodies

/-! ## Bodies of a reading transaction -/

/-- A reading transaction is open and nothing was changed in it. -/
structure Reading (store : OrdersStore) : Prop where
  depth : store.transactionDepth ≠ 0
  write : store.transactionWrite = false
  unchanged : store.database = store.connection.committed

section ReadingBodies

variable {context : OrdersContext} {store : OrdersStore}

/-- What a body of a reading transaction leaves. -/
structure StaysReading (before after : OrdersStore) : Prop where
  kept : KeepsCommitted before after
  database : after.database = before.database

theorem StaysReading.refl (store : OrdersStore) : StaysReading store store :=
  { kept := .refl store
    database := rfl }

theorem StaysReading.trans {first second third : OrdersStore}
    (before : StaysReading first second) (after : StaysReading second third) :
    StaysReading first third :=
  { kept := before.kept.trans after.kept
    database := after.database.trans before.database }

theorem StaysReading.reading {after : OrdersStore} (reading : Reading store)
    (stays : StaysReading store after) : Reading after :=
  { depth := by rw [stays.kept.depth]; exact reading.depth
    write := stays.kept.write.trans reading.write
    unchanged := by
      have committed := (List.cons.inj stays.kept.history).1
      rw [stays.database, committed, reading.unchanged] }

theorem Reading.refuses (reading : Reading store) :
    OrdersStore.enterTransaction true store =
      (.error (.write "Cannot promote accounting read transaction"), store) := by
  simp [OrdersStore.enterTransaction, Tx.bind_apply, reading.depth, Tx.require,
    reading.write]

theorem transaction_reading {α : Type} (reading : Reading store)
    (body : StoreTx α) :
    OrdersStore.transaction true body store =
      (.error (.write "Cannot promote accounting read transaction"), store) := by
  simp [OrdersStore.transaction, Tx.bind_apply, reading.refuses]

/-- In a reading transaction only recording nothing succeeds. -/
theorem WriterCall.perform_reading (call : WriterCall)
    (context : OrdersContext) (reading : Reading store) :
    StaysReading store (call.perform context store).2 ∧
      (succeeded (call.perform context store).1 = true →
        call.effect context store.database = store.database) := by
  cases call with
  | upsertByClientId order raiseOnError =>
      have failed := upsertFailed_outcome order raiseOnError
        (.write "Cannot write order in accounting read transaction") store
      have raises :
          OrdersStore.upsertByClientId context order raiseOnError store =
            OrdersStore.upsertFailed order raiseOnError
              (.write "Cannot write order in accounting read transaction")
              store := by
        simp [OrdersStore.upsertByClientId, Tx.handle, OrdersStore.upsertOwned,
          Tx.bind_apply, reading.depth, reading.write, Tx.require]
      simp only [perform, Tx.map_apply, raises, failed.1]
      constructor
      · exact
          { kept :=
              { history := rfl
                depth := rfl
                write := rfl }
            database := reading.unchanged.symm }
      · intro success
        cases returned : (OrdersStore.upsertFailed order raiseOnError
            (.write "Cannot write order in accounting read transaction")
            store).1 with
        | error error =>
            rw [returned] at success
            cases success
        | ok result =>
            obtain ⟨reason, rfl⟩ := failed.2 result returned
            rw [returned] at success
            cases success
  | recordFill fact now =>
      simp only [perform, OrdersStore.recordFill, Tx.bind_apply]
      cases OrdersDatabase.requireObservedTime now fact.executedAt with
      | error error => exact ⟨.refl store, fun success => by cases success⟩
      | ok _ =>
          simp only [OrdersStore.lift, Tx.read_apply, transaction_reading reading]
          exact ⟨.refl store, fun success => by cases success⟩
  | recordObservation order source =>
      unfold effect
      simp only [perform, OrdersStore.recordObservation, Tx.bind_apply]
      rcases OrdersStore.observationOf context order source with
        error | _ | observation
      · exact ⟨.refl store, fun success => by cases success⟩
      · exact ⟨.refl store, fun _ => rfl⟩
      · simp only [OrdersStore.lift, Tx.read_apply, transaction_reading reading]
        exact ⟨.refl store, fun success => by cases success⟩
  | recordBaseline baseline now =>
      simp only [perform, OrdersStore.recordBaseline, Tx.bind_apply]
      cases OrdersDatabase.requireObservedTime now baseline.effectiveAt with
      | error error => exact ⟨.refl store, fun success => by cases success⟩
      | ok _ =>
          simp only [OrdersStore.lift, Tx.read_apply, transaction_reading reading]
          exact ⟨.refl store, fun success => by cases success⟩

/-- The body of a reading transaction changes nothing, and its successes have
no effect. -/
theorem TransactionBody.run_reading (body : TransactionBody)
    (context : OrdersContext) (reading : Reading store) :
    StaysReading store (body.run context store).2 ∧
      WriterCall.effects context (successes (body.events context store))
        store.database = store.database := by
  induction body generalizing store with
  | done => exact ⟨.refl store, rfl⟩
  | raise error => exact ⟨.refl store, rfl⟩
  | call writer next induction =>
      obtain ⟨stays, harmless⟩ := writer.perform_reading context reading
      obtain ⟨rest, later⟩ := induction (writer.perform context store).1
        (stays.reading reading)
      simp only [run, events, successes_cons, WriterCall.effects_step]
      refine ⟨stays.trans rest, ?_⟩
      have same : (if succeeded (writer.perform context store).1 then
          writer.effect context store.database else store.database) =
            store.database := by
        split
        · next success => exact harmless success
        · rfl
      rw [same]
      rw [stays.database] at later
      exact later
  | nested mode inner next innerInduction nextInduction =>
      cases mode with
      | true =>
          have refused := reading.refuses
          have ended := transaction_reading reading (inner.run context)
          obtain ⟨rest, later⟩ := nextInduction (.error
            (.write "Cannot promote accounting read transaction")) reading
          simp only [run, events, refused, ended, List.nil_append]
          exact ⟨rest, later⟩
      | false =>
          have entered : OrdersStore.enterTransaction false store =
              (.ok (),
                { store with
                  transactionDepth := store.transactionDepth + 1 }) := by
            simp [OrdersStore.enterTransaction, Tx.bind_apply, reading.depth,
              Tx.require]
          have enteredReading : Reading
              { store with
                transactionDepth := store.transactionDepth + 1 } :=
            { depth := by simp
              write := reading.write
              unchanged := reading.unchanged }
          obtain ⟨inside, harmless⟩ := innerInduction enteredReading
          have ran := (Prod.eta (inner.run context
            { store with
              transactionDepth := store.transactionDepth + 1 })).symm
          have left := congrArg Prod.snd
            (transaction_nested reading.depth entered ran inside.kept.depth)
          have stays : StaysReading store
              (OrdersStore.transaction false (inner.run context) store).2 := by
            rw [left]
            exact
              { kept :=
                  { history := inside.kept.history
                    depth := rfl
                    write := inside.kept.write }
                database := inside.database }
          obtain ⟨rest, later⟩ := nextInduction
            (OrdersStore.transaction false (inner.run context) store).1
            (stays.reading reading)
          simp only [run, events, entered, successes_append,
            WriterCall.effects_append]
          refine ⟨stays.trans rest, ?_⟩
          rw [stays.database] at later
          have same : WriterCall.effects context
              (successes (inner.events context
                { store with transactionDepth := store.transactionDepth + 1 }))
              store.database = store.database := harmless
          rw [same]
          exact later

end ReadingBodies

/-! ## The outermost transaction -/

section Outermost

variable {context : OrdersContext} {store : OrdersStore}

theorem enterTransaction_unsupported (idle : store.Idle) (mode : Bool)
    (versions : store.database.schemaVersions ≠ [1]) :
    OrdersStore.enterTransaction mode store =
      (.error (.write "Unsupported accounting schema"), store) := by
  have current := idle.database_eq
  rw [current] at versions
  have closed := idle.closed
  have depth := idle.depth
  obtain ⟨⟨committed, earlier, working⟩, depth, write⟩ := store
  subst closed
  subst depth
  change committed.schemaVersions ≠ [1] at versions
  simp [OrdersStore.enterTransaction, Tx.bind_apply, Tx.handle,
    OrdersStore.begin, Tx.evolve, Connection.begin, OrdersStore.fetch,
    OrdersStore.database, Connection.current, OrdersStore.rollback,
    Connection.rollback, versions]

theorem Connection.commit_closed {δ : Type} (connection : Connection δ) :
    connection.commit.working = none := by
  unfold Connection.commit
  split
  · rfl
  · next closed => exact closed

theorem transaction_outermost_ok {mode : Bool} {body : StoreTx Unit}
    {entered reached : OrdersStore}
    (enters : OrdersStore.enterTransaction mode store = (.ok (), entered))
    (ran : body entered = (.ok (), reached))
    (depth : reached.transactionDepth = 1) :
    OrdersStore.transaction mode body store =
      (.ok (),
        { reached with
          connection := reached.connection.commit
          transactionDepth := 0 }) := by
  simp [OrdersStore.transaction, Tx.bind_apply, enters, Tx.handle, ran,
    OrdersStore.leaveTransaction, Tx.when, depth, OrdersStore.commit]

theorem transaction_outermost_error {mode : Bool} {body : StoreTx Unit}
    {entered reached : OrdersStore} {error : StoreError}
    (enters : OrdersStore.enterTransaction mode store = (.ok (), entered))
    (ran : body entered = (.error error, reached))
    (depth : reached.transactionDepth = 1) :
    OrdersStore.transaction mode body store =
      (.error (OrdersStore.leavingError 1 error),
        { reached with
          connection := reached.connection.rollback
          transactionDepth := 0 }) := by
  rw [transaction_of_raise enters ran, depth]
  rfl

variable {writing : Bool} {body : TransactionBody}

theorem allOrNothing_of_raise {entered reached : OrdersStore}
    {error : StoreError} (idle : store.Idle)
    (enters : OrdersStore.enterTransaction writing store = (.ok (), entered))
    (ran : body.run context entered = (.error error, reached))
    (history : reached.connection.history = store.connection.history)
    (depth : reached.transactionDepth = 1) :
    AllOrNothing context writing body store := by
  have raised : runTransaction context writing body store =
      (.error (OrdersStore.leavingError 1 error),
        { reached with
          connection := reached.connection.rollback
          transactionDepth := 0 }) :=
    transaction_outermost_error enters ran depth
  have current := idle.database_eq
  constructor <;> rw [raised]
  · intro returned
    cases returned
  · intro _ _
    rw [current, ← (List.cons.inj history).1]
    rfl
  · exact .inl history
  · exact
      { depth := rfl
        closed := rfl }

/-- A body whose changes are those of its successes is committed. -/
theorem allOrNothing_of_return {entered reached : OrdersStore}
    (enters : OrdersStore.enterTransaction writing store = (.ok (), entered))
    (ran : body.run context entered = (.ok (), reached))
    (history : reached.connection.history = store.connection.history)
    (database : reached.database = WriterCall.effects context
      (successes (body.events context entered)) store.database)
    (depth : reached.transactionDepth = 1) :
    AllOrNothing context writing body store := by
  have returned : runTransaction context writing body store =
      (.ok (),
        { reached with
          connection := reached.connection.commit
          transactionDepth := 0 }) :=
    transaction_outermost_ok enters ran depth
  have events : bodyEvents context writing body store =
      body.events context entered := by
    unfold bodyEvents
    rw [enters]
  have committed : ({ reached with
      connection := reached.connection.commit
      transactionDepth := 0 } : OrdersStore).database = reached.database :=
    Connection.current_commit reached.connection
  constructor <;> rw [returned]
  · intro _
    rw [events, ← database]
    exact committed
  · intro error raised
    cases raised
  · rw [committed]
    change reached.connection.commit.history = _ ∨
      reached.connection.commit.history = _
    rw [← history]
    unfold Connection.commit
    split
    · next working opened =>
        right
        simp [OrdersStore.database, Connection.current, opened,
          Connection.history]
    · exact .inl rfl
  · exact
      { depth := rfl
        closed := Connection.commit_closed reached.connection }

def enteredStore (writing : Bool) (store : OrdersStore) : OrdersStore :=
  { connection :=
      { store.connection with working := some store.connection.committed }
    transactionDepth := 1
    transactionWrite := writing }

theorem bodyEvents_idle (context : OrdersContext) (writing : Bool)
    (body : TransactionBody) (idle : store.Idle)
    (versions : store.database.schemaVersions = [1]) :
    bodyEvents context writing body store =
      body.events context (enteredStore writing store) := by
  unfold bodyEvents
  rw [enterTransaction_idle idle writing versions]
  rfl

theorem allOrNothing_reading (idle : store.Idle)
    (versions : store.database.schemaVersions = [1]) :
    AllOrNothing context false body store := by
  have enters := enterTransaction_idle idle false versions
  have current := idle.database_eq
  have reading : Reading (enteredStore false store) :=
    { depth := by simp [enteredStore]
      write := rfl
      unchanged := rfl }
  obtain ⟨stays, harmless⟩ := body.run_reading context reading
  match ran : body.run context (enteredStore false store) with
  | (.error error, reached) =>
      rw [ran] at stays
      exact allOrNothing_of_raise idle enters ran stays.kept.history
        stays.kept.depth
  | (.ok (), reached) =>
      rw [ran] at stays
      refine allOrNothing_of_return enters ran stays.kept.history ?_
        stays.kept.depth
      rw [current]
      exact stays.database.trans harmless.symm

theorem BreaksUncaught.last
    (uncaught : BreaksUncaught context writing body store) :
    BreaksLast context (bodyEvents context writing body store) :=
  fun earlier event later same broken =>
    (uncaught earlier event later same broken).1

theorem BreaksUncaught.unbroken
    (uncaught : BreaksUncaught context writing body store)
    (returned : (runTransaction context writing body store).1 = .ok ()) :
    ∀ event ∈ bodyEvents context writing body store,
      ¬event.Broken context := by
  intro event member broken
  obtain ⟨earlier, later, same⟩ := List.append_of_mem member
  obtain ⟨error, raised⟩ := (uncaught earlier event later same broken).2
  rw [returned] at raised
  cases raised

theorem allOrNothing_writing (idle : store.Idle)
    (versions : store.database.schemaVersions = [1])
    (uncaught : BreaksUncaught context true body store) :
    AllOrNothing context true body store := by
  have enters := enterTransaction_idle idle true versions
  have current := idle.database_eq
  have supported : store.connection.committed.schemaVersions = [1] := by
    rw [← current]
    exact versions
  have writing : (enteredStore true store).Writing :=
    { depth := by simp [enteredStore]
      write := rfl }
  have events := bodyEvents_idle context true body idle versions
  have last := uncaught.last
  rw [events] at last
  have kept := body.run_keepsCommitted writing rfl supported last
  match ran : body.run context (enteredStore true store) with
  | (.error error, reached) =>
      rw [ran] at kept
      exact allOrNothing_of_raise idle enters ran kept.history kept.depth
  | (.ok (), reached) =>
      rw [ran] at kept
      have returned : (runTransaction context true body store).1 = .ok () :=
        congrArg Prod.fst (transaction_outermost_ok enters ran kept.depth)
      have unbroken := uncaught.unbroken returned
      rw [events] at unbroken
      have made := (body.run_unbroken writing rfl supported unbroken).1
      rw [ran] at made
      refine allOrNothing_of_return enters ran kept.history ?_ kept.depth
      rw [current]
      exact congrArg OrdersStore.database made

/-- A transaction is all or nothing when the body lets the errors of broken
calls through. -/
theorem transaction_allOrNothing (context : OrdersContext) (writing : Bool)
    (body : TransactionBody) (store : OrdersStore) (idle : store.Idle)
    (uncaught : writing = true → BreaksUncaught context writing body store) :
    AllOrNothing context writing body store := by
  by_cases versions : store.database.schemaVersions = [1]
  · cases writing with
    | false => exact allOrNothing_reading idle versions
    | true => exact allOrNothing_writing idle versions (uncaught rfl)
  · have refused := enterTransaction_unsupported idle writing versions
    have raised : runTransaction context writing body store =
        (.error (.write "Unsupported accounting schema"), store) :=
      transaction_refused refused _
    constructor <;> rw [raised]
    · intro returned
      cases returned
    · exact fun _ _ => rfl
    · exact .inl rfl
    · exact idle

end Outermost

section Examples

def futureFill : FillFact where
  fillId := "fill-1"
  orderId := "X"
  clientOrderId := "a"
  symbol := "BTC-USD"
  side := "buy"
  quantity := 1
  price := 100
  executedAt := 10
  fee := none
  feeCurrency := none
  identified := by decide
  sided := FillFact.bought
  positive := FillFact.one_at_hundred

def caughtBody : TransactionBody :=
  .call (.upsertByClientId (plainOrder "X" "a" 5) true) fun _ =>
    .call (.recordFill futureFill (.utc 1)) fun _ =>
      .nested true
        (.call (.recordObservation (plainOrder "X" "a" 5) "websocket") fun _ =>
          .done)
        fun _ => .done

/-- A body that catches a refusal commits the rest. -/
theorem caught_body_allOrNothing :
    AllOrNothing plainContext true caughtBody (.fresh .empty) := by
  refine transaction_allOrNothing plainContext true caughtBody (.fresh .empty)
    (idle_fresh .empty) fun _ => ?_
  have unbroken : ∀ event ∈
      bodyEvents plainContext true caughtBody (.fresh .empty),
        ¬event.Broken plainContext := by decide +kernel
  intro earlier event later same broken
  exact absurd broken (unbroken event (by simp [same]))

def droppingBody : TransactionBody :=
  .call (.upsertByClientId (plainOrder "X" "a" 5) true) fun _ =>
    .call (.upsertByClientId (plainOrder "X" "a" 3) false) fun _ => .done

/-- The transaction returns, and the upsert that succeeded is lost. -/
theorem dropping_body_not_allOrNothing :
    ¬AllOrNothing plainContext true droppingBody (.fresh .empty) := by
  intro all
  have returned : (runTransaction plainContext true droppingBody
      (.fresh .empty)).1 = .ok () := by decide +kernel
  have committed := congrArg (fun database => database.orders.rows.length)
    (all.returns returned)
  revert committed
  decide +kernel

end Examples

end GptTrader
