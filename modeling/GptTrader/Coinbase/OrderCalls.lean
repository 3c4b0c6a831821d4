import GptTrader.Coinbase.OrderFrames
import GptTrader.Persistence.OrderRuns

/-!
# Calls about one order

The calls which write the orders table, from a store without an open
transaction and with one row for each client, and exactly which of them touch a
row they do not name.
-/

namespace GptTrader

/-- Rows the call does not name stay, and no admitted intent is lost. -/
structure FramesOthers (named : OrderRecord → Prop)
    (before after : OrdersDatabase) : Prop where
  others : ∀ row ∈ before.orders.rows, ¬named row → row ∈ after.orders.rows
  intents : ∀ row ∈ before.orders.rows, ∀ payload,
    row.intent? = some payload →
      ∃ kept ∈ after.orders.rows, kept.clientOrderId = row.clientOrderId ∧
        ∃ intent, kept.intent? = some intent ∧
          intent.canonical = payload.canonical

/-- An insertion which takes the order identifier of another client's row: one
the call does not name, or one that carries an admitted intent. -/
def Supplants (named : OrderRecord → Prop) (order : OrderRecord)
    (database : OrdersDatabase) : Prop :=
  (∀ row ∈ database.orders.rows, row.clientOrderId ≠ order.clientOrderId) ∧
    ∃ victim ∈ database.orders.rows, victim.orderId = order.orderId ∧
      (named victim → victim.intent?.isSome = true)

section Frames

variable {context : OrdersContext} {named : OrderRecord → Prop}
variable {database before after changed : OrdersDatabase}
variable {order : OrderRecord}

theorem framesOthers_refl (named : OrderRecord → Prop)
    (database : OrdersDatabase) : FramesOthers named database database :=
  { others := fun _ member _ => member
    intents := fun row member payload carried =>
      ⟨row, member, rfl, payload, carried, rfl⟩ }

theorem Advances.framesOthers {formats : TextFormats}
    (advances : Advances formats named before after) :
    FramesOthers named before after :=
  { others := advances.kept
    intents := fun row member payload carried => by
      obtain ⟨grown, grownMember, grows⟩ := advances.grows row member
      obtain ⟨intent, found, same, _⟩ := grows.intent payload carried
      exact ⟨grown, grownMember, grows.client, intent, found, same⟩ }

theorem framesOthers_congr (same : after.orders = changed.orders) :
    FramesOthers named before after ↔ FramesOthers named before changed := by
  constructor
  · intro frames
    exact
      { others := by rw [← same]; exact frames.others
        intents := by rw [← same]; exact frames.intents }
  · intro frames
    exact
      { others := by rw [same]; exact frames.others
        intents := by rw [same]; exact frames.intents }

/-- Replacing a victim of another client is framed only when the call names the
victim and the victim carries no intent. -/
theorem framesOthers_save {record victim : OrderRecord}
    (unique : ClientsUnique database)
    (absent : ∀ row ∈ database.orders.rows,
      row.clientOrderId ≠ record.clientOrderId)
    (member : victim ∈ database.orders.rows)
    (replaced : victim.orderId = record.orderId) :
    FramesOthers named database (database.save record) ↔
      named victim ∧ victim.intent? = none := by
  have saved : ∀ row, row ∈ (database.save record).orders.rows ↔
      row = record ∨
        (row ∈ database.orders.rows ∧ row.orderId ≠ record.orderId) :=
    fun row => Table.mem_insertOrReplace
  have gone : ∀ row ∈ (database.save record).orders.rows,
      row.clientOrderId ≠ victim.clientOrderId := by
    intro row rowMember same
    rcases (saved row).mp rowMember with rfl | ⟨stored, different⟩
    · exact absent victim member same.symm
    · rw [unique.eq stored member same] at different
      exact different replaced
  constructor
  · intro frames
    constructor
    · by_contra unnamed
      exact gone victim (frames.others victim member unnamed) rfl
    · by_contra carried
      obtain ⟨payload, found⟩ := Option.ne_none_iff_exists'.mp carried
      obtain ⟨kept, keptMember, same, _⟩ :=
        frames.intents victim member payload found
      exact gone kept keptMember same
  · rintro ⟨naming, bare⟩
    have only : ∀ row ∈ database.orders.rows, row ≠ victim →
        row ∈ (database.save record).orders.rows := by
      intro row rowMember different
      refine (saved row).mpr (.inr ⟨rowMember, fun same => different ?_⟩)
      exact database.orders.eq_of_key_eq rowMember member
        (same.trans replaced.symm)
    refine
      { others := fun row rowMember unnamed => ?_
        intents := fun row rowMember payload carried => ?_ }
    · exact only row rowMember fun same => unnamed (same ▸ naming)
    · have different : row ≠ victim := by
        rintro rfl
        rw [bare] at carried
        simp at carried
      exact ⟨row, only row rowMember different, rfl, payload, carried, rfl⟩

theorem upsertResult_of_absent {checksum : String}
    (absent : ∀ row ∈ database.orders.rows,
      row.clientOrderId ≠ order.clientOrderId)
    (computed : order.computeChecksum context = .ok checksum) :
    upsertResult context order database =
      .ok (database.save (order.stored checksum)) := by
  have none : database.rowsOfClient order.clientOrderId = [] := by
    rw [List.eq_nil_iff_forall_not_mem]
    intro row member
    obtain ⟨stored, same⟩ := mem_rowsOfClient.mp member
    exact absent row stored same
  have unread : database.getOrderByClientOrderId context order.clientOrderId =
      .ok .none := by
    simp [OrdersDatabase.getOrderByClientOrderId, OrdersDatabase.clientRow,
      none, bind, Except.bind]
  have inserted : database.upsert (order.stored checksum) =
      .ok (database.save (order.stored checksum)) := by
    simp [OrdersDatabase.upsert, OrderRecord.stored, none, OrdersDatabase.save]
  simp [upsertResult, unread, OrdersStore.updatedOrder, computed, inserted,
    bind, Except.bind]

/-- An upsert frames others unless it supplants their row. -/
theorem upsertResult_frames (unique : ClientsUnique database)
    (names : ∀ row, row.clientOrderId = order.clientOrderId → named row)
    (result : upsertResult context order database = .ok changed) :
    FramesOthers named database changed ↔ ¬Supplants named order database := by
  have whole := result
  simp only [upsertResult, Outcome.bind_eq_ok] at result
  obtain ⟨existing, found, updated, accepted, checksum, computed, written⟩ :=
    result
  by_cases fresh : InsertsFresh order database
  · let promise : Promise :=
      { context := context, touched := named, initial := database }
    have admits : Admits promise.touched order database := by
      rcases fresh.admits with ⟨row, member, same, _⟩ | other
      · exact .inl ⟨row, member, same, names row same⟩
      · exact .inr other
    have reading : UpsertRead promise order existing updated database :=
      { admits := admits, found := found, accepted := accepted }
    have frames := (reading.advances written).framesOthers
    refine ⟨fun _ supplants => ?_, fun _ => frames⟩
    obtain ⟨absent, victim, member, same, _⟩ := supplants
    exact fresh absent victim member same
  · unfold InsertsFresh at fresh
    push Not at fresh
    obtain ⟨absent, victim, member, replaced⟩ := fresh
    have inserted : updated = order := by
      cases existing with
      | none => simpa [OrdersStore.updatedOrder] using accepted.symm
      | some existing =>
          obtain ⟨row, single, _⟩ := getOrderByClientOrderId_eq_some found
          have listed : row ∈ database.rowsOfClient order.clientOrderId := by
            rw [single]
            exact List.mem_singleton_self row
          obtain ⟨stored, same⟩ := mem_rowsOfClient.mp listed
          exact absurd same (absent row stored)
    rw [inserted] at computed
    have saved := upsertResult_of_absent absent computed
    rw [whole] at saved
    obtain rfl := Except.ok.inj saved
    have exact : FramesOthers named database
        (database.save (order.stored checksum)) ↔ _ :=
      framesOthers_save unique absent member replaced
    rw [exact]
    constructor
    · rintro ⟨naming, bare⟩ ⟨_, other, otherMember, same, carries⟩
      obtain rfl : other = victim :=
        database.orders.eq_of_key_eq otherMember member
          (same.trans replaced.symm)
      simp [bare] at carries
      exact carries naming
    · intro harmless
      have spared : named victim ∧ ¬victim.intent?.isSome = true := by
        by_contra loses
        refine harmless ⟨absent, victim, member, replaced, fun naming => ?_⟩
        by_contra bare
        exact loses ⟨naming, bare⟩
      exact ⟨spared.1, by simpa using spared.2⟩

end Frames

/-- The calls which write the orders table for one order. -/
inductive StoreCall where
  | upsertByClientId (order : OrderRecord) (raiseOnError : Bool)
  | updateStatus (orderId : String) (status : OrderStatus)
      (filledQuantity averageFillPrice : Option Decimal) (now : DateTime)
  | recordFill (fact : FillFact) (now : DateTime)
  | handleOrderUpdate (event : OrderUpdateEvent) (now : DateTime)
  | handleFill (event : FillEvent) (now : DateTime)

/-- An event names its client's row and, without a client identifier, also the
row with its order identifier. -/
def EventNames (orderId clientOrderId : String) (row : OrderRecord) : Prop :=
  row.clientOrderId =
    UserEventHandler.resolvedClientId orderId clientOrderId ∨
      (clientOrderId = "" ∧ row.orderId = orderId)

def Observable (context : OrdersContext) (record : OrderRecord)
    (database : OrdersDatabase) : Prop :=
  ∃ changed, observeResult context record "ws_user_event" database =
    .ok changed

/-- The record a fill event asks to write: its order is found and it reports
more than the order has recorded. -/
def FillProposes (context : OrdersContext) (botId : String)
    (event : FillEvent) (now : DateTime) (database : OrdersDatabase)
    (record : OrderRecord) : Prop :=
  ∃ existing delta,
    UserEventHandler.fillContext context database event = .ok existing ∧
      UserEventHandler.fillUpdate context botId event now existing =
        .ok (.advanced record delta)

namespace StoreCall

/-- The call is about this row. -/
def Names : StoreCall → OrderRecord → Prop
  | .upsertByClientId order _, row =>
      row.clientOrderId = order.clientOrderId
  | .updateStatus orderId _ _ _ _, row => row.orderId = orderId
  | .recordFill fact _, row => NamedBy fact row
  | .handleOrderUpdate event _, row =>
      EventNames event.orderId event.clientOrderId row
  | .handleFill event _, row =>
      EventNames event.orderId event.clientOrderId row

variable (context : OrdersContext) (handler : UserEventHandler)
variable (database : OrdersDatabase)

def perform : StoreCall → OrdersDatabase
  | .upsertByClientId order raiseOnError =>
      (OrdersStore.upsertByClientId context order raiseOnError
        (.fresh database)).2.database
  | .updateStatus orderId status filledQuantity averageFillPrice now =>
      (OrdersStore.updateStatus context orderId status filledQuantity
        averageFillPrice now (.fresh database)).2.database
  | .recordFill fact now =>
      (OrdersStore.recordFill context fact now (.fresh database)).2.database
  | .handleOrderUpdate event now =>
      (UserEventHandler.handleOrderUpdate context event now
        { handler with store := .fresh database }).2.store.database
  | .handleFill event now =>
      (UserEventHandler.handleFill context event now
        { handler with store := .fresh database }).2.store.database

def EventCollides (names : OrderRecord → Prop) (record : OrderRecord) : Prop :=
  database.schemaVersions = [1] ∧ Supplants names record database ∧
    Observable context record database

/-- The call replaces a row it is not about. -/
def Collides : StoreCall → Prop
  | .upsertByClientId order raiseOnError =>
      Supplants (Names (.upsertByClientId order raiseOnError)) order database ∧
        ∃ checksum, order.computeChecksum context = .ok checksum
  | .updateStatus _ _ _ _ _ => False
  | .recordFill _ _ => False
  | .handleOrderUpdate event now =>
      UserEventHandler.identified event.orderId event.clientOrderId = true ∧
        EventCollides context database (Names (.handleOrderUpdate event now))
          (UserEventHandler.updateRecord context handler.botId event now)
  | .handleFill event now =>
      UserEventHandler.fillEventKey context event ∉ handler.recentFillKeys ∧
        UserEventHandler.identified event.orderId event.clientOrderId = true ∧
          ∃ record,
            FillProposes context handler.botId event now database record ∧
              EventCollides context database (Names (.handleFill event now))
                record

end StoreCall

section Calls

variable {context : OrdersContext} {handler : UserEventHandler}
variable {database changed : OrdersDatabase} {order record : OrderRecord}
variable {named : OrderRecord → Prop}

theorem Promise.Holds.advances {promise : Promise} {store : OrdersStore}
    (holds : promise.Holds store) :
    Advances promise.context.formats promise.touched promise.initial
      store.database := by
  have committed := holds.reached store.connection.committed
    (by simp [Connection.history])
  exact IsTrans.trans _ _ _ committed holds.pending

theorem Promise.Kept.framesOthers {α : Type} {body : StoreTx α}
    (context : OrdersContext) (kept : Promise.Kept
      { context := context, touched := named, initial := database } body) :
    FramesOthers named database (body (.fresh database)).2.database := by
  have started : Promise.Holds
      { context := context, touched := named, initial := database }
      (.fresh database) := Connection.progresses_idle database
  exact (kept.effect started).advances.framesOthers

theorem checksum_of_supplants (supplants : Supplants named order database)
    (result : upsertResult context order database = .ok changed) :
    ∃ checksum, order.computeChecksum context = .ok checksum := by
  simp only [upsertResult, Outcome.bind_eq_ok] at result
  obtain ⟨existing, found, updated, accepted, checksum, computed, _⟩ := result
  cases existing with
  | none =>
      obtain rfl : order = updated := by
        simpa [OrdersStore.updatedOrder] using accepted
      exact ⟨checksum, computed⟩
  | some existing =>
      obtain ⟨row, single, _⟩ := getOrderByClientOrderId_eq_some found
      have listed : row ∈ database.rowsOfClient order.clientOrderId := by
        rw [single]
        exact List.mem_singleton_self row
      obtain ⟨stored, same⟩ := mem_rowsOfClient.mp listed
      exact absurd same (supplants.1 row stored)

theorem upsert_frames (unique : ClientsUnique database) {raiseOnError : Bool} :
    let call := StoreCall.upsertByClientId order raiseOnError
    FramesOthers call.Names database (call.perform context handler database) ↔
      ¬call.Collides context handler database := by
  intro call
  cases result : upsertResult context order database with
  | ok changed =>
      have performed : call.perform context handler database = changed :=
        upsertByClientId_settles (idle_fresh database) result
      rw [performed]
      have frames : FramesOthers call.Names database changed ↔ _ :=
        upsertResult_frames unique (fun _ same => same) result
      refine frames.trans (not_congr ⟨fun supplants => ?_, fun collides => ?_⟩)
      · exact ⟨supplants, checksum_of_supplants supplants result⟩
      · exact collides.1
  | error error =>
      have performed : call.perform context handler database = database :=
        upsertByClientId_unchanged (idle_fresh database) result
      rw [performed]
      refine ⟨fun _ collides => ?_, fun _ => framesOthers_refl _ database⟩
      obtain ⟨supplants, checksum, computed⟩ := collides
      rw [upsertResult_of_absent supplants.1 computed] at result
      simp at result

theorem eventMetadata_checksum {eventType : String}
    (plain : record.metadata =
      some (UserEventHandler.eventMetadata eventType)) :
    ∃ checksum, record.computeChecksum context = .ok checksum := by
  have version : record.checksumVersion = .int 1 := by
    simp only [OrderRecord.checksumVersion, OrderRecord.facts, plain]
    rfl
  unfold OrderRecord.computeChecksum
  rw [version, if_neg (by simp), if_pos rfl]
  exact ⟨_, rfl⟩

theorem observeResult_orders {source : String}
    (result : observeResult context record source database = .ok changed) :
    changed.orders = database.orders := by
  obtain ⟨observation, _, observing⟩ := Outcome.bind_eq_ok.mp result
  cases observation with
  | none =>
      obtain rfl : database = changed := by simpa [observed] using observing
      rfl
  | some observation =>
      obtain ⟨_, _, returned⟩ := Outcome.bind_eq_ok.mp observing
      obtain rfl := Except.ok.inj returned
      unfold OrdersDatabase.insertObservation
      split <;> rfl

theorem upsertResult_observations
    (result : upsertResult context order database = .ok changed) :
    changed.observations = database.observations := by
  simp only [upsertResult, Outcome.bind_eq_ok] at result
  obtain ⟨_, _, _, _, _, _, written⟩ := result
  unfold OrdersDatabase.upsert at written
  split at written
  · obtain rfl := Except.ok.inj written
    rfl
  · split at written
    · obtain rfl := Except.ok.inj written
      rfl
    · simp at written

theorem observable_congr
    (same : changed.observations = database.observations) :
    Observable context record changed ↔ Observable context record database := by
  unfold Observable observeResult
  match OrdersStore.observationOf context record "ws_user_event" with
  | .error error => simp [bind, Except.bind]
  | .ok none => simp [bind, Except.bind, observed]
  | .ok (some observation) =>
      have checked : ((changed.insertObservation
          (context.observationDigest observation)
          observation).observationsValid) =
          (database.insertObservation (context.observationDigest observation)
            observation).observationsValid := by
        unfold OrdersDatabase.insertObservation
          OrdersDatabase.observationsValid
        rw [same]
        split <;> simp [same]
      simp only [bind, Except.bind, observed, checked]
      split <;> simp

section

variable (unique : ClientsUnique database)
variable (names : ∀ row, row.clientOrderId = record.clientOrderId → named row)
variable {eventType : String}
variable (plain : record.metadata = some (UserEventHandler.eventMetadata eventType))

include unique names eventType plain

/-- Persisting an event's record frames other orders unless the record is
accepted and supplants one of them. -/
theorem persistResult_frames :
    FramesOthers named database
        (settled database ((persistResult context record database).map
          fun changed => ((), changed))) ↔
      ¬(Supplants named record database ∧
        Observable context record database) := by
  match result : persistResult context record database with
  | .ok changed =>
      obtain ⟨upserted, upserting, observing⟩ := Outcome.bind_eq_ok.mp result
      have frames := upsertResult_frames unique names upserting
      have orders : FramesOthers named database changed ↔
          FramesOthers named database upserted :=
        framesOthers_congr (observeResult_orders observing)
      have observable : Observable context record database :=
        (observable_congr (upsertResult_observations upserting)).mp
          ⟨changed, observing⟩
      simp only [Except.map, settled]
      rw [orders, frames]
      exact not_congr ⟨fun supplants => ⟨supplants, observable⟩, And.left⟩
  | .error error =>
      refine ⟨fun _ collides => ?_, fun _ => framesOthers_refl _ database⟩
      obtain ⟨supplants, observable⟩ := collides
      obtain ⟨checksum, computed⟩ := eventMetadata_checksum plain
      have upserting := upsertResult_of_absent supplants.1 computed
      obtain ⟨changed, observing⟩ :=
        (observable_congr (upsertResult_observations upserting)).mpr observable
      have persisted : persistResult context record database = .ok changed := by
        unfold persistResult
        rw [upserting]
        exact observing
      rw [persisted] at result
      simp at result

/-- What an event's transaction leaves frames other orders exactly when the
event does not collide. -/
theorem event_frames :
    FramesOthers named database
        (if database.schemaVersions = [1] then
          settled database ((persistResult context record database).map
            fun changed => ((), changed))
        else database) ↔
      ¬StoreCall.EventCollides context database named record := by
  unfold StoreCall.EventCollides
  split
  · next supported =>
      rw [persistResult_frames unique names plain]
      simp [supported]
  · next unsupported =>
      exact ⟨fun _ collides => unsupported collides.1,
        fun _ => framesOthers_refl named database⟩

end

theorem handleOrderUpdate_frames (unique : ClientsUnique database)
    (event : OrderUpdateEvent) (now : DateTime) :
    let call := StoreCall.handleOrderUpdate event now
    FramesOthers call.Names database (call.perform context handler database) ↔
      ¬call.Collides context handler database := by
  intro call
  by_cases identified :
      UserEventHandler.identified event.orderId event.clientOrderId = true
  · have performed : call.perform context handler database =
        (UserEventHandler.persist context
          (UserEventHandler.updateRecord context handler.botId event now)
          (.fresh database)).2.database := by
      simp only [call, StoreCall.perform, UserEventHandler.handleOrderUpdate,
        Tx.bind_apply, Tx.view_apply, identified, if_true,
        UserEventHandler.onStore, Tx.handle]
      split <;> simp_all
    have transaction := transaction_database
      (acts_persistStatements context
        (UserEventHandler.updateRecord context handler.botId event now))
      (idle_fresh database)
    rw [performed]
    unfold UserEventHandler.persist
    rw [transaction]
    refine (event_frames unique (fun row same => .inl same) rfl).trans ?_
    simp [call, StoreCall.Collides, identified]
  · have performed : call.perform context handler database = database := by
      simp [call, StoreCall.perform, UserEventHandler.handleOrderUpdate,
        Tx.bind_apply, identified, OrdersStore.fresh, OrdersStore.database]
    rw [performed]
    simp [call, StoreCall.Collides, identified, framesOthers_refl]

theorem FillProposes.eq {botId : String} {event : FillEvent} {now : DateTime}
    {other : OrderRecord}
    (first : FillProposes context botId event now database record)
    (second : FillProposes context botId event now database other) :
    record = other := by
  obtain ⟨existing, delta, found, advanced⟩ := first
  obtain ⟨existing', delta', found', advanced'⟩ := second
  obtain rfl := Except.ok.inj (found.symm.trans found')
  rw [advanced] at advanced'
  simp only [Except.ok.injEq,
    UserEventHandler.FillUpdate.advanced.injEq] at advanced'
  exact advanced'.1

theorem FillProposes.identity {botId : String} {event : FillEvent}
    {now : DateTime}
    (proposes : FillProposes context botId event now database record) :
    record.clientOrderId =
        UserEventHandler.resolvedClientId event.orderId event.clientOrderId ∧
      record.metadata = some (UserEventHandler.eventMetadata "fill") := by
  obtain ⟨existing, delta, _, advanced⟩ := proposes
  obtain ⟨positive, _, advanced⟩ := Outcome.bind_eq_ok.mp advanced
  cases positive with
  | false => simp at advanced
  | true =>
      cases existing with
      | none =>
          simp only [if_true, Except.ok.injEq,
            UserEventHandler.FillUpdate.advanced.injEq] at advanced
          obtain ⟨rfl, _⟩ := advanced
          exact ⟨rfl, rfl⟩
      | some existing =>
          simp only [if_true, UserEventHandler.fillOfExisting,
            Outcome.bind_eq_ok] at advanced
          obtain ⟨_, _, more, _, advanced⟩ := advanced
          cases more with
          | false => simp at advanced
          | true =>
              simp only [if_true, Outcome.bind_eq_ok, Except.ok.injEq,
                UserEventHandler.FillUpdate.advanced.injEq] at advanced
              obtain ⟨_, _, _, _, rfl, _⟩ := advanced
              exact ⟨rfl, rfl⟩

theorem fillResult_cases (context : OrdersContext) (botId : String)
    (event : FillEvent) (now : DateTime) (database : OrdersDatabase) :
    (∃ record delta, FillProposes context botId event now database record ∧
      fillResult context botId event now database =
        if UserEventHandler.identified event.orderId event.clientOrderId then
          (persistResult context record database).map fun changed =>
            (delta, changed)
        else .ok (.finite 0, database)) ∨
      ((∀ record, ¬FillProposes context botId event now database record) ∧
        ∀ value changed, fillResult context botId event now database =
          .ok (value, changed) → changed.orders = database.orders) := by
  unfold FillProposes fillResult
  match contextual : UserEventHandler.fillContext context database event with
  | .error error =>
      right
      refine ⟨by simp, fun value changed result => ?_⟩
      split at result
      · simp [bind, Except.bind] at result
      · simp at result
        rw [result.2]
  | .ok existing =>
      match updating : UserEventHandler.fillUpdate context botId event now
          existing with
      | .error error =>
          right
          refine ⟨by simp [updating], fun value changed result => ?_⟩
          split at result
          · simp [bind, Except.bind, updating] at result
          · simp at result
            rw [result.2]
      | .ok .ignored =>
          right
          refine ⟨by simp [updating], fun value changed result => ?_⟩
          split at result
          · simp [bind, Except.bind, updating, applied] at result
            rw [result.2]
          · simp at result
            rw [result.2]
      | .ok (.observed record) =>
          right
          refine ⟨by simp [updating], fun value changed result => ?_⟩
          split at result
          · simp only [bind, Except.bind, updating, applied,
              Outcome.map_eq_ok] at result
            obtain ⟨reached, observing, same⟩ := result
            obtain ⟨_, rfl⟩ := Prod.mk.inj same
            exact observeResult_orders observing
          · simp at result
            rw [result.2]
      | .ok (.advanced record delta) =>
          left
          refine ⟨record, delta, ⟨existing, delta, rfl, updating⟩, ?_⟩
          simp [bind, Except.bind, updating, applied]

theorem settled_map {α : Type} (value : α)
    (outcome : Except StoreError OrdersDatabase) :
    settled database (outcome.map fun changed => (value, changed)) =
      settled database (outcome.map fun changed => ((), changed)) := by
  cases outcome <;> rfl

theorem fill_frames (unique : ClientsUnique database) (event : FillEvent)
    (now : DateTime)
    (identified :
      UserEventHandler.identified event.orderId event.clientOrderId = true) :
    FramesOthers (StoreCall.Names (.handleFill event now)) database
        (if database.schemaVersions = [1] then
          settled database
            (fillResult context handler.botId event now database)
        else database) ↔
      ¬∃ record,
        FillProposes context handler.botId event now database record ∧
          StoreCall.EventCollides context database
            (StoreCall.Names (.handleFill event now)) record := by
  rcases fillResult_cases context handler.botId event now database with
    ⟨record, delta, proposes, result⟩ | ⟨nothing, kept⟩
  · obtain ⟨client, plain⟩ := proposes.identity
    rw [result, if_pos identified, settled_map]
    refine (event_frames unique
      (fun row same => .inl (same.trans client)) plain).trans ?_
    refine not_congr ⟨fun collides => ⟨record, proposes, collides⟩, ?_⟩
    rintro ⟨other, proposed, collides⟩
    rwa [proposes.eq proposed]
  · have unchanged := framesOthers_refl
      (StoreCall.Names (.handleFill event now)) database
    refine ⟨fun _ ⟨record, proposes, _⟩ => nothing record proposes, fun _ => ?_⟩
    split
    · match result : fillResult context handler.botId event now database with
      | .ok (value, changed) =>
          exact (framesOthers_congr (kept value changed result)).mpr unchanged
      | .error error => exact unchanged
    · exact unchanged

theorem handleFill_frames (unique : ClientsUnique database)
    (event : FillEvent) (now : DateTime) :
    let call := StoreCall.handleFill event now
    FramesOthers call.Names database (call.perform context handler database) ↔
      ¬call.Collides context handler database := by
  intro call
  by_cases repeated :
      UserEventHandler.fillEventKey context event ∈ handler.recentFillKeys
  · have performed : call.perform context handler database = database := by
      simp [call, StoreCall.perform, UserEventHandler.handleFill,
        Tx.bind_apply, repeated, OrdersStore.fresh, OrdersStore.database]
    rw [performed]
    simp [call, StoreCall.Collides, repeated, framesOthers_refl]
  · have performed : call.perform context handler database =
        (UserEventHandler.updateOrdersForFill context handler.botId event now
          (.fresh database)).2.database := by
      simp only [call, StoreCall.perform, UserEventHandler.handleFill,
        Tx.bind_apply, Tx.view_apply, id_eq, repeated, if_false,
        Tx.modify_apply, UserEventHandler.recordFillKey,
        UserEventHandler.onStore, Tx.handle]
      rcases outcome : UserEventHandler.updateOrdersForFill context
          handler.botId event now (.fresh database) with ⟨error | delta, reached⟩
      · simp [UserEventHandler.forgetFillKey]
      · simp
    have transaction := transaction_database
      (acts_updateOrdersForFillInner context handler.botId event now)
      (idle_fresh database)
    rw [performed]
    unfold UserEventHandler.updateOrdersForFill
    rw [transaction]
    by_cases identified :
        UserEventHandler.identified event.orderId event.clientOrderId = true
    · refine (fill_frames unique event now identified).trans ?_
      simp [call, StoreCall.Collides, repeated, identified]
    · have nothing : settled database
          (fillResult context handler.botId event now database) = database := by
        simp [fillResult, identified, settled]
      simp [call, StoreCall.Collides, identified, OrdersStore.fresh,
        OrdersStore.database, nothing, framesOthers_refl]

/-- Which calls leave the orders they do not name, and every admitted intent,
as they are. -/
theorem store_call_frames (context : OrdersContext)
    (handler : UserEventHandler) (database : OrdersDatabase)
    (unique : ClientsUnique database) (call : StoreCall) :
    FramesOthers call.Names database (call.perform context handler database) ↔
      ¬call.Collides context handler database := by
  cases call with
  | upsertByClientId order raiseOnError => exact upsert_frames unique
  | updateStatus orderId status filledQuantity averageFillPrice now =>
      refine iff_of_true (Promise.Kept.framesOthers context ?_) id
      exact kept_updateStatus status filledQuantity averageFillPrice now
        fun _ same => same
  | recordFill fact now =>
      refine iff_of_true (Promise.Kept.framesOthers context ?_) id
      exact kept_recordFill now fun _ names => names
  | handleOrderUpdate event now =>
      exact handleOrderUpdate_frames unique event now
  | handleFill event now => exact handleFill_frames unique event now

end Calls

section Examples

def admittedDatabase : OrdersDatabase :=
  OrdersDatabase.empty.save
    { plainOrder "X" "a" 0 with
      metadata := some (.ofList
        [("intent", .obj
            [("client_order_id", .str "a"), ("symbol", .str "BTC-USD"),
              ("side", .str "buy"), ("order_type", .str "market"),
              ("quantity", .str "10")]),
          ("record_checksum_version", .int 2)])
      checksum := some "digest" }

def plainHandler : UserEventHandler :=
  { botId := "bot"
    store := .fresh .empty
    recentFillKeys := []
    dedupeLimit := 1000 }

def anonymousUpdate : OrderUpdateEvent :=
  { orderId := "X"
    clientOrderId := ""
    productId := "BTC-USD"
    status := "OPEN"
    side := "BUY"
    orderType := "MARKET"
    size := .finite 10
    filledSize := .finite 0
    price := none
    averagePrice := none
    timestamp := none }

/-- The rows of two clients. -/
def sharedDatabase : OrdersDatabase :=
  admittedDatabase.save (plainOrder "Y" "b" 0)

/-- The admitted order of another client outlives a cancellation. -/
theorem cancel_frames_others :
    let call := StoreCall.updateStatus "Y" .cancelled none none (.utc 1)
    FramesOthers call.Names sharedDatabase
        (call.perform plainContext plainHandler sharedDatabase) ∧
      ¬call.Names (plainOrder "X" "a" 0) :=
  ⟨(store_call_frames plainContext plainHandler sharedDatabase
    (by unfold ClientsUnique; decide +kernel) _).mpr id,
    by unfold StoreCall.Names; decide +kernel⟩

/-- The update replaces the admitted order by one without its intent. -/
theorem anonymous_update_loses_intent :
    let call := StoreCall.handleOrderUpdate anonymousUpdate (.utc 1)
    ¬FramesOthers call.Names admittedDatabase
      (call.perform plainContext plainHandler admittedDatabase) := by
  intro call frames
  have rows : (call.perform plainContext plainHandler
      admittedDatabase).orders.rows.map OrderRecord.clientOrderId = ["X"] := by
    decide +kernel
  obtain ⟨row, member, client, intent⟩ : ∃ row ∈ admittedDatabase.orders.rows,
      row.clientOrderId = "a" ∧ row.intent?.isSome = true := by
    decide +kernel
  obtain ⟨payload, carried⟩ := Option.isSome_iff_exists.mp intent
  obtain ⟨kept, keptMember, same, _⟩ :=
    frames.intents row member payload carried
  have listed := List.mem_map.mpr ⟨kept, keptMember, same.trans client⟩
  rw [rows] at listed
  simp at listed

end Examples

end GptTrader
