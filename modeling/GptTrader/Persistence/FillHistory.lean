import GptTrader.Persistence.OrderGrowth
import GptTrader.Persistence.OrdersAccounting

/-!
# The committed history of the orders database

Each statement of a store writer advances the database: clients keep at most
one row and every row grows.  Since advancing is a preorder, so does every
commit, whatever transaction the statements ran in.  The one statement which
does not is an insertion whose order identifier belongs to another row, so
`InsertsFresh` is what an upsert has to satisfy.
-/

namespace GptTrader

/-- No two rows share a client identifier. -/
def ClientsUnique (database : OrdersDatabase) : Prop :=
  (database.orders.rows.map OrderRecord.clientOrderId).Nodup

/-- Rows of one client stay single, every row stays and grows, and rows that
are not touched stay as they are. -/
structure Advances (formats : TextFormats) (touched : OrderRecord → Prop)
    (before after : OrdersDatabase) : Prop where
  unique : ClientsUnique before → ClientsUnique after
  grows : ∀ row ∈ before.orders.rows, ∃ grown ∈ after.orders.rows,
    Grows formats row grown
  kept : ∀ row ∈ before.orders.rows, ¬touched row → row ∈ after.orders.rows

/-- The order meets no other order's row. -/
def InsertsFresh (order : OrderRecord) (database : OrdersDatabase) : Prop :=
  (∀ row ∈ database.orders.rows, row.clientOrderId ≠ order.clientOrderId) →
    ∀ row ∈ database.orders.rows, row.orderId ≠ order.orderId

def Admits (touched : OrderRecord → Prop) (order : OrderRecord)
    (database : OrdersDatabase) : Prop :=
  (∃ row ∈ database.orders.rows,
    row.clientOrderId = order.clientOrderId ∧ touched row) ∨
    ∀ row ∈ database.orders.rows,
      row.clientOrderId ≠ order.clientOrderId ∧ row.orderId ≠ order.orderId

theorem InsertsFresh.admits {order : OrderRecord} {database : OrdersDatabase}
    (fresh : InsertsFresh order database) :
    Admits (fun _ => True) order database := by
  by_cases known : ∃ row ∈ database.orders.rows,
      row.clientOrderId = order.clientOrderId
  · obtain ⟨row, member, same⟩ := known
    exact .inl ⟨row, member, same, trivial⟩
  · simp only [not_exists, not_and] at known
    exact .inr fun row member => ⟨known row member, fresh known row member⟩

section Databases

variable {formats : TextFormats} {touched : OrderRecord → Prop}
variable {before after : OrdersDatabase}

instance : Std.Refl (Advances formats touched) where
  refl _ :=
    { unique := id
      grows := fun row member => ⟨row, member, .refl row⟩
      kept := fun _ member _ => member }

instance : IsTrans OrdersDatabase (Advances formats touched) where
  trans _ _ _ earlier later :=
    { unique := later.unique ∘ earlier.unique
      grows := fun row member => by
        obtain ⟨middle, middleMember, first⟩ := earlier.grows row member
        obtain ⟨last, lastMember, second⟩ := later.grows middle middleMember
        exact ⟨last, lastMember, first.trans second⟩
      kept := fun row member untouched =>
        later.kept row (earlier.kept row member untouched) untouched }

theorem advances_of_orders_eq (same : after.orders = before.orders) :
    Advances formats touched before after :=
  { unique := fun unique => by
      unfold ClientsUnique
      rw [same]
      exact unique
    grows := fun row member => ⟨row, by rw [same]; exact member, .refl row⟩
    kept := fun row member _ => by rw [same]; exact member }

theorem mem_rowsOfClient {client : String} {row : OrderRecord} :
    row ∈ before.rowsOfClient client ↔
      row ∈ before.orders.rows ∧ row.clientOrderId = client := by
  simp [OrdersDatabase.rowsOfClient]

theorem ClientsUnique.eq (unique : ClientsUnique before)
    {left right : OrderRecord} (leftMember : left ∈ before.orders.rows)
    (rightMember : right ∈ before.orders.rows)
    (same : left.clientOrderId = right.clientOrderId) : left = right :=
  List.inj_on_of_nodup_map unique leftMember rightMember same

theorem clientsUnique_save {record : OrderRecord}
    (unique : ClientsUnique before)
    (owner : ∀ row ∈ before.orders.rows,
      row.clientOrderId = record.clientOrderId → row.orderId = record.orderId) :
    ClientsUnique (before.save record) := by
  unfold ClientsUnique OrdersDatabase.save Table.insertOrReplace
  rw [List.map_append, List.map_singleton, List.nodup_append]
  refine ⟨?_, List.nodup_singleton _, ?_⟩
  · exact (List.Sublist.map _ List.filter_sublist).nodup unique
  · intro client member last lastMember equality
    obtain ⟨row, kept, rfl⟩ := List.mem_map.mp member
    rw [List.mem_singleton.mp lastMember] at equality
    obtain ⟨stored, different⟩ := List.mem_filter.mp kept
    simp [owner row stored equality] at different

theorem save_advances {record : OrderRecord}
    (owner : ClientsUnique before → ∀ row ∈ before.orders.rows,
      row.clientOrderId = record.clientOrderId → row.orderId = record.orderId)
    (replaced : ∀ row ∈ before.orders.rows, row.orderId = record.orderId →
      Grows formats row record ∧ touched row) :
    Advances formats touched before (before.save record) :=
  { unique := fun unique => clientsUnique_save unique (owner unique)
    grows := fun row member => by
      by_cases same : row.orderId = record.orderId
      · exact ⟨record, Table.mem_insertOrReplace.mpr (.inl rfl),
          (replaced row member same).1⟩
      · exact ⟨row, Table.mem_insertOrReplace.mpr (.inr ⟨member, same⟩),
          .refl row⟩
    kept := fun row member untouched =>
      Table.mem_insertOrReplace.mpr (.inr ⟨member, fun same =>
        untouched (replaced row member same).2⟩) }

theorem Grows.updateColumns {row record : OrderRecord}
    (grows : Grows formats row record) :
    Grows formats row (OrdersDatabase.updateColumns record row) :=
  { client := rfl
    filled := grows.filled
    frozen := fun terminal => by
      have same := grows.frozen terminal
      exact
        { status := same.status
          orderId := same.orderId
          symbol := same.symbol
          side := same.side
          quantity := same.quantity
          filledQuantity := same.filledQuantity
          averageFillPrice := same.averageFillPrice }
    intent := fun payload carried => by
      obtain ⟨kept, found, canonical, valid⟩ := grows.intent payload carried
      refine ⟨kept, found, canonical, fun admitted => ?_⟩
      obtain ⟨stored, intent, same, decoded, receipt⟩ := valid admitted
      exact ⟨stored, intent, same, decoded,
        { identity := ⟨grows.client ▸ receipt.identity.1, receipt.identity.2⟩
          side := receipt.side
          quantity := receipt.quantity
          filled := receipt.filled }⟩ }

theorem clientsUnique_update {record : OrderRecord}
    {orders : Table OrderRecord String OrderRecord.orderId}
    (updated : before.orders.update
      (fun row => decide (row.clientOrderId = record.clientOrderId))
      (OrdersDatabase.updateColumns record) = some orders)
    (unique : ClientsUnique before) :
    (orders.rows.map OrderRecord.clientOrderId).Nodup := by
  simp only [Table.update] at updated
  split at updated
  · obtain rfl := Option.some.inj updated
    rw [List.map_map]
    have clients : ∀ row ∈ before.orders.rows,
        (OrderRecord.clientOrderId ∘ fun row =>
          if decide (row.clientOrderId = record.clientOrderId) = true
          then OrdersDatabase.updateColumns record row else row) row =
          row.clientOrderId := by
      intro row _
      simp only [Function.comp_apply]
      split <;> rfl
    rw [List.map_congr_left clients]
    exact unique
  · simp at updated

/-- An upsert of a growing row advances the tables. -/
theorem upsert_advances {record : OrderRecord}
    (written : before.upsert record = .ok after)
    (updates : ∀ row ∈ before.orders.rows,
      row.clientOrderId = record.clientOrderId →
        Grows formats row record ∧ touched row)
    (inserts : InsertsFresh record before) :
    Advances formats touched before after := by
  unfold OrdersDatabase.upsert at written
  split at written
  · next fresh =>
      have absent : ∀ row ∈ before.orders.rows,
          row.clientOrderId ≠ record.clientOrderId := by
        intro row member same
        have found := mem_rowsOfClient.mpr ⟨member, same⟩
        rw [List.isEmpty_iff.mp fresh] at found
        simp at found
      obtain rfl := Except.ok.inj written
      apply save_advances
      · intro _ row member same
        exact absurd same (absent row member)
      · intro row member same
        exact absurd same (inserts absent row member)
  · split at written
    · next orders updated =>
        obtain rfl := Except.ok.inj written
        have rows : ∀ row, row ∈ orders.rows ↔ _ :=
          fun row => Table.mem_update updated
        refine
          { unique := clientsUnique_update updated
            grows := fun row member => ?_
            kept := fun row member untouched => ?_ }
        · by_cases same : row.clientOrderId = record.clientOrderId
          · refine ⟨OrdersDatabase.updateColumns record row, ?_,
              (updates row member same).1.updateColumns⟩
            exact (rows _).mpr ⟨row, member, by simp [same]⟩
          · exact ⟨row, (rows row).mpr ⟨row, member, by simp [same]⟩, .refl row⟩
        · have other : row.clientOrderId ≠ record.clientOrderId :=
            fun same => untouched (updates row member same).2
          exact (rows row).mpr ⟨row, member, by simp [other]⟩
    · simp at written

end Databases

/-- What the writers of a store are held to: the rows they may touch and the
database they started from. -/
structure Promise where
  context : OrdersContext
  touched : OrderRecord → Prop
  initial : OrdersDatabase

/-- The committed states of a store, and its open transaction, advance from
the initial database. -/
def Promise.Holds (promise : Promise) (store : OrdersStore) : Prop :=
  store.connection.Progresses
    (Advances promise.context.formats promise.touched) promise.initial

def Promise.Under (promise : Promise) (condition : OrdersDatabase → Prop)
    (store : OrdersStore) : Prop :=
  promise.Holds store ∧ condition store.database

def Promise.Kept {α : Type} (promise : Promise) (body : StoreTx α) : Prop :=
  Tx.Triple promise.Holds body (fun _ => promise.Holds)
    (fun _ => promise.Holds)

section Statements

variable {promise : Promise} {α β : Type}

theorem kept_pure (value : α) : promise.Kept (pure value) :=
  Tx.triple_pure fun _ sound => sound

theorem kept_raise (error : StoreError) :
    promise.Kept (Tx.raise error : StoreTx α) :=
  Tx.triple_raise fun _ sound => sound

theorem kept_view (query : OrdersStore → α) :
    promise.Kept (Tx.view query) :=
  Tx.triple_view fun _ sound => sound

theorem kept_read (query : OrdersStore → Except StoreError α) :
    promise.Kept (Tx.read query) :=
  Tx.triple_read (fun _ _ sound _ => sound) fun _ _ sound _ => sound

theorem kept_fetch (query : OrdersDatabase → α) :
    promise.Kept (OrdersStore.fetch query) :=
  kept_view _

theorem kept_require (condition : Prop) [Decidable condition]
    (error : StoreError) :
    promise.Kept (Tx.require condition error) :=
  Tx.triple_require (fun _ sound _ => sound) fun _ sound _ => sound

theorem kept_when {condition : Prop} [Decidable condition]
    {body : StoreTx Unit} (keeps : promise.Kept body) :
    promise.Kept (Tx.when condition body) := by
  unfold Tx.when
  split
  · exact keeps
  · exact kept_pure ()

theorem kept_bind {body : StoreTx α} {next : α → StoreTx β}
    (first : promise.Kept body)
    (second : ∀ value, promise.Kept (next value)) :
    promise.Kept (body >>= next) :=
  Tx.triple_bind _ first second

theorem kept_handle {body : StoreTx α} {handler : StoreError → StoreTx α}
    (guarded : promise.Kept body)
    (handled : ∀ error, promise.Kept (handler error)) :
    promise.Kept (Tx.handle body handler) :=
  Tx.triple_handle _ guarded handled

theorem kept_modify {change : OrdersStore → OrdersStore}
    (same : ∀ store, (change store).connection = store.connection) :
    promise.Kept (Tx.modify change) :=
  Tx.triple_modify fun store sound => by
    unfold Promise.Holds
    rw [same store]
    exact sound

theorem kept_commit : promise.Kept OrdersStore.commit :=
  Tx.triple_modify fun _ sound => Connection.Progresses.commit sound

theorem kept_rollback : promise.Kept OrdersStore.rollback :=
  Tx.triple_modify fun _ sound => Connection.Progresses.rollback sound

theorem under_of_kept {before : OrdersDatabase → Prop} {body : StoreTx α}
    (kept : promise.Kept body) :
    Tx.Triple (promise.Under before) body (fun _ => promise.Holds)
      (fun _ => promise.Holds) :=
  Tx.triple_consequence kept (fun _ holds => holds.1) (fun _ _ holds => holds)
    fun _ _ holds => holds

theorem kept_of_under {body : StoreTx α}
    (under : Tx.Triple (promise.Under fun _ => True) body
      (fun _ => promise.Holds) (fun _ => promise.Holds)) :
    promise.Kept body :=
  Tx.triple_consequence under (fun _ holds => ⟨holds, trivial⟩)
    (fun _ _ holds => holds) fun _ _ holds => holds

section Reading

variable {before : OrdersDatabase → Prop}

theorem under_select {query : OrdersDatabase → Except StoreError α} :
    Tx.Triple (promise.Under before) (OrdersStore.select query)
      (fun value => promise.Under fun database =>
        before database ∧ query database = .ok value)
      (fun _ => promise.Holds) :=
  Tx.triple_read (fun _ _ holds found => ⟨holds.1, holds.2, found⟩)
    fun _ _ holds _ => holds.1

theorem under_lift {outcome : Except StoreError α} :
    Tx.Triple (promise.Under before) (OrdersStore.lift outcome)
      (fun value => promise.Under fun database =>
        before database ∧ outcome = .ok value)
      (fun _ => promise.Holds) :=
  Tx.triple_read (fun _ _ holds found => ⟨holds.1, holds.2, found⟩)
    fun _ _ holds _ => holds.1

theorem under_fetch {query : OrdersDatabase → α} :
    Tx.Triple (promise.Under before) (OrdersStore.fetch query)
      (fun value => promise.Under fun database =>
        before database ∧ query database = value)
      (fun _ => promise.Holds) :=
  Tx.triple_view fun _ holds => ⟨holds.1, holds.2, rfl⟩

theorem under_flag {flag : OrdersStore → α} :
    Tx.Triple (promise.Under before) (Tx.view flag : StoreTx α)
      (fun _ => promise.Under before) (fun _ => promise.Holds) :=
  Tx.triple_view fun _ holds => holds

theorem under_require {condition : Prop} [Decidable condition]
    {error : StoreError} :
    Tx.Triple (promise.Under before) (Tx.require condition error)
      (fun _ => promise.Under fun database => before database ∧ condition)
      (fun _ => promise.Holds) :=
  Tx.triple_require (fun _ holds true => ⟨holds.1, holds.2, true⟩)
    fun _ holds _ => holds.1

theorem under_begin :
    Tx.Triple (promise.Under before) OrdersStore.begin
      (fun _ => promise.Under before) (fun _ => promise.Holds) := by
  apply Tx.triple_evolve
  · intro store reached holds opened
    split at opened
    · next connection begun =>
        obtain rfl := Except.ok.inj opened
        refine ⟨Connection.Progresses.begin holds.1 begun, ?_⟩
        have same := Connection.current_begin begun
        simp only [OrdersStore.database, same]
        exact holds.2
    · simp at opened
  · intro store error holds _
    exact holds.1

theorem under_write
    {change : OrdersDatabase → Except StoreError OrdersDatabase}
    (advances : ∀ database changed, before database →
      change database = .ok changed →
        Advances promise.context.formats promise.touched database changed) :
    Tx.Triple (promise.Under before) (OrdersStore.write change)
      (fun _ => promise.Holds) (fun _ => promise.Holds) := by
  apply Tx.triple_evolve
  · intro store reached holds written
    split at written
    · next changed outcome =>
        obtain rfl := Except.ok.inj written
        exact Connection.Progresses.write holds.1
          (advances store.database changed holds.2 outcome)
    · simp at written
  · intro store error holds _
    exact holds.1

theorem under_writeOther
    (condition : Table OrderRecord String OrderRecord.orderId → Prop)
    {change : OrdersDatabase → Except StoreError OrdersDatabase}
    (same : ∀ database changed, change database = .ok changed →
      changed.orders = database.orders)
    (orders : ∀ database, before database → condition database.orders) :
    Tx.Triple (promise.Under before) (OrdersStore.write change)
      (fun _ => promise.Under fun database => condition database.orders)
      (fun _ => promise.Holds) := by
  apply Tx.triple_evolve
  · intro store reached holds written
    split at written
    · next changed outcome =>
        obtain rfl := Except.ok.inj written
        have kept := same store.database changed outcome
        refine ⟨Connection.Progresses.write holds.1
          (advances_of_orders_eq kept), ?_⟩
        simp only [OrdersStore.database, Connection.current_write]
        rw [kept]
        exact orders store.database holds.2
    · simp at written
  · intro store error holds _
    exact holds.1

end Reading

theorem kept_begin : promise.Kept OrdersStore.begin :=
  kept_of_under (Tx.triple_consequence under_begin (fun _ holds => holds)
    (fun _ _ holds => holds.1) fun _ _ holds => holds)

theorem kept_enterTransaction (writing : Bool) :
    promise.Kept (OrdersStore.enterTransaction writing) := by
  unfold OrdersStore.enterTransaction
  refine kept_bind (kept_view _) fun depth => ?_
  split
  · refine kept_bind
      (kept_handle kept_begin fun _ => kept_raise _)
      fun _ => ?_
    refine kept_bind (kept_fetch _) fun versions => ?_
    split
    · exact kept_modify fun _ => rfl
    · exact kept_bind kept_rollback fun _ => kept_raise _
  · refine kept_bind (kept_view _) fun writable => ?_
    refine kept_bind (kept_require _ _) fun _ => ?_
    exact kept_modify fun _ => rfl

theorem kept_leaveTransaction :
    promise.Kept OrdersStore.leaveTransaction := by
  unfold OrdersStore.leaveTransaction
  refine kept_bind (kept_view _) fun depth => ?_
  refine kept_bind (kept_when kept_commit) fun _ => ?_
  exact kept_modify fun _ => rfl

theorem kept_abandonTransaction (error : StoreError) :
    promise.Kept (OrdersStore.abandonTransaction error : StoreTx α) := by
  unfold OrdersStore.abandonTransaction
  refine kept_bind (kept_view _) fun depth => ?_
  refine kept_bind (kept_when kept_rollback) fun _ => ?_
  exact kept_bind (kept_modify fun _ => rfl) fun _ => kept_raise _

theorem kept_transaction {writing : Bool} {body : StoreTx α}
    (keeps : promise.Kept body) :
    promise.Kept (OrdersStore.transaction writing body) := by
  unfold OrdersStore.transaction
  refine kept_bind (kept_enterTransaction writing) fun _ => ?_
  refine kept_bind
    (kept_handle keeps kept_abandonTransaction) fun value => ?_
  exact kept_bind kept_leaveTransaction fun _ =>
    kept_pure value

end Statements

section Writers

variable {formats : TextFormats} {context : OrdersContext}
variable {promise : Promise} {database : OrdersDatabase}

theorem Grows.ofRow {row grown : OrderRecord}
    (grows : Grows formats (OrderRecord.ofRow row) grown) :
    Grows formats row grown :=
  { client := grows.client
    filled := grows.filled
    frozen := fun terminal => by
      have same := grows.frozen terminal
      exact
        { status := same.status
          orderId := same.orderId
          symbol := same.symbol
          side := same.side
          quantity := same.quantity
          filledQuantity := same.filledQuantity
          averageFillPrice := same.averageFillPrice }
    intent := fun payload carried => by
      obtain ⟨kept, found, canonical, valid⟩ := grows.intent payload carried
      refine ⟨kept, found, canonical, fun admitted => valid ?_⟩
      obtain ⟨stored, intent, same, decoded, receipt⟩ := admitted
      exact ⟨stored, intent, same, decoded,
        { identity := receipt.identity
          side := receipt.side
          quantity := receipt.quantity
          filled := receipt.filled }⟩ }

theorem clientRow_eq_none {client : String}
    (found : database.clientRow client = .ok none) :
    database.rowsOfClient client = [] := by
  unfold OrdersDatabase.clientRow at found
  split at found <;> simp_all

theorem clientRow_eq_some {client : String} {record : OrderRecord}
    (found : database.clientRow client = .ok (some record)) :
    ∃ row, database.rowsOfClient client = [row] ∧
      record = OrderRecord.ofRow row := by
  unfold OrdersDatabase.clientRow at found
  split at found
  · simp at found
  · next row single =>
      exact ⟨row, single, by simpa using found.symm⟩
  · simp at found

theorem getOrderByClientOrderId_eq_none {client : String}
    (found : database.getOrderByClientOrderId context client = .ok none) :
    database.rowsOfClient client = [] := by
  obtain ⟨row, located, checked⟩ := Outcome.bind_eq_ok.mp found
  cases row with
  | none => exact clientRow_eq_none located
  | some record =>
      simp only [Outcome.branch_eq_ok] at checked
      simp at checked

theorem getOrderByClientOrderId_eq_some {client : String}
    {record : OrderRecord}
    (found : database.getOrderByClientOrderId context client =
      .ok (some record)) :
    ∃ row, database.rowsOfClient client = [row] ∧
      record = OrderRecord.ofRow row := by
  obtain ⟨row, located, checked⟩ := Outcome.bind_eq_ok.mp found
  cases row with
  | none => simp at checked
  | some record =>
      simp only [Outcome.branch_eq_ok, Except.ok.injEq,
        Option.some.injEq] at checked
      obtain ⟨_, rfl⟩ := checked
      exact clientRow_eq_some located

theorem preserveIntent_identity {existing order updated : OrderRecord}
    (accepted : preserveIntent context existing order = .ok updated) :
    updated.clientOrderId = order.clientOrderId ∧
      updated.orderId = order.orderId := by
  rw [keepIntent_frame (preserveIntent_eq_ok accepted).1]
  exact ⟨rfl, rfl⟩

/-- What an upsert writes after reading the client's row. -/
structure UpsertRead (promise : Promise) (order : OrderRecord)
    (existing : Option OrderRecord) (updated : OrderRecord)
    (database : OrdersDatabase) : Prop where
  admits : Admits promise.touched order database
  found : database.getOrderByClientOrderId promise.context
    order.clientOrderId = .ok existing
  accepted : OrdersStore.updatedOrder promise.context existing order =
    .ok updated

theorem UpsertRead.advances {order updated : OrderRecord}
    {existing : Option OrderRecord} {changed : OrdersDatabase}
    {checksum : String}
    (reading : UpsertRead promise order existing updated database)
    (written : database.upsert (updated.stored checksum) = .ok changed) :
    Advances promise.context.formats promise.touched database changed := by
  have found := reading.found
  have accepted := reading.accepted
  cases existing with
  | none =>
      obtain rfl : order = updated := by
        simpa [OrdersStore.updatedOrder] using accepted
      have absent : ∀ row ∈ database.orders.rows,
          row.clientOrderId ≠ order.clientOrderId := by
        intro row member same
        have listed := mem_rowsOfClient.mpr ⟨member, same⟩
        rw [getOrderByClientOrderId_eq_none found] at listed
        simp at listed
      apply upsert_advances written
      · intro row member same
        exact absurd same (absent row member)
      · intro _ row member
        rcases reading.admits with ⟨known, knownMember, same, _⟩ | fresh
        · exact absurd same (absent known knownMember)
        · exact (fresh row member).2
  | some existing =>
      obtain ⟨row, single, rfl⟩ := getOrderByClientOrderId_eq_some found
      have only : ∀ other ∈ database.orders.rows,
          other.clientOrderId = order.clientOrderId → other = row := by
        intro other member same
        have listed := mem_rowsOfClient.mpr ⟨member, same⟩
        rwa [single, List.mem_singleton] at listed
      have owned : row ∈ database.orders.rows ∧
          row.clientOrderId = order.clientOrderId :=
        mem_rowsOfClient.mp (by rw [single]; exact List.mem_singleton_self row)
      have touched : promise.touched row := by
        rcases reading.admits with ⟨known, knownMember, same, touches⟩ | fresh
        · rwa [← only known knownMember same]
        · exact absurd owned.2 (fresh row owned.1).1
      obtain ⟨client, identifier⟩ := preserveIntent_identity accepted
      apply upsert_advances written
      · intro other member same
        rw [only other member (same.trans client)]
        have sameClient : order.clientOrderId =
            (OrderRecord.ofRow row).clientOrderId := owned.2.symm
        exact ⟨(preserveIntent_grows sameClient accepted checksum).ofRow,
          touched⟩
      · intro absent
        exact absurd (owned.2.trans client.symm) (absent row owned.1)

theorem under_upsertStatements (order : OrderRecord) :
    Tx.Triple (promise.Under (Admits promise.touched order))
      (OrdersStore.upsertStatements promise.context order)
      (fun _ => promise.Holds) (fun _ => promise.Holds) := by
  unfold OrdersStore.upsertStatements
  refine Tx.triple_bind _ under_select fun existing => ?_
  refine Tx.triple_bind _ under_lift fun updated => ?_
  refine Tx.triple_bind _ under_lift fun checksum => ?_
  refine under_write fun database changed holds written => ?_
  obtain ⟨⟨⟨admits, found⟩, accepted⟩, _⟩ := holds
  have reading : UpsertRead promise order existing updated database :=
    { admits := admits, found := found, accepted := accepted }
  exact reading.advances written

theorem under_upsertByClientId (order : OrderRecord) (raiseOnError : Bool) :
    Tx.Triple (promise.Under (Admits promise.touched order))
      (OrdersStore.upsertByClientId promise.context order raiseOnError)
      (fun _ => promise.Holds) (fun _ => promise.Holds) := by
  unfold OrdersStore.upsertByClientId
  refine Tx.triple_handle (fun _ => promise.Holds) ?_ fun error => ?_
  · refine Tx.triple_bind _ ?_ fun _ => kept_pure _
    unfold OrdersStore.upsertOwned
    refine Tx.triple_bind _ under_flag fun depth => ?_
    split
    · refine Tx.triple_bind _ under_begin fun _ => ?_
      exact Tx.triple_bind _ (under_upsertStatements order) fun _ => kept_commit
    · refine Tx.triple_bind _ under_flag fun writable => ?_
      refine Tx.triple_bind _ under_require fun _ => ?_
      refine Tx.triple_consequence (under_upsertStatements order) ?_
        (fun _ _ holds => holds) fun _ _ holds => holds
      exact fun _ holds => ⟨holds.1, holds.2.1⟩
  · unfold OrdersStore.upsertFailed
    refine kept_bind kept_rollback fun _ => ?_
    split
    · split
      · exact kept_raise _
      · exact kept_pure _
    · exact kept_raise _

theorem getOrder_eq_some {orderId : String} {record : OrderRecord}
    (found : database.getOrder orderId = some record) :
    ∃ row ∈ database.orders.rows, row.orderId = orderId ∧
      record = OrderRecord.ofRow row := by
  obtain ⟨row, located, rfl⟩ := Option.map_eq_some_iff.mp found
  obtain ⟨member, identifier⟩ := Table.find?_eq_some_iff.mp located
  exact ⟨row, member, identifier, rfl⟩

theorem under_saveOrder {record : OrderRecord}
    {before : OrdersDatabase → Prop}
    (advances : ∀ database checksum, before database →
      Advances promise.context.formats promise.touched database
        (database.save (record.stored checksum))) :
    Tx.Triple (promise.Under before)
      (OrdersStore.saveOrder promise.context record)
      (fun _ => promise.Holds) (fun _ => promise.Holds) := by
  unfold OrdersStore.saveOrder
  refine Tx.triple_bind _ under_lift fun checksum => ?_
  refine under_write fun database changed holds written => ?_
  obtain rfl := Except.ok.inj written
  exact advances database checksum holds.1

theorem kept_reserveSubmission (order : OrderRecord) :
    promise.Kept (OrdersStore.reserveSubmission promise.context order) := by
  unfold OrdersStore.reserveSubmission
  refine kept_bind kept_begin fun _ => ?_
  refine kept_handle ?_ fun error =>
    kept_bind kept_rollback fun _ => kept_raise _
  refine kept_of_under (Tx.triple_bind _ under_select fun existing => ?_)
  cases existing with
  | none =>
      refine Tx.triple_bind _ under_fetch fun taken => ?_
      refine Tx.triple_bind _ under_require fun _ => ?_
      refine Tx.triple_bind _ ?_ fun _ =>
        kept_bind kept_commit fun _ => kept_pure _
      refine under_saveOrder fun database checksum holds => ?_
      obtain ⟨⟨⟨_, unclaimed⟩, untaken⟩, absent⟩ := holds
      rw [← untaken, Option.isNone_iff_eq_none] at absent
      apply save_advances
      · intro _ row member same
        have listed := mem_rowsOfClient.mpr ⟨member, same⟩
        rw [OrderRecord.stored, clientRow_eq_none unclaimed] at listed
        simp at listed
      · intro row member same
        have free := Option.map_eq_none_iff.mp absent
        exact absurd same (Table.find?_eq_none_iff.mp free row member)
  | some existing =>
      refine Tx.triple_bind _ under_require fun _ => ?_
      exact under_of_kept (kept_bind kept_commit fun _ => kept_pure _)

theorem kept_statusStatements {orderId : String}
    {change : OrderRecord → OrderRecord}
    (identified : ∀ record,
      (change record).clientOrderId = record.clientOrderId ∧
        (change record).orderId = record.orderId)
    (touches : ∀ row, row.orderId = orderId → promise.touched row) :
    promise.Kept
      (OrdersStore.statusStatements promise.context orderId change) := by
  unfold OrdersStore.statusStatements
  refine kept_of_under (Tx.triple_bind _ under_fetch fun original => ?_)
  cases original with
  | none => exact under_of_kept (kept_pure ())
  | some original =>
      refine Tx.triple_bind _ under_require fun _ => ?_
      refine Tx.triple_bind _ under_lift fun updated => ?_
      refine under_saveOrder fun database checksum holds => ?_
      obtain ⟨⟨⟨_, found⟩, _⟩, accepted⟩ := holds
      obtain ⟨row, member, rowId, rfl⟩ := getOrder_eq_some found
      obtain ⟨client, identifier⟩ := preserveIntent_identity accepted
      have sameClient := client.trans (identified _).1
      have sameOrder := identifier.trans (identified _).2
      apply save_advances
      · intro unique other otherMember same
        rw [unique.eq otherMember member (same.trans sameClient)]
        exact sameOrder.symm
      · intro other otherMember same
        rw [database.orders.eq_of_key_eq otherMember member
          (same.trans sameOrder)]
        exact ⟨(preserveIntent_grows (identified _).1 accepted checksum).ofRow,
          touches row rowId⟩

theorem kept_updateStatus {orderId : String} (status : OrderStatus)
    (filledQuantity averageFillPrice : Option Decimal) (now : DateTime)
    (touches : ∀ row, row.orderId = orderId → promise.touched row) :
    promise.Kept
      (OrdersStore.updateStatus promise.context orderId status filledQuantity
        averageFillPrice now) := by
  unfold OrdersStore.updateStatus
  refine kept_handle ?_ fun error => ?_
  · refine kept_bind kept_begin fun _ => ?_
    refine kept_bind
      (kept_statusStatements (fun _ => ⟨rfl, rfl⟩) touches) fun _ => ?_
    exact kept_bind kept_commit fun _ => kept_pure _
  · refine kept_bind kept_rollback fun _ => ?_
    split
    · exact kept_pure _
    · exact kept_raise _

def Listed (touched : OrderRecord → Prop) (existing : Option OrderRecord)
    (orders : Table OrderRecord String OrderRecord.orderId) : Prop :=
  ∀ record ∈ existing, ∃ row ∈ orders.rows,
    row.clientOrderId = record.clientOrderId ∧ touched row

/-- The fill names the row. -/
def NamedBy (fact : FillFact) (row : OrderRecord) : Prop :=
  row.orderId = fact.orderId ∨
    (fact.clientOrderId ≠ "" ∧ row.clientOrderId = fact.clientOrderId)

theorem fillOrder_eq_some {context : OrdersContext} {fact : FillFact}
    {record : OrderRecord}
    (found : database.fillOrder context fact = .ok (some record)) :
    ∃ row ∈ database.orders.rows, NamedBy fact row ∧
      record = OrderRecord.ofRow row := by
  unfold OrdersDatabase.fillOrder at found
  split at found
  · next stored located =>
      obtain rfl : stored = record := by simpa using found
      obtain ⟨row, member, named, rfl⟩ := getOrder_eq_some located
      exact ⟨row, member, .inl named, rfl⟩
  · split at found
    · simp at found
    · next given =>
        obtain ⟨row, single, rfl⟩ := getOrderByClientOrderId_eq_some found
        have member : row ∈ database.rowsOfClient fact.clientOrderId := by
          rw [single]
          exact List.mem_singleton_self row
        obtain ⟨stored, named⟩ := mem_rowsOfClient.mp member
        exact ⟨row, stored, .inr ⟨given, named⟩, rfl⟩

theorem listed_fillOrder {context : OrdersContext} {fact : FillFact}
    {touched : OrderRecord → Prop} {existing : Option OrderRecord}
    (touches : ∀ row, NamedBy fact row → touched row)
    (found : database.fillOrder context fact = .ok existing) :
    Listed touched existing database.orders := by
  intro record present
  obtain rfl := Option.mem_def.mp present
  obtain ⟨row, stored, named, rfl⟩ := fillOrder_eq_some found
  exact ⟨row, stored, rfl, touches row named⟩

theorem under_applyFills {existing : OrderRecord} {fact : FillFact}
    {quantity notional : ℚ} {now : DateTime} :
    Tx.Triple
      (promise.Under fun database =>
        Listed promise.touched (some existing) database.orders)
      (OrdersStore.applyFills promise.context existing fact quantity notional
        now)
      (fun _ => promise.Holds) (fun _ => promise.Holds) := by
  unfold OrdersStore.applyFills
  refine Tx.triple_bind _ under_lift fun advanced => ?_
  split
  · refine Tx.triple_bind _ under_require fun _ => ?_
    refine Tx.triple_bind _ under_lift fun complete => ?_
    refine Tx.triple_bind _ ?_ fun _ => kept_pure ()
    refine Tx.triple_consequence (under_upsertByClientId _ true) ?_
      (fun _ _ holds => holds) fun _ _ holds => holds
    rintro store ⟨holds, ⟨⟨listed, _⟩, _⟩, _⟩
    obtain ⟨row, member, same, touched⟩ := listed existing rfl
    exact ⟨holds, .inl ⟨row, member, same, touched⟩⟩
  · exact under_of_kept (kept_pure ())

theorem insertFact_orders {fact : FillFact} {changed : OrdersDatabase}
    (written : database.insertFact fact = .ok changed) :
    changed.orders = database.orders := by
  unfold OrdersDatabase.insertFact at written
  split at written
  · simp at written
  · obtain rfl := Except.ok.inj written
    rfl

theorem kept_recordFillBody {fact : FillFact} {now : DateTime}
    (touches : ∀ row, NamedBy fact row → promise.touched row) :
    promise.Kept (OrdersStore.recordFillBody promise.context fact now) := by
  unfold OrdersStore.recordFillBody
  refine kept_of_under (Tx.triple_bind _ under_select fun existing => ?_)
  refine Tx.triple_bind _ under_lift fun _ => ?_
  refine Tx.triple_bind _ under_select fun facts => ?_
  split
  · refine Tx.triple_bind _ under_require fun _ => ?_
    exact under_of_kept (kept_pure _)
  · refine Tx.triple_bind _ under_select fun _ => ?_
    refine Tx.triple_bind _ under_require fun _ => ?_
    refine Tx.triple_bind _ under_lift fun _ => ?_
    refine Tx.triple_bind _
      (under_writeOther (Listed promise.touched existing)
        (fun _ _ => insertFact_orders) ?_) fun _ => ?_
    · rintro database ⟨⟨⟨⟨⟨⟨_, found⟩, _⟩, _⟩, _⟩, _⟩, _⟩
      exact listed_fillOrder touches found
    · cases existing with
      | none => exact under_of_kept (kept_pure _)
      | some existing =>
          exact Tx.triple_bind _ under_applyFills fun _ => kept_pure _

theorem kept_recordFill {fact : FillFact} (now : DateTime)
    (touches : ∀ row, NamedBy fact row → promise.touched row) :
    promise.Kept (OrdersStore.recordFill promise.context fact now) := by
  unfold OrdersStore.recordFill
  refine kept_bind (kept_read _) fun _ => ?_
  exact kept_transaction (kept_recordFillBody touches)

end Writers

end GptTrader
