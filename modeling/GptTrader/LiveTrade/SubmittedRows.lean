import GptTrader.LiveTrade.SubmissionSessions
import GptTrader.Persistence.StoreWriters

/-!
# The row of a submission

Reserving an identifier inserts its only row, with the intent; writing the
outcome changes that row and keeps the intent, of which every stored row is a
receipt.
-/

namespace GptTrader

variable {context : OrdersContext} {database : OrdersDatabase}
variable {submitId : String}

/-! ## Stored intents -/

theorem OrderSide.parse_value (side : OrderSide) :
    OrderSide.parse side.value = .ok side := by
  cases side <;> rfl

theorem OrderType.parse_value (type : OrderType) :
    OrderType.parse type.value = .ok type := by
  cases type <;> rfl

theorem optionalDecimal_show (formats : TextFormats) (value : Option ℚ) :
    OrderIntent.optionalDecimal formats ((value.map fun value =>
        Json.str (formats.showDecimal (.finite value))).getD .null) =
      .ok (value.map .finite) := by
  cases value with
  | none => rfl
  | some value =>
      change (formats.toDecimal (.str _)).map some = _
      unfold TextFormats.toDecimal
      dsimp only
      rw [formats.parseDecimal_show]
      rfl

theorem positiveDecimal_finite {value : ℚ} (positive : 0 < value) :
    OrderIntent.positiveDecimal (.finite value) = .ok ⟨value, positive⟩ := by
  unfold OrderIntent.positiveDecimal
  dsimp only
  rw [dif_pos positive]

theorem positivePrice_finite {price : Option ℚ}
    (positive : ∀ value ∈ price, 0 < value) :
    OrderIntent.positivePrice (price.map .finite) = .ok ⟨price, positive⟩ := by
  cases price with
  | none => rfl
  | some value =>
      unfold OrderIntent.positivePrice
      dsimp only [Option.map_some]
      rw [positiveDecimal_finite (positive value rfl)]
      rfl

theorem make_intent {intent : OrderIntent}
    (plain : intent.positionOperation = none) :
    OrderIntent.make intent.clientOrderId intent.symbol intent.side
      intent.orderType (.finite intent.quantity) (intent.price.map .finite)
      (intent.stopPrice.map .finite) intent.tif intent.reduceOnly
      intent.leverage none = .ok intent := by
  unfold OrderIntent.make
  rw [dif_pos intent.identified, positiveDecimal_finite intent.positive]
  dsimp only [bind, Except.bind]
  rw [dif_pos (fun some => nomatch some),
    positivePrice_finite intent.pricesPositive.1,
    positivePrice_finite intent.pricesPositive.2]
  cases intent
  cases plain
  rfl

theorem fromDict_toDict {formats : TextFormats} (maps : formats.MapsAscii)
    {intent : OrderIntent} (plain : intent.positionOperation = none) :
    OrderIntent.fromDict formats (intent.toDict formats) = .ok intent := by
  have side : OrderIntent.upperText formats
      (.str (formats.lower intent.side.value)) = .ok intent.side.value :=
    congrArg Except.ok (maps.upper_lower_side intent.side)
  have type : OrderIntent.upperText formats
      (.str (formats.lower intent.orderType.value)) =
        .ok intent.orderType.value :=
    congrArg Except.ok (maps.upper_lower_type intent.orderType)
  have quantity : formats.toDecimal
      (.str (formats.showDecimal (.finite intent.quantity))) =
        .ok (.finite intent.quantity) := by
    unfold TextFormats.toDecimal
    dsimp only
    rw [formats.parseDecimal_show]
  have price := optionalDecimal_show formats intent.price
  have stopPrice := optionalDecimal_show formats intent.stopPrice
  unfold OrderIntent.toDict OrderIntent.fromDict
  rw [plain]
  simp [Json.getItem, Json.getD, Json.field?, bind, Except.bind, side, type,
    quantity, price, stopPrice]
  rw [OrderSide.parse_value, OrderType.parse_value]
  dsimp only [OrderIntent.stripText]
  rw [intent.identified.1, intent.identified.2,
    positiveDecimal_finite intent.positive]
  exact make_intent plain

/-! ## Calls of the store -/

/-- A reservation inserts the record of an identifier without rows, or changes
nothing. -/
theorem reserve_cases (context : OrdersContext) (record : OrderRecord)
    (database : OrdersDatabase) :
    (∃ checksum,
      database.rowsOfClient record.clientOrderId = [] ∧
      database.getOrder record.orderId = none ∧
      committed (OrdersStore.reserveSubmission context record) database =
        (.ok none, database.save (record.stored checksum))) ∨
    ∃ reply,
      committed (OrdersStore.reserveSubmission context record) database =
        (reply, database) ∧
      reply ≠ .ok none ∧
      ∀ found, reply = .ok (some found) →
        ∃ row, database.rowsOfClient record.clientOrderId = [row] ∧
          found = OrderRecord.ofRow row := by
  let begun : OrdersStore :=
    { OrdersStore.fresh database with
      connection :=
        { committed := database, earlier := [], working := some database } }
  have begins : OrdersStore.begin (.fresh database) = (.ok (), begun) := rfl
  have current : begun.database = database := rfl
  have undone : begun.connection.rollback = .idle database := rfl
  unfold committed
  cases located : database.clientRow record.clientOrderId with
  | error error =>
      refine .inr ⟨.error error, ?_, by simp, by simp⟩
      simp [OrdersStore.reserveSubmission, OrdersStore.select,
        OrdersStore.rollback, Tx.handle, Tx.bind_apply, begins, current,
        located, undone]
      rfl
  | ok found =>
      cases found with
      | none =>
          cases taken : database.getOrder record.orderId with
          | some other =>
              refine .inr ⟨.error (.write
                "Order ID already belongs to another client identity"), ?_,
                by simp, by simp⟩
              simp [OrdersStore.reserveSubmission, OrdersStore.select,
                OrdersStore.fetch, OrdersStore.rollback, Tx.handle, Tx.require,
                Tx.bind_apply, begins, current, located, taken, undone]
              rfl
          | none =>
              cases computed : record.computeChecksum context with
              | error error =>
                  refine .inr ⟨.error error, ?_, by simp, by simp⟩
                  simp [OrdersStore.reserveSubmission, OrdersStore.select,
                    OrdersStore.fetch, OrdersStore.rollback,
                    OrdersStore.saveOrder, OrdersStore.lift, Tx.handle,
                    Tx.require, Tx.bind_apply, begins, current, located, taken,
                    computed, undone]
                  rfl
              | ok checksum =>
                  refine .inl ⟨checksum, clientRow_eq_none located, rfl, ?_⟩
                  simp [OrdersStore.reserveSubmission, OrdersStore.select,
                    OrdersStore.fetch, OrdersStore.saveOrder, OrdersStore.lift,
                    OrdersStore.write, Tx.handle, Tx.require, Tx.evolve,
                    Tx.bind_apply, begins, current, located, taken, computed,
                    OrdersStore.commit]
                  rfl
      | some existing =>
          by_cases valid : existing.checksumIsValid context = true
          · refine .inr ⟨.ok (some existing), ?_, by simp, ?_⟩
            · simp [OrdersStore.reserveSubmission, OrdersStore.select,
                Tx.handle, Tx.require, Tx.bind_apply, begins, current, located,
                valid, OrdersStore.commit]
              rfl
            · intro other same
              cases same
              exact clientRow_eq_some located
          · refine .inr ⟨.error (.write "Existing order checksum mismatch"), ?_,
              by simp, by simp⟩
            simp [OrdersStore.reserveSubmission, OrdersStore.select,
              OrdersStore.rollback, Tx.handle, Tx.require, Tx.bind_apply,
              begins, current, located, valid, undone]
            rfl

theorem persist_ok {record : OrderRecord} {changed : OrdersDatabase}
    (result : upsertResult context record database = .ok changed) :
    committed (OrdersStore.upsertByClientId context record true) database =
      (.ok .ok, changed) := by
  unfold committed
  rw [upsertByClientId_commits (idle_fresh database) result]
  rfl

theorem persist_error {record : OrderRecord} {error : StoreError}
    (result : upsertResult context record database = .error error) :
    ∃ thrown,
      committed (OrdersStore.upsertByClientId context record true) database =
        (.error thrown, database) := by
  obtain ⟨thrown, raised⟩ :=
    upsertByClientId_raises (idle_fresh database) result
  exact ⟨thrown, Prod.ext raised
    (upsertByClientId_unchanged (idle_fresh database) result)⟩

/-! ## The row -/

theorem rowsOfClient_save {record : OrderRecord}
    (absent : database.rowsOfClient record.clientOrderId = []) :
    (database.save record).rowsOfClient record.clientOrderId = [record] := by
  have others : (database.orders.rows.filter fun old =>
      decide (old.orderId ≠ record.orderId)).filter (fun old =>
        decide (old.clientOrderId = record.clientOrderId)) = [] := by
    rw [List.filter_filter, List.filter_eq_nil_iff]
    intro old stored selected
    rw [OrdersDatabase.rowsOfClient, List.filter_eq_nil_iff] at absent
    rw [Bool.and_eq_true] at selected
    exact absent old stored selected.1
  unfold OrdersDatabase.save OrdersDatabase.rowsOfClient Table.insertOrReplace
  dsimp only
  rw [List.filter_append, others]
  simp

theorem rowsOfClient_upsert {record row : OrderRecord}
    {changed : OrdersDatabase}
    (single : database.rowsOfClient record.clientOrderId = [row])
    (written : database.upsert record = .ok changed) :
    changed.rowsOfClient record.clientOrderId =
      [OrdersDatabase.updateColumns record row] := by
  have client : row.clientOrderId = record.clientOrderId := by
    have member : row ∈ database.rowsOfClient record.clientOrderId := by
      rw [single]
      exact List.mem_singleton_self row
    exact (mem_rowsOfClient.mp member).2
  unfold OrdersDatabase.upsert Table.update at written
  rw [single] at written
  simp only [List.isEmpty_cons, Bool.false_eq_true, if_false] at written
  split at written
  · next orders updated =>
      split at updated
      · cases updated
        cases written
        unfold OrdersDatabase.rowsOfClient at single ⊢
        have same : ((fun old : OrderRecord =>
            decide (old.clientOrderId = record.clientOrderId)) ∘ fun old =>
              if decide (old.clientOrderId = record.clientOrderId) = true then
                OrdersDatabase.updateColumns record old
              else old) =
            fun old => decide (old.clientOrderId = record.clientOrderId) := by
          funext old
          simp only [Function.comp_apply]
          split <;> rfl
        dsimp only
        rw [List.filter_map, same, single]
        simp [client]
      · cases updated
  · cases written

theorem intent?_keepIntent {existing order updated : OrderRecord}
    {payload : Json} (carried : existing.intent? = some payload)
    (repeated : ∀ given, order.intent? = some given → given = payload)
    (accepted : keepIntent context existing order = .ok updated) :
    updated.intent? = some payload := by
  unfold keepIntent at accepted
  rw [OrderRecord.intent?] at carried
  rw [carried] at accepted
  simp only [Outcome.bind_eq_ok] at accepted
  obtain ⟨_, _, _, _, _, _, _, _, _, _, _, _, returned⟩ := accepted
  cases returned
  change (existing.facts.merge order.facts).get? "intent" = some payload
  rw [Dict.get?_merge]
  cases given : order.facts.get? "intent" with
  | none => simpa using carried
  | some other => rw [repeated other given, Option.some_or]

theorem upsertResult_row {record row : OrderRecord} {changed : OrdersDatabase}
    (single : database.rowsOfClient submitId = [row])
    (client : record.clientOrderId = submitId)
    (result : upsertResult context record database = .ok changed) :
    ∃ updated checksum,
      preserveIntent context (.ofRow row) record = .ok updated ∧
      changed.rowsOfClient submitId =
        [OrdersDatabase.updateColumns (updated.stored checksum) row] := by
  subst client
  simp only [upsertResult, Outcome.bind_eq_ok] at result
  obtain ⟨existing, found, updated, accepted, checksum, _, written⟩ := result
  cases existing with
  | none =>
      rw [getOrderByClientOrderId_eq_none found] at single
      cases single
  | some existing =>
      obtain ⟨other, alone, rfl⟩ := getOrderByClientOrderId_eq_some found
      rw [single] at alone
      cases alone
      have named : (updated.stored checksum).clientOrderId =
          record.clientOrderId := (preserveIntent_identity accepted).1
      rw [← named] at single ⊢
      exact ⟨updated, checksum, accepted, rowsOfClient_upsert single written⟩

variable (context) in
theorem persist_keeps {record row : OrderRecord} {payload : Json}
    (single : database.rowsOfClient submitId = [row])
    (carried : row.intent? = some payload)
    (client : record.clientOrderId = submitId)
    (repeated : ∀ given, record.intent? = some given → given = payload) :
    ∃ kept, (committed (OrdersStore.upsertByClientId context record true)
        database).2.rowsOfClient submitId = [kept] ∧
      kept.intent? = some payload := by
  match result : upsertResult context record database with
  | .error error =>
      obtain ⟨thrown, refused⟩ := persist_error result
      rw [refused]
      exact ⟨row, single, carried⟩
  | .ok changed =>
      obtain ⟨updated, checksum, accepted, alone⟩ :=
        upsertResult_row single client result
      have intent : updated.intent? = some payload :=
        intent?_keepIntent carried repeated (preserveIntent_eq_ok accepted).1
      rw [persist_ok result]
      refine ⟨_, alone, ?_⟩
      change (updated.stored checksum).intent? = some payload
      unfold OrderRecord.intent?
      rw [facts_stored]
      exact intent

end GptTrader
