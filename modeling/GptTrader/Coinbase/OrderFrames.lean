import GptTrader.Coinbase.UserEventHandler
import GptTrader.Persistence.StoreWriters

/-!
# Whose rows a call touches

A call of the orders store or of the event handler names orders by client
identifier, by order identifier, or both.  `FramesOthers` says that rows it does
not name stay as they are and that no admitted intent is lost.  The writers as
functions on the database decide exactly when that holds: a call breaks it when
it inserts a record whose order identifier another client's row has.
-/

namespace GptTrader

variable {context : OrdersContext} {store : OrdersStore}
variable {database changed : OrdersDatabase} {order : OrderRecord}

section Writers

def persistResult (context : OrdersContext) (record : OrderRecord)
    (database : OrdersDatabase) : Except StoreError OrdersDatabase := do
  let changed ← upsertResult context record database
  observeResult context record "ws_user_event" changed

theorem acts_persistStatements (context : OrdersContext)
    (record : OrderRecord) :
    ActsAs (UserEventHandler.persistStatements context record)
      fun database => (persistResult context record database).map
        fun changed => ((), changed) := by
  refine ActsAs.congr
    (acts_bind _ (acts_upsertByClientId context record) fun _ =>
      acts_recordObservation context record "ws_user_event")
    fun database => ?_
  unfold persistResult
  match upsertResult context record database with
  | .ok changed => rfl
  | .error error => rfl

def applied (context : OrdersContext) (database : OrdersDatabase) :
    UserEventHandler.FillUpdate → Except StoreError (Decimal × OrdersDatabase)
  | .ignored => .ok (.finite 0, database)
  | .observed record =>
      (observeResult context record "websocket" database).map
        fun changed => (.finite 0, changed)
  | .advanced record delta =>
      (persistResult context record database).map fun changed =>
        (delta, changed)

def fillResult (context : OrdersContext) (botId : String) (event : FillEvent)
    (now : DateTime) (database : OrdersDatabase) :
    Except StoreError (Decimal × OrdersDatabase) :=
  if UserEventHandler.identified event.orderId event.clientOrderId then do
    let existing ← UserEventHandler.fillContext context database event
    let update ← UserEventHandler.fillUpdate context botId event now existing
    applied context database update
  else .ok (.finite 0, database)

theorem acts_updateOrdersForFillInner (context : OrdersContext)
    (botId : String) (event : FillEvent) (now : DateTime) :
    ActsAs
      (UserEventHandler.updateOrdersForFillInner context botId event now)
      (fillResult context botId event now) := by
  unfold UserEventHandler.updateOrdersForFillInner fillResult
  split
  · refine ActsAs.congr (acts_bind
      (fun existing database => do
        let update ←
          UserEventHandler.fillUpdate context botId event now existing
        applied context database update)
      (acts_select _) fun existing => ?_) fun database => ?_
    · refine ActsAs.congr (acts_bind
        (fun update database => applied context database update)
        (acts_lift _) fun update => ?_) fun database => ?_
      · cases update with
        | ignored => exact acts_pure _
        | observed record =>
            refine ActsAs.congr (acts_bind _
              (acts_recordObservation context record "websocket")
              fun _ => acts_pure _) fun database => ?_
            match result : observeResult context record "websocket" database with
            | .ok changed =>
                simp [applied, result, Except.map, bind, Except.bind]
            | .error error =>
                simp [applied, result, Except.map, bind, Except.bind]
        | advanced record delta =>
            refine ActsAs.congr (acts_bind _
              (acts_transaction (acts_persistStatements context record))
              fun _ => acts_pure _) fun database => ?_
            match result : persistResult context record database with
            | .ok changed =>
                simp [applied, result, Except.map, bind, Except.bind]
            | .error error =>
                simp [applied, result, Except.map, bind, Except.bind]
      · match UserEventHandler.fillUpdate context botId event now existing with
        | .ok update => rfl
        | .error error => rfl
    · match UserEventHandler.fillContext context database event with
      | .ok existing => rfl
      | .error error => rfl
  · exact acts_pure _

end Writers

end GptTrader
