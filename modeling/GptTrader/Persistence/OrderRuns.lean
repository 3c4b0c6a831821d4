import GptTrader.Persistence.FillHistory
import GptTrader.Python.TableFormats

/-!
# Runs of the orders store

A run is any sequence of writer calls, between which outer accounting
transactions are entered, left or abandoned; a call that raises leaves whatever
it left and the run goes on.  As long as upserts insert freshly, fills only grow
from one committed state to the next.
-/

namespace GptTrader

/-- The calls on the store. -/
inductive OrdersCall where
  | enterTransaction (writing : Bool)
  | leaveTransaction
  | abandonTransaction (error : StoreError)
  | reserveSubmission (order : OrderRecord)
  | upsertByClientId (order : OrderRecord) (raiseOnError : Bool)
  | updateStatus (orderId : String) (status : OrderStatus)
      (filledQuantity averageFillPrice : Option Decimal) (now : DateTime)
  | recordFill (fact : FillFact) (now : DateTime)

namespace OrdersCall

variable (context : OrdersContext)

def effect {α : Type} (body : StoreTx α) (store : OrdersStore) : OrdersStore :=
  (body store).2

/-- One call on the store. -/
def perform : OrdersCall → OrdersStore → OrdersStore
  | .enterTransaction writing =>
      effect (OrdersStore.enterTransaction writing)
  | .leaveTransaction => effect OrdersStore.leaveTransaction
  | .abandonTransaction error =>
      effect (OrdersStore.abandonTransaction error : StoreTx Unit)
  | .reserveSubmission order =>
      effect (OrdersStore.reserveSubmission context order)
  | .upsertByClientId order raiseOnError =>
      effect (OrdersStore.upsertByClientId context order raiseOnError)
  | .updateStatus orderId status filledQuantity averageFillPrice now =>
      effect (OrdersStore.updateStatus context orderId status filledQuantity
        averageFillPrice now)
  | .recordFill fact now => effect (OrdersStore.recordFill context fact now)

/-- The store after a list of calls. -/
def run (calls : List OrdersCall) (store : OrdersStore) : OrdersStore :=
  calls.foldl (fun reached call => call.perform context reached) store

def Fresh (store : OrdersStore) : OrdersCall → Prop
  | .upsertByClientId order _ => InsertsFresh order store.database
  | _ => True

/-- No call of the run meets another order's row. -/
def RunsFresh : List OrdersCall → OrdersStore → Prop
  | [], _ => True
  | call :: rest, store =>
      call.Fresh store ∧ RunsFresh rest (call.perform context store)

instance (order : OrderRecord) (database : OrdersDatabase) :
    Decidable (InsertsFresh order database) :=
  inferInstanceAs (Decidable (_ → _))

instance (store : OrdersStore) : (call : OrdersCall) →
    Decidable (call.Fresh store)
  | .enterTransaction _ => isTrue trivial
  | .leaveTransaction => isTrue trivial
  | .abandonTransaction _ => isTrue trivial
  | .reserveSubmission _ => isTrue trivial
  | .upsertByClientId order _ =>
      inferInstanceAs (Decidable (InsertsFresh order store.database))
  | .updateStatus _ _ _ _ _ => isTrue trivial
  | .recordFill _ _ => isTrue trivial

instance decidableRunsFresh : (calls : List OrdersCall) →
    (store : OrdersStore) → Decidable (RunsFresh context calls store)
  | [], _ => isTrue trivial
  | call :: rest, store =>
      have := decidableRunsFresh rest (call.perform context store)
      inferInstanceAs (Decidable (call.Fresh store ∧
        RunsFresh context rest (call.perform context store)))

end OrdersCall

/-- Consecutive committed states: the rows a client has in both grow, and no
client ever has two rows. -/
structure FillsOnlyGrow (formats : TextFormats)
    (history : List OrdersDatabase) : Prop where
  consecutive : List.IsChain
    (fun later earlier => ∀ before ∈ earlier.orders.rows,
      ∀ after ∈ later.orders.rows,
        after.clientOrderId = before.clientOrderId →
          Grows formats before after)
    history
  single : ∀ database ∈ history, ClientsUnique database

section Runs

variable {promise : Promise} {store : OrdersStore}

theorem Promise.Kept.effect {α : Type} {body : StoreTx α}
    (kept : promise.Kept body) (holds : promise.Holds store) :
    promise.Holds (OrdersCall.effect body store) := by
  unfold OrdersCall.effect
  match outcome : body store with
  | (.ok value, reached) => exact (kept store holds).1 value reached outcome
  | (.error error, reached) => exact (kept store holds).2 error reached outcome

def runPromise (context : OrdersContext) (initial : OrdersDatabase) : Promise :=
  { context := context
    touched := fun _ => True
    initial := initial }

variable {context : OrdersContext} {initial : OrdersDatabase}

theorem OrdersCall.perform_holds (call : OrdersCall)
    (fresh : call.Fresh store)
    (holds : (runPromise context initial).Holds store) :
    (runPromise context initial).Holds (call.perform context store) := by
  cases call with
  | enterTransaction writing =>
      exact (kept_enterTransaction writing).effect holds
  | leaveTransaction => exact kept_leaveTransaction.effect holds
  | abandonTransaction error =>
      exact (kept_abandonTransaction error).effect holds
  | reserveSubmission order =>
      exact (kept_reserveSubmission order).effect holds
  | upsertByClientId order raiseOnError =>
      have outcome := under_upsertByClientId order raiseOnError store
        ⟨holds, fresh.admits⟩
      simp only [OrdersCall.perform, OrdersCall.effect]
      match returned : OrdersStore.upsertByClientId context order raiseOnError
          store with
      | (.ok value, reached) => exact outcome.1 value reached returned
      | (.error error, reached) => exact outcome.2 error reached returned
  | updateStatus orderId status filledQuantity averageFillPrice now =>
      exact (kept_updateStatus status filledQuantity averageFillPrice now
        fun _ _ => trivial).effect holds
  | recordFill fact now =>
      exact (kept_recordFill now fun _ _ => trivial).effect holds

theorem OrdersCall.run_holds (calls : List OrdersCall)
    (fresh : OrdersCall.RunsFresh context calls store)
    (holds : (runPromise context initial).Holds store) :
    (runPromise context initial).Holds
      (OrdersCall.run context calls store) := by
  induction calls generalizing store with
  | nil => exact holds
  | cons call rest induction =>
      exact induction fresh.2 (call.perform_holds fresh.1 holds)

theorem Advances.consecutive {formats : TextFormats}
    {touched : OrderRecord → Prop} {earlier later : OrdersDatabase}
    (advances : Advances formats touched earlier later)
    (unique : ClientsUnique later) :
    ∀ before ∈ earlier.orders.rows, ∀ after ∈ later.orders.rows,
      after.clientOrderId = before.clientOrderId →
        Grows formats before after := by
  intro before beforeMember after afterMember same
  obtain ⟨grown, grownMember, grows⟩ := advances.grows before beforeMember
  rwa [unique.eq afterMember grownMember (same.trans grows.client.symm)]

theorem Promise.Holds.fillsOnlyGrow (holds : promise.Holds store)
    (unique : ClientsUnique promise.initial) :
    FillsOnlyGrow promise.context.formats store.connection.history := by
  have single : ∀ database ∈ store.connection.history,
      ClientsUnique database :=
    fun database member => (holds.reached database member).unique unique
  refine { consecutive := ?_, single := single }
  refine List.IsChain.imp_of_mem_imp ?_ holds.chained
  intro later earlier laterMember _ advances
  exact advances.consecutive (single later laterMember)

/-- Fills only grow and final receipts are frozen along every fresh run. -/
theorem committed_fills_only_grow (context : OrdersContext)
    (calls : List OrdersCall) (database : OrdersDatabase)
    (unique : ClientsUnique database)
    (fresh : OrdersCall.RunsFresh context calls (.fresh database)) :
    FillsOnlyGrow context.formats
      (OrdersCall.run context calls (.fresh database)).connection.history :=
  Promise.Holds.fillsOnlyGrow
    (OrdersCall.run_holds calls fresh (Connection.progresses_idle database))
    unique

end Runs

section Examples

/-- ASCII case mappings and one digest for every payload: no checksum of the
examples is ever wrong. -/
def plainContext : OrdersContext :=
  { formats := tableFormats
      { entries := [], nodup := List.nodup_nil, unmarked := Spelling.unmarked_nil }
      { entries := [], nodup := List.nodup_nil, unmarked := Spelling.unmarked_nil }
    digest := fun _ => "digest"
    observationDigest := fun _ => "digest" }

def plainOrder (orderId clientOrderId : String) (filled : ℚ) : OrderRecord :=
  { orderId := orderId
    clientOrderId := clientOrderId
    symbol := "BTC-USD"
    side := "buy"
    orderType := "market"
    quantity := .finite 10
    price := none
    status := .open
    filledQuantity := .finite filled
    averageFillPrice := none
    createdAt := .utc 0
    updatedAt := .utc 0
    botId := none
    timeInForce := "GTC"
    metadata := none
    checksum := none }

def acknowledgedRun : List OrdersCall :=
  [.reserveSubmission (plainOrder "a" "a" 0), .enterTransaction true,
    .upsertByClientId (plainOrder "X" "a" 5) true, .leaveTransaction,
    .updateStatus "X" .cancelled none none (.utc 1)]

/-- An order is reserved, acknowledged with a fill and cancelled. -/
theorem acknowledged_fills_only_grow :
    FillsOnlyGrow plainContext.formats
      (OrdersCall.run plainContext acknowledgedRun
        (.fresh .empty)).connection.history :=
  committed_fills_only_grow plainContext acknowledgedRun .empty
    List.nodup_nil (by decide +kernel)

/-- One transaction takes the order identifier of a client with fills for
another client, then writes the first client again with fewer fills. -/
def collidingRun : List OrdersCall :=
  [.upsertByClientId (plainOrder "X" "a" 5) true, .enterTransaction true,
    .upsertByClientId (plainOrder "X" "b" 0) true,
    .upsertByClientId (plainOrder "Y" "a" 1) true, .leaveTransaction]

def fillColumns (history : List OrdersDatabase) : List (List (String × Decimal)) :=
  history.map fun database =>
    database.orders.rows.map fun row => (row.clientOrderId, row.filledQuantity)

theorem FillsOnlyGrow.columns {formats : TextFormats}
    {history : List OrdersDatabase} (grow : FillsOnlyGrow formats history) :
    List.IsChain
      (fun later earlier => ∀ before ∈ earlier, ∀ after ∈ later,
        after.1 = before.1 → NotLess before.2 after.2)
      (fillColumns history) := by
  refine List.isChain_map_of_isChain _ ?_ grow.consecutive
  intro later earlier consecutive before beforeMember after afterMember same
  obtain ⟨beforeRow, beforeStored, rfl⟩ := List.mem_map.mp beforeMember
  obtain ⟨afterRow, afterStored, rfl⟩ := List.mem_map.mp afterMember
  exact (consecutive beforeRow beforeStored afterRow afterStored same).filled

/-- A taken order identifier makes a client's fills shrink. -/
theorem colliding_fills_shrink :
    ¬FillsOnlyGrow plainContext.formats
      (OrdersCall.run plainContext collidingRun
        (.fresh .empty)).connection.history := by
  intro grow
  have columns : fillColumns (OrdersCall.run plainContext collidingRun
      (.fresh .empty)).connection.history =
      [[("b", .finite 0), ("a", .finite 1)], [("a", .finite 5)], []] := by
    decide +kernel
  have chain := grow.columns
  rw [columns, List.isChain_cons_cons] at chain
  have shrunk := chain.1 ("a", .finite 5) (by simp) ("a", .finite 1)
    (by simp) rfl
  simp [NotLess, Decimal.lt] at shrunk

end Examples

end GptTrader
