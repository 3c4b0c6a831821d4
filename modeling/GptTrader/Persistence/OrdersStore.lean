import GptTrader.Library.Table
import GptTrader.Library.Connection
import GptTrader.Library.Transaction
import GptTrader.Persistence.OrderRecords

/-!
# The orders store

`OrdersStore` (`persistence/orders_store.py`) over one SQLite connection.  The
connection runs in autocommit mode, so each statement outside of a transaction
commits by itself.  An accounting transaction may be entered again inside of
itself; only the outermost one begins and ends a database transaction.  A
failing writer rolls the shared connection back, also inside of an accounting
transaction, whose later statements then commit one by one.
-/

namespace GptTrader

/-- A row of the fills table. -/
structure FillFactRow where
  orderId : String
  fillId : String
  content : Except StoreError FillFact

structure ObservationRow where
  orderId : String
  key : String
  content : Option FillObservation
  checksum : String

/-- What a baseline binds of a covered order's receipt; the canonical spelling
of a decimal stands for its value. -/
structure ReceiptBinding where
  orderId : String
  clientOrderId : String
  symbol : String
  side : String
  quantity : Decimal
  filledQuantity : Decimal
  averageFillPrice : Option Decimal
  status : OrderStatus
  intent : Json
  deriving DecidableEq

structure BaselinePayload where
  baseline : PositionBaseline
  coveredReceipts : List (String × ReceiptBinding)
  deriving DecidableEq

structure BaselineRow where
  symbol : String
  content : Except StoreError BaselinePayload

/-- The tables of the store. -/
structure OrdersDatabase where
  orders : Table OrderRecord String OrderRecord.orderId
  fillFacts : List FillFactRow
  observations : List ObservationRow
  baselines : List BaselineRow
  schemaVersions : List ℤ

/-- The connection of a store and its open accounting transactions. -/
structure OrdersStore where
  connection : Connection OrdersDatabase
  transactionDepth : ℕ
  transactionWrite : Bool

/-- A computation on the store. -/
abbrev StoreTx : Type → Type :=
  Tx StoreError OrdersStore

inductive WriteResult where
  | ok
  | fail (error : StoreError)
  deriving DecidableEq

namespace OrdersDatabase

def empty : OrdersDatabase :=
  { orders := .empty
    fillFacts := []
    observations := []
    baselines := []
    schemaVersions := [1] }

/-- The rows of a client identifier. -/
def rowsOfClient (database : OrdersDatabase) (clientOrderId : String) :
    List OrderRecord :=
  database.orders.rows.filter fun row =>
    decide (row.clientOrderId = clientOrderId)

def clientRow (database : OrdersDatabase) (clientOrderId : String) :
    Except StoreError (Option OrderRecord) :=
  match database.rowsOfClient clientOrderId with
  | [] => .ok none
  | [row] => .ok (some (.ofRow row))
  | _ => .error (.write "Multiple orders share one client order ID")

/-- The row of an order. -/
def getOrder (database : OrdersDatabase) (orderId : String) :
    Option OrderRecord :=
  (database.orders.find? orderId).map .ofRow

def getOrderByClientOrderId (context : OrdersContext)
    (database : OrdersDatabase) (clientOrderId : String) :
    Except StoreError (Option OrderRecord) := do
  match ← database.clientRow clientOrderId with
  | none => .ok none
  | some record =>
      if record.checksumIsValid context then .ok (some record)
      else .error (.write "Existing order checksum mismatch")

/-- The columns an `UPDATE` of a row sets. -/
def updateColumns (record row : OrderRecord) : OrderRecord :=
  { record with
    clientOrderId := row.clientOrderId
    createdAt := row.createdAt }

/-- Update the rows of the client identifier; without any, insert the record
and replace whatever row has its order identifier. -/
def upsert (database : OrdersDatabase) (record : OrderRecord) :
    Except StoreError OrdersDatabase :=
  if (database.rowsOfClient record.clientOrderId).isEmpty then
    .ok { database with orders := database.orders.insertOrReplace record }
  else
    match database.orders.update
        (fun row => decide (row.clientOrderId = record.clientOrderId))
        (updateColumns record) with
    | some orders => .ok { database with orders := orders }
    | none => .error (.sqlite "UNIQUE constraint failed: orders.order_id")

def save (database : OrdersDatabase) (record : OrderRecord) : OrdersDatabase :=
  { database with orders := database.orders.insertOrReplace record }

end OrdersDatabase

namespace OrdersStore

def fresh (database : OrdersDatabase) : OrdersStore :=
  { connection := .idle database
    transactionDepth := 0
    transactionWrite := false }

/-- What the connection reads. -/
def database (store : OrdersStore) : OrdersDatabase :=
  store.connection.current

/-- `BEGIN IMMEDIATE`. -/
def begin : StoreTx Unit :=
  .evolve fun store =>
    match store.connection.begin with
    | some opened => .ok { store with connection := opened }
    | none =>
        .error (.sqlite "cannot start a transaction within a transaction")

def commit : StoreTx Unit :=
  .modify fun store => { store with connection := store.connection.commit }

def rollback : StoreTx Unit :=
  .modify fun store => { store with connection := store.connection.rollback }

/-- A statement that writes. -/
def write (change : OrdersDatabase → Except StoreError OrdersDatabase) :
    StoreTx Unit :=
  .evolve fun store =>
    match change store.database with
    | .ok changed =>
        .ok { store with connection := store.connection.write changed }
    | .error error => .error error

/-- A statement that reads and may fail. -/
def select {α : Type} (query : OrdersDatabase → Except StoreError α) :
    StoreTx α :=
  .read fun store => query store.database

def fetch {α : Type} (query : OrdersDatabase → α) : StoreTx α :=
  .view fun store => query store.database

def lift {α : Type} (outcome : Except StoreError α) : StoreTx α :=
  .read fun _ => outcome

/-- Enter `transaction(write=…)`. -/
def enterTransaction (writing : Bool) : StoreTx Unit := do
  let depth ← Tx.view fun store : OrdersStore => store.transactionDepth
  if depth = 0 then
    Tx.handle begin fun _ =>
      Tx.raise (.write "Accounting transaction could not begin")
    let versions ← fetch OrdersDatabase.schemaVersions
    if versions = [1] then
      Tx.modify fun store =>
        { store with transactionDepth := 1, transactionWrite := writing }
    else
      rollback
      Tx.raise (.write "Unsupported accounting schema")
  else
    let writable ← Tx.view fun store : OrdersStore => store.transactionWrite
    Tx.require (writing = true → writable = true)
      (.write "Cannot promote accounting read transaction")
    Tx.modify fun store => { store with transactionDepth := depth + 1 }

/-- The outermost block commits. -/
def leaveTransaction : StoreTx Unit := do
  let depth ← Tx.view fun store : OrdersStore => store.transactionDepth
  Tx.when (depth = 1) commit
  Tx.modify fun store => { store with transactionDepth := depth - 1 }

/-- The outermost transaction reports database errors as `WriteError`s. -/
def leavingError (depth : ℕ) (error : StoreError) : StoreError :=
  match depth, error with
  | 1, .sqlite message => .write ("Accounting transaction failed: " ++ message)
  | _, error => error

def abandonTransaction {α : Type} (error : StoreError) : StoreTx α := do
  let depth ← Tx.view fun store : OrdersStore => store.transactionDepth
  Tx.when (depth = 1) rollback
  Tx.modify fun store => { store with transactionDepth := depth - 1 }
  Tx.raise (leavingError depth error)

/-- `with self.transaction(write=…):`. -/
def transaction {α : Type} (writing : Bool) (body : StoreTx α) :
    StoreTx α := do
  enterTransaction writing
  let value ← Tx.handle body abandonTransaction
  leaveTransaction
  pure value

variable (context : OrdersContext)

/-- The row with its checksum. -/
def saveOrder (record : OrderRecord) : StoreTx Unit := do
  let checksum ← lift (record.computeChecksum context)
  write fun database => .ok (database.save (record.stored checksum))

/-- Reserve a new client identifier or return its existing request. -/
def reserveSubmission (order : OrderRecord) : StoreTx (Option OrderRecord) := do
  begin
  Tx.handle
    (do
      let existing ← select fun database =>
        database.clientRow order.clientOrderId
      match existing with
      | none =>
          let taken ← fetch fun database =>
            database.getOrder order.orderId
          Tx.require (taken.isNone = true)
            (.write "Order ID already belongs to another client identity")
          saveOrder context order
          commit
          pure none
      | some existing =>
          Tx.require (existing.checksumIsValid context = true)
            (.write "Existing order checksum mismatch")
          commit
          pure (some existing))
    fun error => do
      rollback
      Tx.raise error

/-- An expected failure is reported or re-raised as a `WriteError`. -/
def upsertFailed (order : OrderRecord) (raiseOnError : Bool)
    (error : StoreError) : StoreTx WriteResult := do
  rollback
  if error.expected then
    if raiseOnError then
      Tx.raise (.write ("Failed to upsert order " ++ order.orderId))
    else pure (.fail error)
  else Tx.raise error

def updatedOrder (existing : Option OrderRecord) (order : OrderRecord) :
    Except StoreError OrderRecord :=
  match existing with
  | some existing => preserveIntent context existing order
  | none => .ok order

/-- The statements of `upsert_by_client_id`. -/
def upsertStatements (order : OrderRecord) : StoreTx Unit := do
  let existing ← select fun database =>
    database.getOrderByClientOrderId context order.clientOrderId
  let order ← lift (updatedOrder context existing order)
  let checksum ← lift (order.computeChecksum context)
  write fun database => database.upsert (order.stored checksum)

def upsertOwned (order : OrderRecord) : StoreTx Unit := do
  let depth ← Tx.view fun store : OrdersStore => store.transactionDepth
  if depth = 0 then
    begin
    upsertStatements context order
    commit
  else
    let writable ← Tx.view fun store : OrdersStore => store.transactionWrite
    Tx.require (writable = true)
      (.write "Cannot write order in accounting read transaction")
    upsertStatements context order

/-- A row inserted or advanced. -/
def upsertByClientId (order : OrderRecord) (raiseOnError : Bool) :
    StoreTx WriteResult :=
  Tx.handle
    (do
      upsertOwned context order
      pure .ok)
    (upsertFailed order raiseOnError)

/-- The record `update_status` asks for. -/
def withStatus (original : OrderRecord) (status : OrderStatus)
    (filledQuantity averageFillPrice : Option Decimal) (now : DateTime) :
    OrderRecord :=
  { original with
    status := status
    updatedAt := now
    filledQuantity := filledQuantity.getD original.filledQuantity
    averageFillPrice := averageFillPrice.or original.averageFillPrice }

/-- The statements of `update_status`. -/
def statusStatements (orderId : String)
    (change : OrderRecord → OrderRecord) : StoreTx Unit := do
  let original ← fetch fun database => database.getOrder orderId
  match original with
  | none => pure ()
  | some original =>
      Tx.require (original.checksumIsValid context = true)
        (.write "Existing order checksum mismatch")
      let updated ← lift (preserveIntent context original (change original))
      saveOrder context updated

/-- The status of a stored order. -/
def updateStatus (orderId : String) (status : OrderStatus)
    (filledQuantity averageFillPrice : Option Decimal) (now : DateTime) :
    StoreTx WriteResult :=
  Tx.handle
    (do
      begin
      statusStatements context orderId fun original =>
        withStatus original status filledQuantity averageFillPrice now
      commit
      pure .ok)
    fun error => do
      rollback
      if error.refused then pure (.fail error) else Tx.raise error

end OrdersStore

end GptTrader
