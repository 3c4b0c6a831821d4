import GptTrader.LiveTrade.SubmissionSessions
import GptTrader.Persistence.OrderRuns
import GptTrader.Persistence.StoreWriters

/-!
# Records of broker orders

`order_record_mapping.py` builds a stored record from what a broker reports, an order
object or a dictionary, and `refresh_missing_persisted_orders` writes it over the row
of a pending order.  A side and a type that are members of their enumerations are
spelled with the name of the class, which no dictionary does and no intent accepts.
-/

namespace GptTrader

/-- A field of a reported order: a text, a decimal, a time, or a member of an
enumeration that mixes in `str`. -/
inductive FieldValue where
  | text (value : String)
  | decimal (value : Decimal)
  | moment (value : DateTime)
  | side (value : OrderSide)
  | orderType (value : OrderType)
  | status (value : BrokerOrderStatus)
  | tif (value : TimeInForce)

/-- What the mapping takes from outside beside the conversions of the store: `str` of
a datetime, the timestamp of a naive one, and the time of the call. -/
structure MappingContext extends OrdersContext where
  strDateTime : DateTime → String
  localInstant : DateTime → ℤ
  time : ℤ

/-- What a broker reports of an order: a dictionary of strings, whose absent keys are
those without a value, or an order object. -/
inductive ReportedOrder where
  | dict (fields : Dict String String)
  | object (order : BrokerOrder)

def BrokerOrder.attribute? (order : BrokerOrder) (key : String) :
    Option FieldValue :=
  match key with
  | "id" => some (.text order.id)
  | "symbol" => some (.text order.symbol)
  | "side" => some (.side order.side)
  | "type" => some (.orderType order.type)
  | "quantity" => some (.decimal order.quantity)
  | "status" => some (.status order.status)
  | "filled_quantity" => some (.decimal order.filledQuantity)
  | "price" => order.price.map .decimal
  | "tif" => some (.tif order.tif)
  | "client_id" => order.clientId.map .text
  | "avg_fill_price" => order.avgFillPrice.map .decimal
  | "submitted_at" => order.submittedAt.map .moment
  | "updated_at" => order.updatedAt.map .moment
  | "created_at" => order.createdAt.map .moment
  | _ => none

def ReportedOrder.field? (order : ReportedOrder) (key : String) :
    Option FieldValue :=
  match order with
  | .dict fields => (fields.get? key).map .text
  | .object order => order.attribute? key

/-- `get_order_field`: the first of the keys with a value. -/
def ReportedOrder.getOrderField (order : ReportedOrder) (keys : List String) :
    Option FieldValue :=
  keys.findSome? order.field?

namespace MappingContext

variable (context : MappingContext)

/-- `str(value)`; a member is spelled with its class, and the members are named like
their values. -/
def str : FieldValue → String
  | .text value => value
  | .decimal value => context.formats.showDecimal value
  | .moment value => context.strDateTime value
  | .side value => "OrderSide." ++ value.value
  | .orderType value => "OrderType." ++ value.value
  | .status value => "OrderStatus." ++ value.value
  | .tif value => "TimeInForce." ++ value.value

/-- The value itself, or the `value` of a member. -/
def plain : FieldValue → String
  | .side value => value.value
  | .orderType value => value.value
  | .status value => value.value
  | .tif value => value.value
  | value => context.str value

def truthy : FieldValue → Bool
  | .text value => value ≠ ""
  | .decimal value => !value.isZero
  | _ => true

/-- `normalize_persisted_status`; what it does not know is open. -/
def normalizePersistedStatus (status : Option FieldValue) : OrderStatus :=
  match context.formats.lower ((status.map context.plain).getD "None") with
  | "pending" => .pending
  | "submitted" => .open
  | "open" => .open
  | "partially_filled" => .partiallyFilled
  | "filled" => .filled
  | "cancelled" => .cancelled
  | "canceled" => .cancelled
  | "rejected" => .rejected
  | "expired" => .expired
  | "failed" => .failed
  | _ => .open

/-- `parse_decimal_optional`: a finite decimal. -/
def parseDecimalOptional : Option FieldValue → Option Decimal
  | none => none
  | some (.decimal value) => if value.isFinite then some value else none
  | some value =>
      (context.formats.parseDecimal (context.str value)).filter Decimal.isFinite

def parseDecimal (value : Option FieldValue) (default : Decimal) : Decimal :=
  (context.parseDecimalOptional value).getD default

/-- `parse_iso_to_epoch`; a naive time is read as UTC. -/
def parseIsoToEpoch (value : String) : Option ℤ :=
  let cleaned := strip value
  if cleaned = "" then none
  else
    let cleaned :=
      if cleaned.toList.getLast? = some 'Z' then
        String.ofList cleaned.toList.dropLast ++ "+00:00"
      else cleaned
    (context.formats.parseDateTime cleaned).map DateTime.instant

/-- `parse_timestamp`, in microseconds: a text that is no time, or no value, is the
time of the call.  A member is a text, its value. -/
def parseTimestamp : Option FieldValue → ℤ
  | none => context.time
  | some (.decimal _) => context.time
  | some (.moment value) =>
      if value.aware then value.instant else context.localInstant value
  | some value => (context.parseIsoToEpoch (context.plain value)).getD context.time

def buildRecordFromBrokerOrder (order : ReportedOrder) (botId : String)
    (now : DateTime) : Option OrderRecord :=
  let orderId := order.getOrderField ["order_id", "id"]
  let clientOrderId :=
    match (order.getOrderField ["client_order_id", "client_id"]).filter truthy with
    | some value => some value
    | none => orderId
  match orderId, clientOrderId with
  | some orderId, some clientOrderId =>
      let symbol :=
        ((order.getOrderField ["product_id", "symbol"]).filter truthy).getD (.text "")
      let side := ((order.getOrderField ["side"]).map fun value =>
        context.formats.lower (context.str value)).getD "unknown"
      let orderType := ((order.getOrderField ["order_type", "type"]).map fun value =>
        context.formats.lower (context.str value)).getD "unknown"
      let status := order.getOrderField ["status"]
      let created := order.getOrderField
        ["created_time", "created_at", "submitted_at", "created"]
      some
        { orderId := context.str orderId
          clientOrderId := context.str clientOrderId
          symbol := context.str symbol
          side := side
          orderType := orderType
          quantity := context.parseDecimal
            (order.getOrderField ["size", "quantity", "base_size"]) (.finite 0)
          price := context.parseDecimalOptional (order.getOrderField ["price"])
          status := context.normalizePersistedStatus status
          filledQuantity := context.parseDecimal
            (order.getOrderField ["filled_size", "filled_quantity"]) (.finite 0)
          averageFillPrice := context.parseDecimalOptional
            (order.getOrderField ["average_filled_price", "avg_fill_price"])
          createdAt := .utc (context.parseTimestamp created)
          updatedAt := now
          botId := some botId
          timeInForce := ((order.getOrderField ["tif", "time_in_force"]).map
            context.str).getD "GTC"
          metadata := some (.ofList
            [("source", .str "order_reconciliation"),
              ("raw_status", .str
                (((status.filter truthy).map context.str).getD ""))])
          checksum := none }
  | _, _ => none

end MappingContext

def mergeMetadata (base update : Option (Dict String Json)) :
    Option (Dict String Json) :=
  match base, update with
  | none, none => none
  | base, update => some ((base.getD .empty).merge (update.getD .empty))

/-- `value or other`, of texts. -/
def textOr (value other : String) : String :=
  if value = "" then other else value

/-- The record that `refresh_missing_persisted_orders` writes over a pending one. -/
def refreshedRecord (record update : OrderRecord) (botId : String)
    (now : DateTime) : OrderRecord :=
  { record with
    orderId := update.orderId
    clientOrderId := update.clientOrderId
    symbol := textOr update.symbol record.symbol
    side := textOr update.side record.side
    orderType := textOr update.orderType record.orderType
    quantity := if update.quantity.isZero then record.quantity else update.quantity
    price := update.price.or record.price
    status := update.status
    filledQuantity :=
      if update.filledQuantity.isZero then record.filledQuantity
      else update.filledQuantity
    averageFillPrice :=
      (OrderRecord.nonzero update.averageFillPrice).or record.averageFillPrice
    updatedAt := now
    metadata := mergeMetadata record.metadata
      (some (update.facts.set "note" (.str "refresh_missing")))
    botId := some (match record.botId with
      | none => botId
      | some known => textOr known botId)
    timeInForce := textOr update.timeInForce record.timeInForce }

/-- What refreshing a pending record did: the broker's order is no order, or the
store took the record, or refused it. -/
inductive Refresh where
  | skipped
  | persisted (updated : OrderRecord)
  | refused (updated : OrderRecord) (error : StoreError)

/-- `refresh_missing_persisted_orders`, of one pending record whose order the broker
returned. -/
def refreshMissingPersistedOrder (context : MappingContext) (record : OrderRecord)
    (order : ReportedOrder) (botId : String) (now : DateTime)
    (store : OrdersStore) : Refresh × OrdersStore :=
  match context.buildRecordFromBrokerOrder order botId now with
  | none => (.skipped, store)
  | some update =>
      let updated := refreshedRecord record update botId now
      match OrdersStore.upsertByClientId context.toOrdersContext updated true
          store with
      | (.ok .ok, store) => (.persisted updated, store)
      | (.ok (.fail error), store) => (.refused updated error, store)
      | (.error error, store) => (.refused updated error, store)

/-! ## Members are spelled with their class -/

namespace TextFormats.MapsAscii

variable {formats : TextFormats}

def sideMember : OrderSide → String
  | .buy => "orderside.buy"
  | .sell => "orderside.sell"

theorem lower_sideMember (maps : formats.MapsAscii) (side : OrderSide) :
    formats.lower ("OrderSide." ++ side.value) = sideMember side := by
  cases side <;> rw [maps.lower _ (by decide +kernel)] <;> decide +kernel

theorem lower_side (maps : formats.MapsAscii) (side : OrderSide) :
    formats.lower side.value ≠ sideMember side := by
  cases side <;> rw [maps.lower _ (by decide +kernel)] <;> decide +kernel

theorem upper_sideMember (maps : formats.MapsAscii) (side other : OrderSide) :
    formats.upper (sideMember side) ≠ other.value := by
  cases side <;> rw [sideMember, maps.upper _ (by decide +kernel)] <;>
    cases other <;> decide +kernel

theorem upper_typeMember (maps : formats.MapsAscii) (type other : OrderType) :
    formats.upper (formats.lower ("OrderType." ++ type.value)) ≠ other.value := by
  cases type <;>
    rw [maps.lower _ (by decide +kernel), maps.upper _ (by decide +kernel)] <;>
    cases other <;> decide +kernel

end TextFormats.MapsAscii

/-! ## What the store asks of a side -/

theorem side_of_validateReceipt {formats : TextFormats} {intent : OrderIntent}
    {order : ObservedOrder} {side : String} (observed : order.side = some side)
    (accepted : intent.validateReceipt formats order = .ok ()) :
    formats.upper side = intent.side.value := by
  unfold OrderIntent.validateReceipt at accepted
  obtain ⟨_, _, accepted⟩ := Outcome.bind_eq_ok.mp accepted
  obtain ⟨_, _, accepted⟩ := Outcome.bind_eq_ok.mp accepted
  obtain ⟨_, agreed, _⟩ := Outcome.bind_eq_ok.mp accepted
  rw [observed, Option.all_some] at agreed
  by_contra differs
  rw [decide_eq_false differs] at agreed
  cases agreed

theorem side_of_preserveIntent {context : OrdersContext}
    {existing order updated : OrderRecord} (admitted : existing.intent?.isSome)
    (accepted : preserveIntent context existing order = .ok updated) :
    ∃ side : OrderSide, context.formats.upper order.side = side.value := by
  obtain ⟨kept, keeps, _⟩ := Outcome.bind_eq_ok.mp accepted
  obtain ⟨payload, stored⟩ := Option.isSome_iff_exists.mp admitted
  unfold OrderRecord.intent? at stored
  unfold keepIntent at keeps
  rw [stored] at keeps
  obtain ⟨_, _, keeps⟩ := Outcome.bind_eq_ok.mp keeps
  obtain ⟨_, _, keeps⟩ := Outcome.bind_eq_ok.mp keeps
  obtain ⟨_, _, keeps⟩ := Outcome.bind_eq_ok.mp keeps
  obtain ⟨_, _, keeps⟩ := Outcome.bind_eq_ok.mp keeps
  obtain ⟨intent, _, keeps⟩ := Outcome.bind_eq_ok.mp keeps
  obtain ⟨_, receipt, _⟩ := Outcome.bind_eq_ok.mp keeps
  exact ⟨intent.side,
    side_of_validateReceipt rfl (Outcome.mapError_eq_ok.mp receipt)⟩

theorem upsertByClientId_refuses {context : OrdersContext} {store : OrdersStore}
    {existing order : OrderRecord} (idle : store.Idle)
    (found : store.database.getOrderByClientOrderId context order.clientOrderId =
      .ok (some existing))
    (admitted : existing.intent?.isSome)
    (other : ∀ side : OrderSide, context.formats.upper order.side ≠ side.value) :
    ∃ error,
      (OrdersStore.upsertByClientId context order true store).1 = .error error ∧
      (OrdersStore.upsertByClientId context order true store).2.database =
        store.database := by
  have fails : ∃ error, upsertResult context order store.database =
      .error error := by
    cases result : upsertResult context order store.database with
    | error error => exact ⟨error, rfl⟩
    | ok changed =>
        obtain ⟨row, read, result⟩ := Outcome.bind_eq_ok.mp result
        rw [found] at read
        cases read
        obtain ⟨updated, accepted, _⟩ := Outcome.bind_eq_ok.mp result
        obtain ⟨side, same⟩ := side_of_preserveIntent admitted accepted
        exact absurd same (other side)
  obtain ⟨error, fails⟩ := fails
  obtain ⟨thrown, raised⟩ := upsertByClientId_raises idle fails
  refine ⟨thrown, raised, ?_⟩
  rw [upsertByClientId_database idle, fails]

/-! ## Order objects -/

section Objects

variable {context : MappingContext} {order : BrokerOrder}

/-- The record of an order object carries the member's name. -/
theorem record_of_object (maps : context.formats.MapsAscii) (order : BrokerOrder)
    (botId : String) (now : DateTime) :
    ∃ record,
      context.buildRecordFromBrokerOrder (.object order) botId now = some record ∧
      record.side = TextFormats.MapsAscii.sideMember order.side ∧
      record.orderType =
        context.formats.lower ("OrderType." ++ order.type.value) ∧
      ∀ clientId, order.clientId = some clientId → clientId ≠ "" →
        record.clientOrderId = clientId := by
  have identified : (ReportedOrder.object order).getOrderField
      ["order_id", "id"] = some (.text order.id) := rfl
  have sided : (ReportedOrder.object order).getOrderField ["side"] =
      some (.side order.side) := rfl
  have typed : (ReportedOrder.object order).getOrderField
      ["order_type", "type"] = some (.orderType order.type) := rfl
  have client : (ReportedOrder.object order).getOrderField
      ["client_order_id", "client_id"] = order.clientId.map .text := by
    cases known : order.clientId with
    | none => simp [ReportedOrder.getOrderField, ReportedOrder.field?,
        BrokerOrder.attribute?, known]
    | some clientId => simp [ReportedOrder.getOrderField, ReportedOrder.field?,
        BrokerOrder.attribute?, known]
  have side : context.formats.lower (context.str (.side order.side)) =
      TextFormats.MapsAscii.sideMember order.side := maps.lower_sideMember _
  unfold MappingContext.buildRecordFromBrokerOrder
  rw [identified, sided, typed, client]
  dsimp only [Option.map_some, Option.getD_some]
  rw [side]
  cases known : order.clientId with
  | none =>
      exact ⟨_, rfl, rfl, rfl, fun _ absent => nomatch absent⟩
  | some given =>
      rw [Option.map_some]
      by_cases blank : given = ""
      · have falsy : (some (FieldValue.text given)).filter MappingContext.truthy =
            none := by
          rw [blank]
          rfl
        rw [falsy]
        refine ⟨_, rfl, rfl, rfl, fun clientId same nonempty => ?_⟩
        cases same
        exact absurd blank nonempty
      · have truthy : (some (FieldValue.text given)).filter MappingContext.truthy =
            some (.text given) := by
          simp [MappingContext.truthy, blank]
        rw [truthy]
        exact ⟨_, rfl, rfl, rfl, fun clientId same _ => Option.some.inj same⟩

theorem sideMember_ne_empty (side : OrderSide) :
    TextFormats.MapsAscii.sideMember side ≠ "" := by
  cases side <;> decide +kernel

theorem record_of_dict {fields : Dict String String} {text botId : String}
    {now : DateTime} {record : OrderRecord} (sided : fields.get? "side" = some text)
    (built : context.buildRecordFromBrokerOrder (.dict fields) botId now =
      some record) : record.side = context.formats.lower text := by
  have side : (ReportedOrder.dict fields).getOrderField ["side"] =
      some (.text text) := by
    simp [ReportedOrder.getOrderField, ReportedOrder.field?, sided]
  unfold MappingContext.buildRecordFromBrokerOrder at built
  rw [side] at built
  dsimp only [Option.map_some, Option.getD_some] at built
  split at built
  · have same := Option.some.inj built
    rw [← same]
    rfl
  · cases built

end Objects

/-- The mapping fails an order object: its record has no side and no type that the
store could accept, and is refused over every row of an admitted intent. -/
structure FailsObject (context : MappingContext) (order : BrokerOrder)
    (botId : String) (now : DateTime) : Prop where
  record : ∃ record,
    context.buildRecordFromBrokerOrder (.object order) botId now = some record ∧
    record.side ≠ "buy" ∧ record.side ≠ "sell" ∧
    (∀ type : OrderType, context.formats.upper record.orderType ≠ type.value) ∧
    ∀ fields text other, fields.get? "side" = some text →
      context.formats.lower text = context.formats.lower order.side.value →
      context.buildRecordFromBrokerOrder (.dict fields) botId now = some other →
      other.side ≠ record.side
  refused : ∀ record clientId existing (store : OrdersStore),
    order.clientId = some clientId → clientId ≠ "" → store.Idle →
    store.database.getOrderByClientOrderId context.toOrdersContext clientId =
      .ok (some existing) →
    existing.intent?.isSome →
    ∃ updated error,
      (refreshMissingPersistedOrder context record (.object order) botId now
        store).1 = .refused updated error ∧
      (refreshMissingPersistedOrder context record (.object order) botId now
        store).2.database = store.database

/-- Every order object is mapped to a record that no intent accepts. -/
theorem order_objects_are_refused (context : MappingContext)
    (maps : context.formats.MapsAscii) (order : BrokerOrder) (botId : String)
    (now : DateTime) : FailsObject context order botId now := by
  obtain ⟨update, built, side, orderType, client⟩ :=
    record_of_object maps order botId now
  constructor
  · refine ⟨update, built, ?_, ?_, ?_, ?_⟩
    · rw [side]
      cases order.side <;> decide +kernel
    · rw [side]
      cases order.side <;> decide +kernel
    · intro type
      rw [orderType]
      exact maps.upper_typeMember order.type type
    · intro fields text other sided spelled read
      rw [record_of_dict sided read, spelled, side]
      exact maps.lower_side order.side
  · intro record clientId existing store identified nonempty idle found admitted
    have named : (refreshedRecord record update botId now).clientOrderId =
        clientId := client clientId identified nonempty
    have sided : (refreshedRecord record update botId now).side =
        TextFormats.MapsAscii.sideMember order.side := by
      show textOr update.side record.side = _
      unfold textOr
      rw [side, if_neg (sideMember_ne_empty order.side)]
    rw [← named] at found
    have refuses := upsertByClientId_refuses idle found admitted fun other => by
      rw [sided]
      exact maps.upper_sideMember order.side other
    obtain ⟨error, raised, unchanged⟩ := refuses
    unfold refreshMissingPersistedOrder
    rw [built]
    dsimp only
    generalize OrdersStore.upsertByClientId context.toOrdersContext
      (refreshedRecord record update botId now) true store = outcome
      at raised unchanged ⊢
    obtain ⟨result, after⟩ := outcome
    cases raised
    exact ⟨_, _, rfl, unchanged⟩

def plainMapping : MappingContext :=
  { plainContext with
    strDateTime := fun _ => "1970-01-01 00:00:00+00:00"
    localInstant := DateTime.instant
    time := 0 }

def reportedPurchase : BrokerOrder :=
  { id := "o1"
    symbol := "BTC-USD"
    side := .buy
    type := .limit
    quantity := .finite 2
    status := .filled
    filledQuantity := .finite 2
    price := some (.finite 100)
    tif := .gtc
    clientId := some "c1"
    avgFillPrice := some (.finite 100)
    submittedAt := none
    updatedAt := none
    createdAt := some (.utc 0) }

/-- The purchase of an order object is refused. -/
theorem reported_purchase_is_refused :
    FailsObject plainMapping reportedPurchase "bot" (.utc 0) :=
  order_objects_are_refused plainMapping ⟨fun _ _ => rfl, fun _ _ => rfl⟩
    reportedPurchase "bot" (.utc 0)

def purchaseFields : Dict String String :=
  .ofList
    [("order_id", "o1"), ("client_order_id", "c1"), ("product_id", "BTC-USD"),
      ("side", "BUY"), ("order_type", "LIMIT"), ("size", "2"), ("price", "100"),
      ("status", "FILLED"), ("filled_size", "2"), ("average_filled_price", "100"),
      ("tif", "GTC")]

/-- The object's record is of another side, type and time in force than the
dictionary's. -/
theorem purchase_maps_differently :
    ((plainMapping.buildRecordFromBrokerOrder (.object reportedPurchase) "bot"
      (.utc 0)).map fun record =>
        (record.side, record.orderType, record.timeInForce)) =
      some ("orderside.buy", "ordertype.limit", "TimeInForce.GTC") ∧
    ((plainMapping.buildRecordFromBrokerOrder (.dict purchaseFields) "bot"
      (.utc 0)).map fun record =>
        (record.side, record.orderType, record.timeInForce)) =
      some ("buy", "limit", "GTC") := by
  decide +kernel

end GptTrader
