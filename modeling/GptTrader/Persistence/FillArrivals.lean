import GptTrader.Persistence.RecordedFills
import GptTrader.Persistence.OrderRuns

/-!
# Fills in any order

Identified fills of an order may be recorded in any order and any number of
times.  Its row is advanced to the sum of the fills recorded so far, unless it
reported as much before, so that only the set of the fills matters in the end.
An admitted intent bounds the fills; without one nothing does.
-/

namespace GptTrader

namespace OrdersStore

/-- The store after some calls of `record_fill`, each with its time and however
it ends. -/
def recordFills (context : OrdersContext) (calls : List (FillFact × ℤ))
    (store : OrdersStore) : OrdersStore :=
  calls.foldl
    (fun reached call =>
      (recordFill context call.1 (.utc call.2) reached).2)
    store

end OrdersStore

/-- An order at its venue: the row that the database has of it, its quantity
and what the row reports as filled. -/
structure OrderAtVenue where
  venueId : String
  row : OrderRecord
  quantity : ℚ
  filled : ℚ

namespace OrderAtVenue

def record (order : OrderAtVenue) : OrderRecord :=
  .ofRow order.row

/-- The fill is one of the order. -/
structure Executes (order : OrderAtVenue) (formats : TextFormats)
    (fact : FillFact) : Prop where
  venue : fact.orderId = order.venueId
  symbol : fact.symbol = order.row.symbol
  side : fact.side = formats.lower order.row.side
  client : fact.clientOrderId = "" ∨
    fact.clientOrderId = order.row.clientOrderId

def Names (order : OrderAtVenue) (fact : FillFact) : Prop :=
  fact.clientOrderId ≠ "" ∧ fact.clientOrderId = order.row.clientOrderId

def filledRecord (order : OrderAtVenue) (fills : List FillFact)
    (now : DateTime) : OrderRecord :=
  { order.record with
    orderId := order.venueId
    filledQuantity := .finite (OrdersStore.totalQuantity fills)
    averageFillPrice := some (.finite
      (OrdersStore.totalNotional fills / OrdersStore.totalQuantity fills))
    status :=
      if OrdersStore.totalQuantity fills = order.quantity then .filled
      else .partiallyFilled
    updatedAt := now }

/-- The row after its fills: unchanged when it reported no less before, else
advanced to them.  Only the time of the last advance and the checksum over it
are left open. -/
def FilledTo (order : OrderAtVenue) (fills : List FillFact)
    (row : OrderRecord) : Prop :=
  if order.filled < OrdersStore.totalQuantity fills then
    ∃ now checksum, row = (order.filledRecord fills now).stored checksum
  else row = order.row

/-- The row can be advanced: it is known under an identifier, passes its checksum, and
an update that repeats it agrees with the admitted intent, if it has one. -/
structure Readable (order : OrderAtVenue) (context : OrdersContext) : Prop where
  quantity : order.row.quantity = .finite order.quantity
  amount : order.row.filledQuantity = .finite order.filled
  located : order.row.orderId = order.venueId ∨
    order.row.orderId = order.row.clientOrderId ∧ order.row.status = .pending
  checked : order.record.checksumIsValid context = true
  agrees : keepIntent context order.record order.record = .ok order.record

/-- Different fills of the order within its quantity, which reach its row; a final
receipt has at least these. -/
structure FillSet (order : OrderAtVenue) (formats : TextFormats)
    (fills : List FillFact) : Prop where
  executes : ∀ fact ∈ fills, order.Executes formats fact
  distinct : (fills.map FillFact.fillId).Nodup
  within : OrdersStore.totalQuantity fills ≤ order.quantity
  reached : order.row.orderId = order.venueId ∨
    (∀ fact ∈ fills, order.Names fact) ∨
      order.filled = 0 ∧ ∃ fact ∈ fills, order.Names fact
  unfinished : order.row.status.venueTerminal = true →
    OrdersStore.totalQuantity fills ≤ order.filled

/-- The database has one row of the order, which reports the fills recorded so
far, and no opening baseline that forbids one of the fills. -/
structure Held (order : OrderAtVenue) (fills recorded : List FillFact)
    (database : OrdersDatabase) : Prop where
  versions : database.schemaVersions = [1]
  sole : OnlyRow order.row.clientOrderId order.venueId order.row database
  facts : (database.fillFacts.filter fun row =>
    decide (row.orderId = order.venueId)) = recorded.map .ofFact
  once : recorded.Nodup
  members : ∀ fact ∈ recorded, fact ∈ fills
  counted : OrdersStore.totalQuantity recorded ≤ order.filled
  uncovered : ∀ fact ∈ fills, database.baselineAllows fact = .ok ()

end OrderAtVenue

/-- Calls that record the fills of a set, in any order and with any repetitions, on a
clock that does not go back and has passed every execution. -/
structure Arrivals (fills recorded : List FillFact)
    (calls : List (FillFact × ℤ)) : Prop where
  members : ∀ call ∈ calls, call.1 ∈ fills
  every : ∀ fact ∈ fills, fact ∈ recorded ∨ fact ∈ calls.map Prod.fst
  clock : calls.Pairwise fun earlier later => earlier.2 ≤ later.2
  executed : ∀ call ∈ calls, call.1.executedAt ≤ call.2
  past : ∀ call ∈ calls, ∀ fact ∈ recorded, fact.executedAt ≤ call.2

/-- A store without an open transaction, an order that it holds, a set of the
order's fills and calls that record them. -/
structure FillRun (context : OrdersContext) where
  store : OrdersStore
  order : OrderAtVenue
  fills : List FillFact
  recorded : List FillFact
  calls : List (FillFact × ℤ)
  idle : store.Idle
  readable : order.Readable context
  set : order.FillSet context.formats fills
  held : order.Held fills recorded store.database
  arrivals : Arrivals fills recorded calls

def OrderRecord.FilledWithin (record : OrderRecord) : Prop :=
  record.intent?.any Json.truthy = true →
    record.quantity.lt record.filledQuantity ≠ .ok true

/-! ## Updates of a row by its fills -/

/-- The record differs from the row in its fills only. -/
structure Refills (row record : OrderRecord) : Prop where
  client : record.clientOrderId = row.clientOrderId
  symbol : record.symbol = row.symbol
  side : record.side = row.side
  orderType : record.orderType = row.orderType
  quantity : record.quantity = row.quantity
  facts : record.facts = row.facts
  created : record.createdAt = row.createdAt

/-- The fills of the record are within a quantity, and all of it when the record
is complete. -/
structure FillsUpTo (quantity filled : ℚ) (record : OrderRecord) : Prop where
  amount : record.filledQuantity = .finite filled
  positive : 0 < filled
  within : filled ≤ quantity
  complete : record.status = .filled → filled = quantity
  priced : ∃ price, record.averageFillPrice = some (.finite price) ∧ 0 < price

section Updates

variable {context : OrdersContext} {row record : OrderRecord}
variable {quantity filled : ℚ}

theorem validateReceipt_of_refills (regular : context.Regular)
    {intent : OrderIntent}
    (checked : intent.validateReceipt context.formats row.observed = .ok ())
    (same : Refills row record) (sized : row.quantity = .finite quantity)
    (fills : FillsUpTo quantity filled record) :
    intent.validateReceipt context.formats record.observed = .ok () := by
  simp only [OrderIntent.validateReceipt, OrderRecord.observed,
    Outcome.bind_eq_ok] at checked
  obtain ⟨_, client, _, symbol, _, side, _, orderType, _, sizedAlike, _,
    reduceOnly, _⟩ := checked
  have whole : quantity = intent.quantity := by
    have equal := quantityAgrees_eq_ok sizedAlike
    rw [sized] at equal
    exact Decimal.finite.inj equal
  obtain ⟨price, reported, positive⟩ := fills.priced
  have filledAlike : intent.fillAgrees
      ((some record.status.value).any fun status =>
        decide (context.formats.upper status = "FILLED"))
      (some record.filledQuantity) = .ok () := by
    rw [fills.amount]
    apply fillAgrees_of_within fills.positive.le (whole ▸ fills.within)
    intro complete
    rw [← whole]
    exact fills.complete
      ((regular.filled record.status).mp (of_decide_eq_true complete))
  simp only [OrderIntent.validateReceipt, OrderRecord.observed,
    Outcome.bind_eq_ok]
  rw [same.client, same.symbol, same.side, same.orderType, same.quantity,
    reported]
  exact ⟨(), client, (), symbol, (), side, (), orderType, (), sizedAlike, (),
    reduceOnly, (), filledAlike, fillPriceAgrees_of_pos positive⟩

section

variable (regular : context.Regular) (agrees : keepIntent context row row = .ok row)
variable (same : Refills row record) (sized : row.quantity = .finite quantity)
variable (fills : FillsUpTo quantity filled record)

include regular agrees same sized fills

theorem keepIntent_of_refills :
    keepIntent context row record = .ok record := by
  unfold keepIntent at agrees ⊢
  rw [same.facts, ← same.created]
  cases carried : row.facts.get? "intent" with
  | none =>
      dsimp only
      split <;> rfl
  | some payload =>
      rw [carried] at agrees
      simp only [Outcome.bind_eq_ok, Outcome.mapError_eq_ok] at agrees
      obtain ⟨_, intentKept, _, versionKept, _, reduceOnlyKept, _,
        leverageKept, intent, decoded, _, checked, _⟩ := agrees
      have merged : some (row.facts.merge row.facts) = record.metadata := by
        rw [Dict.merge_self, ← same.facts]
        cases present : record.metadata with
        | none =>
            rw [← same.facts, OrderRecord.facts, present] at carried
            cases carried
        | some metadata =>
            unfold OrderRecord.facts
            rw [present]
            rfl
      have receipt : intent.validateReceipt context.formats row.observed =
          .ok () := checked
      have valid := validateReceipt_of_refills regular receipt same sized fills
      simp only [Outcome.bind_eq_ok, Outcome.mapError_eq_ok, merged]
      exact ⟨(), intentKept, (), versionKept, (), reduceOnlyKept, (),
        leverageKept, intent, decoded, (), valid, trivial⟩

theorem preserveIntent_of_refills {before : ℚ}
    (amount : row.filledQuantity = .finite before) (ahead : before < filled)
    (unfinished : row.status.venueTerminal = false) :
    preserveIntent context row record = .ok record := by
  unfold preserveIntent
  rw [keepIntent_of_refills regular agrees same sized fills]
  refine Outcome.bind_eq_ok.mpr ⟨record, rfl, ?_⟩
  rw [fillAdvances_finite amount fills.amount fills.positive.le,
    if_neg ahead.not_gt, unfinished]
  rfl

end

theorem upsertResult_of_refills (regular : context.Regular)
    {clientId venueId : String} {stored : OrderRecord}
    {database : OrdersDatabase}
    (sole : OnlyRow clientId venueId stored database)
    (read : OrderRecord.ofRow stored = row)
    (checked : row.checksumIsValid context = true)
    (agrees : keepIntent context row row = .ok row)
    (same : Refills row record) (venue : record.orderId = venueId)
    (sized : row.quantity = .finite quantity)
    (fills : FillsUpTo quantity filled record) {before : ℚ}
    (amount : row.filledQuantity = .finite before) (ahead : before < filled)
    (unfinished : row.status.venueTerminal = false) :
    ∃ checksum changed, upsertResult context record database = .ok changed ∧
      OnlyRow clientId venueId (record.stored checksum) changed ∧
      (record.stored checksum).checksumIsValid context = true := by
  have client : record.clientOrderId = clientId := by
    rw [same.client, ← read]
    exact sole.stored.2
  have created : record.createdAt = stored.createdAt := by
    rw [same.created, ← read]
    rfl
  obtain ⟨checksum, computed, valid⟩ :=
    exists_checksum regular.digest checked same.facts
  obtain ⟨changed, written, replaced⟩ :=
    sole.upsert (record.stored checksum) client venue created
  refine ⟨checksum, changed, ?_, replaced, valid⟩
  have found := sole.getOrderByClientOrderId (by rw [read]; exact checked)
  rw [read] at found
  unfold upsertResult
  rw [client, found]
  refine Outcome.bind_eq_ok.mpr ⟨some row, rfl, ?_⟩
  refine Outcome.bind_eq_ok.mpr ⟨record, ?_, ?_⟩
  · exact preserveIntent_of_refills regular agrees same sized fills amount ahead
      unfinished
  · exact Outcome.bind_eq_ok.mpr ⟨checksum, computed, written⟩

end Updates

/-! ## The row of an order on the way -/

namespace OrderAtVenue

/-- The row once some fills are recorded: as it was while they are no more than
it reported or did not reach it, and then advanced to all of them. -/
inductive RowAfter (order : OrderAtVenue) (context : OrdersContext)
    (recorded : List FillFact) : OrderRecord → Prop where
  | unchanged
      (quiet : OrdersStore.totalQuantity recorded ≤ order.filled ∨
        order.row.orderId ≠ order.venueId ∧
          ∀ fact ∈ recorded, ¬order.Names fact) :
      RowAfter order context recorded order.row
  | advanced (now : DateTime) (checksum : String)
      (ahead : order.filled < OrdersStore.totalQuantity recorded)
      (valid : ((order.filledRecord recorded now).stored
        checksum).checksumIsValid context = true) :
      RowAfter order context recorded
        ((order.filledRecord recorded now).stored checksum)

/-- A record of the order that has some fills and can be advanced to any more of
the total. -/
structure Advanceable (order : OrderAtVenue) (context : OrdersContext)
    (total filled : ℚ) (record : OrderRecord) : Prop where
  client : record.clientOrderId = order.row.clientOrderId
  symbol : record.symbol = order.row.symbol
  side : record.side = order.row.side
  located : record.orderId = order.venueId ∨
    record.orderId = record.clientOrderId ∧ record.status = .pending
  checked : record.checksumIsValid context = true
  agrees : keepIntent context record record = .ok record
  quantity : record.quantity = .finite order.quantity
  amount : record.filledQuantity = .finite filled
  unfinished : filled < total → record.status.venueTerminal = false
  likewise : ∀ (recorded : List FillFact) (fact : FillFact) (now : DateTime)
      (checksum : String), fact.orderId = order.venueId →
    (OrdersStore.withFills record fact (OrdersStore.totalQuantity recorded)
      (OrdersStore.totalNotional recorded)
      (decide (OrdersStore.totalQuantity recorded = order.quantity))
      now).stored checksum = (order.filledRecord recorded now).stored checksum

section Rows

variable {order : OrderAtVenue} {context : OrdersContext}
variable {fills recorded : List FillFact} {row : OrderRecord}

theorem totalQuantity_pos_of_ne_nil (present : recorded ≠ []) :
    0 < OrdersStore.totalQuantity recorded := by
  rw [← List.dropLast_concat_getLast present]
  exact totalQuantity_pos _ _

theorem averagePrice_pos (present : recorded ≠ []) :
    0 < OrdersStore.totalNotional recorded /
      OrdersStore.totalQuantity recorded := by
  apply div_pos _ (totalQuantity_pos_of_ne_nil present)
  rw [← List.dropLast_concat_getLast present]
  exact totalNotional_pos _ _

theorem filledRecord_refills (now : DateTime) (checksum : String) :
    Refills order.record
      ((order.filledRecord recorded now).stored checksum) :=
  { client := rfl
    symbol := rfl
    side := rfl
    orderType := rfl
    quantity := rfl
    facts := stored_facts _ _
    created := rfl }

theorem nonzero_of_pos {price : ℚ} (positive : 0 < price) :
    OrderRecord.nonzero (some (.finite price)) = some (.finite price) := by
  simp [OrderRecord.nonzero, Option.filter, Decimal.isZero, positive.ne']

theorem filledRecord_fillsUpTo (present : recorded ≠ [])
    (within : OrdersStore.totalQuantity recorded ≤ order.quantity)
    (now : DateTime) (checksum : String) :
    FillsUpTo order.quantity (OrdersStore.totalQuantity recorded)
      ((order.filledRecord recorded now).stored checksum) :=
  { amount := rfl
    positive := totalQuantity_pos_of_ne_nil present
    within := within
    complete := fun complete => by
      by_contra partly
      simp [OrderRecord.stored, filledRecord, partly] at complete
    priced :=
      ⟨_, nonzero_of_pos (averagePrice_pos present),
        averagePrice_pos present⟩ }

theorem keepIntent_congr {left right record : OrderRecord}
    (facts : left.facts = right.facts)
    (created : left.createdAt = right.createdAt) :
    keepIntent context left record = keepIntent context right record := by
  unfold keepIntent
  rw [facts, created]

/-- The row can be advanced at any time. -/
theorem advanceable_of_rowAfter (regular : context.Regular)
    (readable : order.Readable context)
    (set : order.FillSet context.formats fills)
    (once : recorded.Nodup) (members : ∀ fact ∈ recorded, fact ∈ fills)
    (nonneg : 0 ≤ order.filled)
    (after : order.RowAfter context recorded row) :
    ∃ filled, order.Advanceable context (OrdersStore.totalQuantity fills)
        filled (OrderRecord.ofRow row) ∧
      (row = order.row ∧ filled = order.filled ∨
        row.orderId = order.venueId ∧
          order.filled < OrdersStore.totalQuantity recorded ∧
          filled = OrdersStore.totalQuantity recorded) := by
  have counted := totalQuantity_le_of_subset once members
  cases after with
  | unchanged quiet =>
      refine ⟨order.filled, ?_, .inl ⟨rfl, rfl⟩⟩
      exact
        { client := rfl
          symbol := rfl
          side := rfl
          located := readable.located
          checked := readable.checked
          agrees := readable.agrees
          quantity := readable.quantity
          amount := readable.amount
          unfinished := fun ahead => by
            by_contra terminal
            rw [Bool.not_eq_false] at terminal
            exact absurd (set.unfinished terminal) (not_le.mpr ahead)
          likewise := fun recorded fact now checksum venue => by
            unfold OrdersStore.withFills filledRecord
            simp only [venue, decide_eq_true_eq]
            rfl }
  | advanced now checksum ahead valid =>
      have present : recorded ≠ [] := by
        rintro rfl
        exact absurd ahead (not_lt.mpr nonneg)
      have spelled : ((order.filledRecord recorded now).stored
          checksum).timeInForce ≠ "" := ofRow_spelled order.row
      have refills : Refills order.record
          ((order.filledRecord recorded now).stored checksum) :=
        filledRecord_refills now checksum
      have fillsUpTo := filledRecord_fillsUpTo present
        (counted.trans set.within) now checksum
      refine ⟨OrdersStore.totalQuantity recorded, ?_, .inr ⟨rfl, ahead, rfl⟩⟩
      rw [ofRow_of_spelled spelled]
      exact
        { client := rfl
          symbol := rfl
          side := rfl
          located := .inl rfl
          checked := valid
          agrees := by
            rw [keepIntent_congr refills.facts refills.created]
            exact keepIntent_of_refills regular readable.agrees refills
              readable.quantity fillsUpTo
          quantity := readable.quantity
          amount := rfl
          unfinished := fun more => by
            have incomplete : OrdersStore.totalQuantity recorded ≠
                order.quantity := (more.trans_le set.within).ne
            simp [OrderRecord.stored, filledRecord, incomplete,
              OrderStatus.venueTerminal]
          likewise := fun others fact later other venue => by
            unfold OrdersStore.withFills filledRecord OrderRecord.stored
            simp only [venue, nonzero_nonzero, Option.filter_filter,
              Bool.and_self, decide_eq_true_eq] }

theorem fillOrder_of_executes {database : OrdersDatabase} {fact : FillFact}
    (sole : OnlyRow order.row.clientOrderId order.venueId row database)
    (checked : (OrderRecord.ofRow row).checksumIsValid context = true)
    (executes : order.Executes context.formats fact) :
    database.fillOrder context fact =
      .ok (if row.orderId = order.venueId ∨
          (fact.clientOrderId ≠ "" ∧
            fact.clientOrderId = order.row.clientOrderId) then
        some (OrderRecord.ofRow row) else none) := by
  unfold OrdersDatabase.fillOrder
  rw [executes.venue]
  by_cases known : row.orderId = order.venueId
  · rw [sole.getOrder_of_known known]
    dsimp only
    rw [if_pos (.inl known)]
  · rw [sole.getOrder_of_unknown known]
    dsimp only
    by_cases blank : fact.clientOrderId = ""
    · rw [if_pos blank, if_neg]
      rintro (same | named)
      · exact known same
      · exact named.1 blank
    · have named := executes.client.resolve_left blank
      rw [if_neg blank, if_pos (.inr ⟨blank, named⟩), named]
      exact sole.getOrderByClientOrderId checked

theorem fillMatches_of_executes {fact : FillFact} {total filled : ℚ}
    {record : OrderRecord}
    (advanceable : order.Advanceable context total filled record)
    (executes : order.Executes context.formats fact) :
    OrdersDatabase.fillMatches context fact record = .ok () := by
  unfold OrdersDatabase.fillMatches
  rw [if_neg, if_neg, if_neg]
  · rw [advanceable.symbol, advanceable.side, advanceable.client]
    rintro (symbol | side | client)
    · exact symbol executes.symbol.symm
    · exact side executes.side.symm
    · exact client.2 (executes.client.resolve_left client.1)
  · rw [advanceable.checked]
    simp
  · rintro ⟨unknown, conflict⟩
    rcases advanceable.located with known | ⟨same, pending⟩
    · exact unknown (known.trans executes.venue.symm)
    · exact conflict.elim (fun differs => differs same)
        fun other => other pending

theorem advanceOrder_of_advanceable (regular : context.Regular)
    {database : OrdersDatabase} {fact : FillFact} {total filled : ℚ} (now : ℤ)
    (sole : OnlyRow order.row.clientOrderId order.venueId row database)
    (advanceable :
      order.Advanceable context total filled (OrderRecord.ofRow row))
    (venue : fact.orderId = order.venueId) (present : recorded ≠ [])
    (reached : OrdersStore.totalQuantity recorded ≤ total)
    (within : OrdersStore.totalQuantity recorded ≤ order.quantity)
    (ahead : filled < OrdersStore.totalQuantity recorded) :
    ∃ checksum changed,
      advanceOrder context (OrderRecord.ofRow row) fact
          (OrdersStore.totalQuantity recorded)
          (OrdersStore.totalNotional recorded) (.utc now) database =
        .ok changed ∧
      OnlyRow order.row.clientOrderId order.venueId
        ((order.filledRecord recorded (.utc now)).stored checksum) changed ∧
      ((order.filledRecord recorded (.utc now)).stored
        checksum).checksumIsValid context = true := by
  have unfinished := advanceable.unfinished (ahead.trans_le reached)
  let record := OrdersStore.withFills (OrderRecord.ofRow row) fact
    (OrdersStore.totalQuantity recorded) (OrdersStore.totalNotional recorded)
    (decide (OrdersStore.totalQuantity recorded = order.quantity)) (.utc now)
  have refills : Refills (OrderRecord.ofRow row) record :=
    ⟨rfl, rfl, rfl, rfl, rfl, rfl, rfl⟩
  have fillsUpTo : FillsUpTo order.quantity
      (OrdersStore.totalQuantity recorded) record :=
    { amount := rfl
      positive := totalQuantity_pos_of_ne_nil present
      within := within
      complete := fun complete => by
        by_contra partly
        simp [record, OrdersStore.withFills, partly] at complete
      priced := ⟨_, rfl, averagePrice_pos present⟩ }
  obtain ⟨checksum, changed, result, replaced, valid⟩ :=
    upsertResult_of_refills regular sole rfl advanceable.checked
      advanceable.agrees refills venue advanceable.quantity fillsUpTo
      advanceable.amount ahead unfinished
  have same := advanceable.likewise recorded fact (.utc now) checksum venue
  rw [same] at replaced valid
  refine ⟨checksum, changed, ?_, replaced, valid⟩
  unfold advanceOrder
  rw [advanceable.amount]
  simp only [Decimal.lt_finite, ahead, decide_true, Except.mapError]
  change upsertFills context (OrderRecord.ofRow row) fact _ _ (.utc now)
    database = _
  unfold upsertFills
  rw [if_pos unfinished, advanceable.quantity]
  exact result

end Rows

/-! ## Runs of recorded fills -/

/-- A database on the way: some fills of the set are recorded, and the row is
where they take it. -/
structure Follows (order : OrderAtVenue) (context : OrdersContext)
    (fills recorded : List FillFact) (database : OrdersDatabase) : Prop where
  versions : database.schemaVersions = [1]
  facts : (database.fillFacts.filter fun row =>
    decide (row.orderId = order.venueId)) = recorded.map .ofFact
  once : recorded.Nodup
  members : ∀ fact ∈ recorded, fact ∈ fills
  uncovered : ∀ fact ∈ fills, database.baselineAllows fact = .ok ()
  row : ∃ row, OnlyRow order.row.clientOrderId order.venueId row database ∧
    order.RowAfter context recorded row

section Runs

variable {order : OrderAtVenue} {context : OrdersContext}
variable {fills recorded : List FillFact} {fact : FillFact}
variable {database changed : OrdersDatabase} {store : OrdersStore} {now : ℤ}

theorem Held.follows (held : order.Held fills recorded database) :
    order.Follows context fills recorded database :=
  { versions := held.versions
    facts := held.facts
    once := held.once
    members := held.members
    uncovered := held.uncovered
    row := ⟨order.row, held.sole, .unchanged (.inl held.counted)⟩ }

theorem Held.nonneg (held : order.Held fills recorded database) :
    0 ≤ order.filled :=
  (totalQuantity_nonneg recorded).trans held.counted

theorem Follows.record (follows : order.Follows context fills recorded database)
    (member : fact ∈ fills) (fresh : fact ∉ recorded) {orders}
    (facts : ((database.fillFacts ++ [FillFactRow.ofFact fact]).filter fun row =>
      decide (row.orderId = order.venueId)) = (recorded ++ [fact]).map .ofFact)
    {row : OrderRecord}
    (sole : OnlyRow order.row.clientOrderId order.venueId row
      { database with
        orders := orders
        fillFacts := database.fillFacts ++ [.ofFact fact] })
    (after : order.RowAfter context (recorded ++ [fact]) row) :
    order.Follows context fills (recordOnce recorded fact)
      { database with
        orders := orders
        fillFacts := database.fillFacts ++ [.ofFact fact] } := by
  have once : (recordOnce recorded fact).Nodup :=
    nodup_recordOnce follows.once
  have extended : recordOnce recorded fact = recorded ++ [fact] :=
    if_neg fresh
  rw [extended] at once ⊢
  exact
    { versions := follows.versions
      facts := facts
      once := once
      members := fun other stored => by
        rcases List.mem_append.mp stored with earlier | last
        · exact follows.members other earlier
        · rw [List.mem_singleton.mp last]
          exact member
      uncovered := follows.uncovered
      row := ⟨row, sole, after⟩ }

theorem rowAfter_of_unreached (set : order.FillSet context.formats fills)
    {row : OrderRecord} (member : fact ∈ fills)
    (after : order.RowAfter context recorded row)
    (unknown : row.orderId ≠ order.venueId) (unnamed : ¬order.Names fact) :
    order.RowAfter context (recorded ++ [fact]) row := by
  cases after with
  | advanced now checksum ahead valid => exact absurd rfl unknown
  | unchanged quiet =>
      have silent : ∀ other ∈ recorded, ¬order.Names other := by
        rcases quiet with counted | ⟨_, silent⟩
        · rcases set.reached with known | named | ⟨nothing, _⟩
          · exact absurd known unknown
          · exact absurd (named fact member) unnamed
          · have blank : recorded = [] := by
              by_contra present
              have positive := totalQuantity_pos_of_ne_nil present
              rw [nothing] at counted
              exact absurd positive (not_lt.mpr counted)
            rw [blank]
            simp
        · exact silent
      refine .unchanged (.inr ⟨unknown, ?_⟩)
      intro other stored
      rcases List.mem_append.mp stored with earlier | last
      · exact silent other earlier
      · rw [List.mem_singleton.mp last]
        exact unnamed

section

variable (regular : context.Regular) (readable : order.Readable context)
variable (set : order.FillSet context.formats fills) (nonneg : 0 ≤ order.filled)

include regular readable set nonneg

/-- Recording a fill of the set is done: it is stored unless it was recorded,
and takes the row along. -/
theorem fillAttempt_follows (follows : order.Follows context fills recorded database)
    (member : fact ∈ fills) (past : ∀ other ∈ recorded, other.executedAt ≤ now) :
    ∃ changed, fillAttempt context fact (.utc now) database =
        .done (decide (fact ∉ recorded)) changed ∧
      order.Follows context fills (recordOnce recorded fact) changed := by
  obtain ⟨row, sole, after⟩ := follows.row
  obtain ⟨filled, advanceable, state⟩ := advanceable_of_rowAfter regular
    readable set follows.once follows.members nonneg after
  have executes := set.executes fact member
  have unique : ∀ other ∈ recorded, other.fillId = fact.fillId →
      other = fact := fun other stored same =>
    List.inj_on_of_nodup_map set.distinct (follows.members other stored) member
      same
  have more : fact ∉ recorded →
      OrdersStore.totalQuantity (recorded ++ [fact]) ≤
        OrdersStore.totalQuantity fills := by
    intro fresh
    have extended : recordOnce recorded fact = recorded ++ [fact] :=
      if_neg fresh
    rw [← extended]
    apply totalQuantity_le_of_subset (nodup_recordOnce follows.once)
    intro other stored
    exact (mem_recordOnce.mp stored).elim (follows.members other)
      fun same => same ▸ member
  have attempted := fillAttempt_eq
    (fillOrder_of_executes sole advanceable.checked executes)
    (fun record located => by
      split at located
      · cases located
        exact fillMatches_of_executes advanceable executes
      · cases located)
    (by
      rw [executes.venue]
      exact facts_of_recorded follows.facts past)
    (fun other stored => by
      have alike := set.executes other (follows.members other stored)
      exact ⟨alike.venue.trans executes.venue.symm,
        alike.symbol.trans executes.symbol.symm,
        alike.side.trans executes.side.symm⟩)
    unique (follows.uncovered fact member)
    (fun fresh record located => by
      split at located
      · cases located
        exact fillsWithinIntent_of_le advanceable.quantity
          ((more fresh).trans set.within)
      · cases located)
  rw [attempted]
  by_cases known : fact ∈ recorded
  · have once : recordOnce recorded fact = recorded := if_pos known
    rw [if_pos known, once, decide_eq_false (not_not.mpr known)]
    exact ⟨database, rfl, follows⟩
  · have fresh : ∀ other ∈ recorded, other.fillId ≠ fact.fillId :=
      fun other stored same => known (unique other stored same ▸ stored)
    obtain ⟨inserted, facts⟩ :=
      insertFact_of_recorded follows.facts executes.venue fresh
    have held : OnlyRow order.row.clientOrderId order.venueId row
        { database with
          fillFacts := database.fillFacts ++ [.ofFact fact] } :=
      sole.of_orders rfl
    rw [if_neg known, decide_eq_true known]
    by_cases reaches : row.orderId = order.venueId ∨
        (fact.clientOrderId ≠ "" ∧
          fact.clientOrderId = order.row.clientOrderId)
    · rw [if_pos reaches]
      by_cases ahead :
          filled < OrdersStore.totalQuantity (recorded ++ [fact])
      · obtain ⟨checksum, changed, advanced, replaced, valid⟩ :=
          advanceOrder_of_advanceable regular now held advanceable
            executes.venue (by simp) (more known)
            ((more known).trans set.within) ahead
        have frame := advanceOrder_frame advanced
        have grown : order.filled <
            OrdersStore.totalQuantity (recorded ++ [fact]) := by
          rcases state with ⟨_, same⟩ | ⟨_, earlier, same⟩
          · rwa [same] at ahead
          · rw [same] at ahead
            exact earlier.trans ahead
        refine ⟨changed, ?_, ?_⟩
        · refine Attempt.afterWrite_eq_done.mpr ⟨_, inserted, ?_⟩
          unfold advanceResult
          dsimp only
          rw [advanced]
          rfl
        · rw [frame] at replaced ⊢
          exact follows.record member known facts replaced
            (.advanced (.utc now) checksum grown valid)
      · refine ⟨_, Attempt.afterWrite_eq_done.mpr ⟨_, inserted, ?_⟩,
          follows.record member known facts held ?_⟩
        · unfold advanceResult advanceOrder
          dsimp only
          rw [advanceable.amount]
          simp only [Decimal.lt_finite, ahead, decide_false, Except.mapError]
          rfl
        · rcases state with ⟨rfl, same⟩ | ⟨_, _, same⟩
          · rw [same] at ahead
            exact .unchanged (.inl (not_lt.mp ahead))
          · rw [same, totalQuantity_append] at ahead
            exact absurd (lt_add_of_pos_right _ fact.positive.1) ahead
    · rw [if_neg reaches]
      refine ⟨_, Attempt.afterWrite_eq_done.mpr ⟨_, inserted, rfl⟩,
        follows.record member known facts held ?_⟩
      exact rowAfter_of_unreached set member after
        (fun same => reaches (.inl same)) fun named => reaches (.inr named)

theorem recordFill_follows (idle : store.Idle)
    (follows : order.Follows context fills recorded store.database)
    (member : fact ∈ fills) (executed : fact.executedAt ≤ now)
    (past : ∀ other ∈ recorded, other.executedAt ≤ now) :
    ∃ reached, OrdersStore.recordFill context fact (.utc now) store =
        (.ok (decide (fact ∉ recorded)), reached) ∧ reached.Idle ∧
      order.Follows context fills (recordOnce recorded fact)
        reached.database := by
  obtain ⟨changed, done, next⟩ := fillAttempt_follows regular readable set
    nonneg follows member past
  obtain ⟨reached, returned, holds⟩ :=
    recordFill_done idle follows.versions executed done
  refine ⟨reached, returned, holds.idle, ?_⟩
  rw [holds.database]
  exact next

end

theorem mem_foldl_recordOnce {facts : List FillFact} :
    fact ∈ facts.foldl recordOnce recorded ↔
      fact ∈ recorded ∨ fact ∈ facts := by
  induction facts generalizing recorded with
  | nil => simp
  | cons first rest induction =>
      rw [List.foldl_cons, induction, mem_recordOnce, List.mem_cons, or_assoc]

/-- The order follows every fill that is recorded. -/
theorem recordFills_follows (regular : context.Regular)
    (readable : order.Readable context)
    (set : order.FillSet context.formats fills) (nonneg : 0 ≤ order.filled)
    {calls : List (FillFact × ℤ)} (idle : store.Idle)
    (follows : order.Follows context fills recorded store.database)
    (members : ∀ call ∈ calls, call.1 ∈ fills)
    (clock : calls.Pairwise fun earlier later => earlier.2 ≤ later.2)
    (executed : ∀ call ∈ calls, call.1.executedAt ≤ call.2)
    (past : ∀ call ∈ calls, ∀ fact ∈ recorded, fact.executedAt ≤ call.2) :
    (OrdersStore.recordFills context calls store).Idle ∧
      order.Follows context fills
        ((calls.map Prod.fst).foldl recordOnce recorded)
        (OrdersStore.recordFills context calls store).database := by
  induction calls generalizing store recorded with
  | nil => exact ⟨idle, follows⟩
  | cons call rest induction =>
      obtain ⟨first, others⟩ := List.pairwise_cons.mp clock
      rw [List.forall_mem_cons] at members executed past
      obtain ⟨reached, returned, settled, next⟩ := recordFill_follows regular
        readable set nonneg idle follows members.1 executed.1 past.1
      have step : OrdersStore.recordFills context (call :: rest) store =
          OrdersStore.recordFills context rest reached := by
        unfold OrdersStore.recordFills
        rw [List.foldl_cons, returned]
      rw [step]
      apply induction settled next members.2 others executed.2
      intro later member fact stored
      rcases mem_recordOnce.mp stored with earlier | same
      · exact past.2 later member fact earlier
      · rw [same]
        exact executed.1.trans (first later member)

theorem filledRecord_perm {others : List FillFact} (same : recorded.Perm others)
    (now : DateTime) :
    order.filledRecord recorded now = order.filledRecord others now := by
  have quantity : OrdersStore.totalQuantity recorded =
      OrdersStore.totalQuantity others :=
    (same.map FillFact.quantity).sum_eq
  have notional : OrdersStore.totalNotional recorded =
      OrdersStore.totalNotional others :=
    (same.map fun fact : FillFact => fact.quantity * fact.price).sum_eq
  unfold filledRecord
  rw [quantity, notional]

theorem filledTo_of_rowAfter (set : order.FillSet context.formats fills)
    (nonneg : 0 ≤ order.filled) (same : recorded.Perm fills)
    {row : OrderRecord} (after : order.RowAfter context recorded row) :
    order.FilledTo fills row := by
  have quantity : OrdersStore.totalQuantity recorded =
      OrdersStore.totalQuantity fills :=
    (same.map FillFact.quantity).sum_eq
  unfold FilledTo
  cases after with
  | advanced now checksum ahead valid =>
      rw [quantity] at ahead
      rw [if_pos ahead, filledRecord_perm same]
      exact ⟨now, checksum, rfl⟩
  | unchanged quiet =>
      rw [if_neg]
      rw [not_lt]
      rcases quiet with counted | ⟨unknown, silent⟩
      · rwa [quantity] at counted
      · rcases set.reached with known | named | ⟨_, fact, member, names⟩
        · exact absurd known unknown
        · have blank : fills = [] := by
            rw [List.eq_nil_iff_forall_not_mem]
            intro fact member
            exact silent fact (same.mem_iff.mpr member) (named fact member)
          rw [blank]
          exact nonneg
        · exact absurd names (silent fact (same.mem_iff.mpr member))

end Runs

end OrderAtVenue

namespace FillRun

variable {context : OrdersContext}

section

variable (run : FillRun context) (regular : context.Regular)

include run regular

theorem follows {earlier : List (FillFact × ℤ)} (part : earlier <+: run.calls) :
    (OrdersStore.recordFills context earlier run.store).Idle ∧
      run.order.Follows context run.fills
        ((earlier.map Prod.fst).foldl recordOnce run.recorded)
        (OrdersStore.recordFills context earlier run.store).database :=
  OrderAtVenue.recordFills_follows regular run.readable run.set
    run.held.nonneg run.idle run.held.follows
    (fun call member => run.arrivals.members call (part.subset member))
    (run.arrivals.clock.sublist part.sublist)
    (fun call member => run.arrivals.executed call (part.subset member))
    fun call member => run.arrivals.past call (part.subset member)

theorem answer {earlier later : List (FillFact × ℤ)} {call : FillFact × ℤ}
    (split : run.calls = earlier ++ call :: later) :
    (OrdersStore.recordFill context call.1 (.utc call.2)
      (OrdersStore.recordFills context earlier run.store)).1 =
        .ok (decide
          (call.1 ∉ run.recorded ∧ call.1 ∉ earlier.map Prod.fst)) := by
  have member : call ∈ run.calls := by simp [split]
  obtain ⟨idle, follows⟩ := run.follows regular ⟨call :: later, split.symm⟩
  have clock := run.arrivals.clock
  rw [split, List.pairwise_append] at clock
  obtain ⟨reached, returned, _⟩ := OrderAtVenue.recordFill_follows regular
    run.readable run.set run.held.nonneg idle follows
    (run.arrivals.members call member) (run.arrivals.executed call member)
    (fun other stored => by
      rcases OrderAtVenue.mem_foldl_recordOnce.mp stored with known | before
      · exact run.arrivals.past call member other known
      · obtain ⟨first, found, rfl⟩ := List.mem_map.mp before
        exact (run.arrivals.executed first (by simp [split, found])).trans
          (clock.2.2 first found call (by simp)))
  rw [returned]
  simp only [OrderAtVenue.mem_foldl_recordOnce, not_or]

theorem settled :
    (∃ row, (OrdersStore.recordFills context run.calls
        run.store).database.rowsOfClient run.order.row.clientOrderId = [row] ∧
      run.order.FilledTo run.fills row) ∧
    ∃ stored : List FillFact, stored.Perm run.fills ∧
      ((OrdersStore.recordFills context run.calls
          run.store).database.fillFacts.filter fun row =>
        decide (row.orderId = run.order.venueId)) = stored.map .ofFact := by
  obtain ⟨_, follows⟩ := run.follows regular (List.prefix_refl run.calls)
  have same : ((run.calls.map Prod.fst).foldl recordOnce run.recorded).Perm
      run.fills := by
    rw [List.perm_ext_iff_of_nodup follows.once run.set.distinct.of_map]
    intro fact
    refine ⟨follows.members fact, fun member => ?_⟩
    rw [OrderAtVenue.mem_foldl_recordOnce]
    exact run.arrivals.every fact member
  obtain ⟨row, sole, after⟩ := follows.row
  exact ⟨⟨row, sole.row, OrderAtVenue.filledTo_of_rowAfter run.set
    run.held.nonneg same after⟩, _, same, follows.facts⟩

end

end FillRun

/-! ## Any fills at all -/

section Bounds

variable {context : OrdersContext} {database changed : OrdersDatabase}
variable {existing record updated : OrderRecord} {store : OrdersStore}

theorem FilledWithin_of_eq (within : existing.FilledWithin)
    (intent : record.intent? = existing.intent?)
    (quantity : record.quantity = existing.quantity)
    (filled : record.filledQuantity = existing.filledQuantity) :
    record.FilledWithin := by
  unfold OrderRecord.FilledWithin at *
  rwa [intent, quantity, filled]

theorem keepIntent_facts
    (accepted : keepIntent context existing record = .ok updated)
    (same : record.facts = existing.facts) :
    updated.facts = existing.facts := by
  unfold keepIntent at accepted
  split at accepted
  · simp only [Outcome.bind_eq_ok] at accepted
    obtain ⟨_, _, _, _, _, _, _, _, _, _, _, _, returned⟩ := accepted
    cases returned
    unfold OrderRecord.facts
    rw [Option.getD_some]
    change existing.facts.merge record.facts = existing.facts
    rw [same, Dict.merge_self]
  · split at accepted <;>
      · cases accepted
        exact same

theorem upsert_filledWithin
    (upserted : database.upsert record = .ok changed)
    (within : record.FilledWithin)
    (all : ∀ row ∈ database.orders.rows, row.FilledWithin) :
    ∀ row ∈ changed.orders.rows, row.FilledWithin := by
  intro row member
  unfold OrdersDatabase.upsert at upserted
  split at upserted
  · cases upserted
    rcases Table.mem_insertOrReplace.mp member with rfl | ⟨stored, _⟩
    · exact within
    · exact all row stored
  · split at upserted
    · next orders written =>
        cases upserted
        obtain ⟨old, stored, rfl⟩ := (Table.mem_update written).mp member
        split
        · exact FilledWithin_of_eq within rfl rfl rfl
        · exact all old stored
    · cases upserted

/-- Advancing the record of a row to fills that its intent allows keeps every
admitted order within its quantity. -/
theorem advanceOrder_filledWithin {fact : FillFact} {quantity notional : ℚ}
    {now : DateTime} {row : OrderRecord} (stored : row ∈ database.orders.rows)
    (allowed : OrdersDatabase.fillsWithinIntent (OrderRecord.ofRow row)
      quantity = .ok ())
    (advanced : advanceOrder context (OrderRecord.ofRow row) fact quantity
      notional now database = .ok changed)
    (all : ∀ row ∈ database.orders.rows, row.FilledWithin) :
    ∀ row ∈ changed.orders.rows, row.FilledWithin := by
  obtain ⟨ahead, _, advanced⟩ := Outcome.bind_eq_ok.mp advanced
  cases ahead with
  | false =>
      cases advanced
      exact all
  | true =>
      obtain ⟨_, advanced⟩ := Outcome.branch_eq_ok.mp advanced
      obtain ⟨complete, _, upserted⟩ := Outcome.bind_eq_ok.mp advanced
      simp only [upsertResult, Outcome.bind_eq_ok] at upserted
      obtain ⟨existing, found, updated, accepted, checksum, _, written⟩ :=
        upserted
      apply upsert_filledWithin written _ all
      have allowed : (OrderRecord.ofRow row).intent?.any Json.truthy = true →
          (OrderRecord.ofRow row).quantity.lt (.finite quantity) =
            .ok false := by
        intro admitted
        unfold OrdersDatabase.fillsWithinIntent at allowed
        rw [if_pos admitted] at allowed
        obtain ⟨above, compared, rest⟩ := Outcome.bind_eq_ok.mp allowed
        cases above with
        | true => cases rest
        | false => exact Outcome.mapError_eq_ok.mp compared
      have kept : updated.facts = (OrderRecord.ofRow row).facts ∧
          updated.quantity = row.quantity ∧
          updated.filledQuantity = .finite quantity := by
        cases existing with
        | none =>
            cases accepted
            exact ⟨rfl, rfl, rfl⟩
        | some existing =>
            obtain ⟨other, single, rfl⟩ :=
              getOrderByClientOrderId_eq_some found
            have listed : row ∈ database.rowsOfClient row.clientOrderId :=
              mem_rowsOfClient.mpr ⟨stored, rfl⟩
            have same : row = other := by
              change database.rowsOfClient row.clientOrderId = [other]
                at single
              rw [single] at listed
              exact List.mem_singleton.mp listed
            subst same
            have keeps := (preserveIntent_eq_ok accepted).1
            refine ⟨keepIntent_facts keeps rfl, ?_, ?_⟩
            · rw [keepIntent_frame keeps]
              rfl
            · rw [keepIntent_frame keeps]
              rfl
      intro admitted above
      have intent : (updated.stored checksum).intent? =
          (OrderRecord.ofRow row).intent? := by
        unfold OrderRecord.intent?
        rw [stored_facts, kept.1]
      rw [intent] at admitted
      change updated.quantity.lt updated.filledQuantity = .ok true at above
      rw [kept.2.1, kept.2.2] at above
      have below := allowed admitted
      change row.quantity.lt (.finite quantity) = .ok false at below
      rw [below] at above
      cases above

/-- Recording a fill keeps every order within its quantity. -/
theorem fillAttempt_filledWithin {fact : FillFact} {now : DateTime}
    {value : Bool}
    (done : fillAttempt context fact now database = .done value changed)
    (all : ∀ row ∈ database.orders.rows, row.FilledWithin) :
    ∀ row ∈ changed.orders.rows, row.FilledWithin := by
  obtain ⟨existing, located, done⟩ := Attempt.afterRead_eq_done.mp done
  obtain ⟨_, _, done⟩ := Attempt.afterRead_eq_done.mp done
  obtain ⟨facts, _, done⟩ := Attempt.afterRead_eq_done.mp done
  unfold knownFillAttempt at done
  split at done
  · split at done
    · cases done
      exact all
    · cases done
  · obtain ⟨_, _, done⟩ := Attempt.afterRead_eq_done.mp done
    unfold newFillAttempt at done
    split at done
    · obtain ⟨_, allowed, done⟩ := Attempt.afterRead_eq_done.mp done
      obtain ⟨stored, inserted, advanced⟩ := Attempt.afterWrite_eq_done.mp done
      obtain ⟨_, rfl⟩ := insertFact_eq_ok.mp inserted
      cases existing with
      | none =>
          cases advanced
          exact all
      | some existing =>
          obtain ⟨reached, moved, same⟩ := Outcome.map_eq_ok.mp advanced
          cases same
          obtain ⟨row, member, _, rfl⟩ := fillOrder_eq_some located
          rw [Outcome.forM_eq_ok] at allowed
          have within := allowed (OrderRecord.ofRow row)
            (List.mem_singleton_self _)
          refine advanceOrder_filledWithin ?_ within moved ?_
          · exact member
          · exact all
    · cases done

/-- No calls of `record_fill` take an admitted order above its quantity. -/
theorem recordFills_filledWithin (calls : List (FillFact × ℤ))
    (idle : store.Idle)
    (all : ∀ row ∈ store.database.orders.rows, row.FilledWithin) :
    ∀ row ∈ (OrdersStore.recordFills context calls
      store).database.orders.rows, row.FilledWithin := by
  induction calls generalizing store with
  | nil => exact all
  | cons call rest induction =>
      change ∀ row ∈ (OrdersStore.recordFills context rest
        (OrdersStore.recordFill context call.1 (.utc call.2)
          store).2).database.orders.rows, row.FilledWithin
      rcases recordFill_cases context call.1 (.utc call.2) idle with
        ⟨value, changed, reached, returned, done, holds⟩ |
          ⟨error, reached, raised, holds⟩
      · rw [returned]
        apply induction holds.idle
        rw [holds.database]
        exact fillAttempt_filledWithin done all
      · rw [raised]
        apply induction holds.idle
        rw [holds.database]
        exact all

theorem recordFill_unchanged {fact : FillFact} {now : DateTime}
    {error : StoreError} {reached : OrdersStore} (idle : store.Idle)
    (raised : OrdersStore.recordFill context fact now store =
      (.error error, reached)) :
    reached.Idle ∧ reached.database = store.database := by
  rcases recordFill_cases context fact now idle with
    ⟨value, changed, other, returned, _⟩ | ⟨thrown, other, failed, holds⟩
  · rw [returned] at raised
    cases raised
  · rw [failed] at raised
    cases raised
    exact ⟨holds.idle, holds.database⟩

end Bounds

/-- What recording fills keeps to, whatever their order. -/
structure FillsInAnyOrder (context : OrdersContext) : Prop where
  /-- A call returns true exactly when its fill was not recorded before. -/
  answers : ∀ (run : FillRun context) (earlier later : List (FillFact × ℤ))
      (call : FillFact × ℤ), run.calls = earlier ++ call :: later →
    (OrdersStore.recordFill context call.1 (.utc call.2)
      (OrdersStore.recordFills context earlier run.store)).1 =
        .ok (decide
          (call.1 ∉ run.recorded ∧ call.1 ∉ earlier.map Prod.fst))
  /-- In the end the row of the order is filled to the set. -/
  settles : ∀ run : FillRun context,
    ∃ row, (OrdersStore.recordFills context run.calls
        run.store).database.rowsOfClient run.order.row.clientOrderId = [row] ∧
      run.order.FilledTo run.fills row
  /-- In the end the facts of the order are the set. -/
  facts : ∀ run : FillRun context,
    ∃ stored : List FillFact, stored.Perm run.fills ∧
      ((OrdersStore.recordFills context run.calls
          run.store).database.fillFacts.filter fun row =>
        decide (row.orderId = run.order.venueId)) = stored.map .ofFact
  /-- No fills take an admitted order above its quantity. -/
  bounded : ∀ (store : OrdersStore) (calls : List (FillFact × ℤ)),
    store.Idle → (∀ row ∈ store.database.orders.rows, row.FilledWithin) →
      ∀ row ∈ (OrdersStore.recordFills context calls
        store).database.orders.rows, row.FilledWithin
  /-- A call that raises has changed nothing. -/
  unchanged : ∀ (store reached : OrdersStore) (fact : FillFact)
      (now : DateTime) (error : StoreError), store.Idle →
    OrdersStore.recordFill context fact now store = (.error error, reached) →
      reached.database = store.database

/-- Identified fills are recorded in any order and with any repetitions; the sums
are exact. -/
theorem fills_recorded_in_any_order {context : OrdersContext}
    (regular : context.Regular) : FillsInAnyOrder context where
  answers run _ _ _ split := run.answer regular split
  settles run := (run.settled regular).1
  facts run := (run.settled regular).2
  bounded _ calls idle all := recordFills_filledWithin calls idle all
  unchanged _ _ _ _ _ idle raised := (recordFill_unchanged idle raised).2

section Examples

theorem plainContext_regular : plainContext.Regular where
  filled := by
    intro status
    cases status <;> decide +kernel
  digest := fun _ => by simp [plainContext]

/-- A fill of the order `X`. -/
def plainFill (fillId clientOrderId : String) (quantity : ℕ+)
    (identified : fillId ≠ "") : FillFact :=
  { fillId := fillId
    orderId := "X"
    clientOrderId := clientOrderId
    symbol := "BTC-USD"
    side := "buy"
    quantity := (quantity : ℕ)
    price := 100
    executedAt := 0
    fee := none
    feeCurrency := none
    identified := ⟨identified, by decide, by decide⟩
    sided := FillFact.bought
    positive := ⟨Nat.cast_pos.mpr quantity.pos, by norm_num⟩ }

def plainStore (order : OrderRecord) : OrdersStore :=
  .fresh (OrdersDatabase.empty.save (order.stored "digest"))

def plainRowsAfter (order : OrderRecord) (fills : List FillFact) :
    List (Decimal × Decimal × OrderStatus) :=
  (OrdersStore.recordFills plainContext (fills.map fun fact => (fact, 0))
    (plainStore order)).database.orders.rows.map fun row =>
      (row.quantity, row.filledQuantity, row.status)

/-- Without an admitted intent fills exceed the order, and fills that do not name the
client identifier of a pending row leave it as it was. -/
theorem plain_orders_differ_from_their_fills :
    plainRowsAfter (plainOrder "X" "a" 0)
        [plainFill "1" "" 6 (by decide), plainFill "2" "" 6 (by decide)] =
      [(.finite 10, .finite 12, .partiallyFilled)] ∧
    plainRowsAfter (plainOrder "X" "a" 5) [plainFill "1" "" 4 (by decide)] =
      [(.finite 10, .finite 5, .open)] ∧
    plainRowsAfter { plainOrder "X" "a" 0 with status := .cancelled }
        [plainFill "1" "" 4 (by decide)] =
      [(.finite 10, .finite 0, .cancelled)] ∧
    plainRowsAfter { plainOrder "a" "a" 0 with status := .pending }
        [plainFill "1" "" 4 (by decide)] =
      [(.finite 10, .finite 0, .pending)] := by
  decide +kernel

theorem first_named : "1" ≠ "" := by
  decide

theorem second_named : "2" ≠ "" := by
  decide

local instance four_ne_zero : NeZero 4 := ⟨by decide⟩

local instance six_ne_zero : NeZero 6 := ⟨by decide⟩

def twoFills : List FillFact :=
  [plainFill "1" "a" 4 first_named, plainFill "2" "" 6 second_named]

def twoFillOrder : OrderAtVenue :=
  { venueId := "X"
    row := (plainOrder "X" "a" 0).stored "digest"
    quantity := 10
    filled := 0 }

def twoFillCalls : List (FillFact × ℤ) :=
  [(plainFill "2" "" 6 second_named, 0), (plainFill "1" "a" 4 first_named, 1),
    (plainFill "2" "" 6 second_named, 1)]

theorem twoFillOrder_idle : (plainStore (plainOrder "X" "a" 0)).Idle :=
  ⟨rfl, rfl⟩

theorem twoFillOrder_readable : twoFillOrder.Readable plainContext where
  quantity := rfl
  amount := rfl
  located := .inl rfl
  checked := by decide +kernel
  agrees := rfl

theorem twoFillOrder_set : twoFillOrder.FillSet plainContext.formats twoFills where
  executes := by
    intro fact member
    simp only [twoFills, List.mem_cons, List.not_mem_nil, or_false] at member
    rcases member with rfl | rfl
    · exact ⟨rfl, rfl, by decide +kernel, .inr rfl⟩
    · exact ⟨rfl, rfl, by decide +kernel, .inl rfl⟩
  distinct := by decide
  within := by decide +kernel
  reached := .inl rfl
  unfinished := fun terminal => by cases terminal

theorem twoFillOrder_held : twoFillOrder.Held twoFills []
    (plainStore (plainOrder "X" "a" 0)).database where
  versions := rfl
  sole := ⟨rfl, fun other stored _ => by rw [List.mem_singleton.mp stored]; rfl⟩
  facts := rfl
  once := List.nodup_nil
  members := fun fact member => by cases member
  counted := le_rfl
  uncovered := fun _ _ => rfl

theorem twoFills_arrive : Arrivals twoFills [] twoFillCalls where
  members := by decide +kernel
  every := by decide +kernel
  clock := by decide
  executed := by decide +kernel
  past := by decide

def twoFillRun : FillRun plainContext where
  store := plainStore (plainOrder "X" "a" 0)
  order := twoFillOrder
  fills := twoFills
  recorded := []
  calls := twoFillCalls
  idle := twoFillOrder_idle
  readable := twoFillOrder_readable
  set := twoFillOrder_set
  held := twoFillOrder_held
  arrivals := twoFills_arrive

/-- The second fill arrives first and twice. -/
theorem two_fills_fill_their_order :
    ∃ row, (OrdersStore.recordFills plainContext twoFillRun.calls
        twoFillRun.store).database.rowsOfClient "a" = [row] ∧
      twoFillRun.order.FilledTo twoFillRun.fills row :=
  (fills_recorded_in_any_order plainContext_regular).settles twoFillRun

end Examples

end GptTrader
