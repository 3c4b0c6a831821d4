import GptTrader.Core.RoundedProjection
import GptTrader.Library.Outcome
import GptTrader.Persistence.OrdersAccounting

/-!
# Position projections

`OrdersAccounting.projections` (`persistence/orders_accounting.py`).  A ledger is
what the projections read: facts, observations, baselines whose covered receipts
still are as bound, and orders.  Sums and quotients are those of a decimal context.
The order in which Python walks a set of symbols or order identifiers only decides
which of several errors is raised.
-/

namespace GptTrader

/-- What a projection reads of a database. -/
structure Ledger where
  facts : List FillFact
  observations : List FillObservation
  baselines : Dict String PositionBaseline
  orders : List OrderRecord
  reporting : List OrderRecord

/-- A reported cumulative quantity and its average price. -/
structure FillEvidence where
  quantity : Decimal
  averagePrice : Option Decimal

namespace FillEvidence

def ofObservation (observation : FillObservation) : FillEvidence :=
  { quantity := observation.quantity
    averagePrice := observation.averagePrice }

def ofOrder (order : OrderRecord) : FillEvidence :=
  { quantity := order.filledQuantity
    averagePrice := order.averageFillPrice }

end FillEvidence

/-- `decimal_value` of stored evidence. -/
def accountingValue (value : Decimal) : Except StoreError ℚ :=
  match decimalValue value with
  | some value => .ok value
  | none => .error (.integrity "Invalid accounting decimal")

namespace OrdersDatabase

/-- Every observation, if all can be read. -/
def readObservations (database : OrdersDatabase) :
    Except StoreError (List FillObservation) := do
  database.observationsValid
  .ok (database.observations.filterMap ObservationRow.content)

/-- The baseline covers the observation. -/
def observationWithin (baseline : PositionBaseline) (binding : ReceiptBinding)
    (observation : FillObservation) : Except StoreError Unit := do
  let observed ← accountingValue observation.quantity
  let bound ← accountingValue binding.filledQuantity
  if bound < observed ∨ observation.symbol ≠ baseline.symbol ∨
      observation.side ≠ binding.side then
    .error (.integrity "Observation conflicts with baseline receipt")
  else
    match observation.averagePrice, binding.averageFillPrice with
    | some observedPrice, some boundPrice =>
        if observed = bound then do
          let observedPrice ← accountingValue observedPrice
          let boundPrice ← accountingValue boundPrice
          if observedPrice ≠ boundPrice then
            .error (.integrity
              "Observation notional differs from baseline receipt")
          else .ok ()
        else .ok ()
    | _, _ => .ok ()

def receiptUnchanged (database : OrdersDatabase)
    (observations : List FillObservation) (baseline : PositionBaseline)
    (covered : String × ReceiptBinding) : Except StoreError Unit :=
  match database.getOrder covered.1 with
  | none => .error (.integrity "Baseline covered receipt changed")
  | some order => do
      let binding ← receiptBinding order
      if binding ≠ covered.2 then
        .error (.integrity "Baseline covered receipt changed")
      else
        (observations.filter fun observation =>
          decide (observation.orderId = covered.1)).forM
            (observationWithin baseline covered.2)

/-- The baseline with its covered orders. -/
def readBaseline (now : DateTime) (database : OrdersDatabase)
    (observations : List FillObservation) (row : BaselineRow) :
    Except StoreError PositionBaseline := do
  let payload ← row.content
  let baseline := payload.baseline
  requireObservedTime now baseline.effectiveAt
  if (payload.coveredReceipts.map Prod.fst).toFinset ≠
      baseline.coveredOrderIds.toFinset then
    .error (.integrity "Baseline receipt binding is incomplete")
  else do
    payload.coveredReceipts.forM
      (database.receiptUnchanged observations baseline)
    if baseline.symbol ≠ row.symbol then
      .error (.integrity "Baseline index conflicts with payload")
    else .ok baseline

/-- `order.filled_quantity > 0`. -/
def reportsFills (order : OrderRecord) : Except StoreError Bool :=
  (Decimal.lt (.finite 0) order.filledQuantity).mapError .python

def selectReporting : List OrderRecord → Except StoreError (List OrderRecord)
  | [] => .ok []
  | order :: rest => do
      let reports ← reportsFills order
      let others ← selectReporting rest
      .ok (if reports then order :: others else others)

/-- All that the projection reads. -/
def readLedger (context : OrdersContext) (now : DateTime)
    (database : OrdersDatabase) : Except StoreError Ledger := do
  let facts ← database.allFacts now
  let observations ← database.readObservations
  let baselines ← database.baselines.mapM
    (readBaseline now database observations)
  let orders := database.orders.rows.map OrderRecord.ofRow
  if orders.any fun order => !order.checksumIsValid context then
    .error (.integrity "Order checksum mismatch in projection")
  else do
    let reporting ← selectReporting orders
    .ok
      { facts := facts
        observations := observations
        baselines :=
          .ofList (baselines.map fun baseline => (baseline.symbol, baseline))
        orders := orders
        reporting := reporting }

end OrdersDatabase

def OrderStatus.unresolved : OrderStatus → Bool
  | .pending => true
  | .failed => true
  | _ => false

namespace Ledger

def symbols (ledger : Ledger) : List String :=
  (ledger.baselines.keys ++ ledger.facts.map FillFact.symbol ++
    ledger.reporting.map OrderRecord.symbol ++
    (ledger.orders.filter fun order => order.status.unresolved).map
      OrderRecord.symbol).eraseDups

def symbolFacts (ledger : Ledger) (symbol : String) : List FillFact :=
  ledger.facts.filter fun fact => decide (fact.symbol = symbol)

/-- The fills of an order. -/
def recorded (ledger : Ledger) (symbol orderId : String) : List FillFact :=
  (ledger.symbolFacts symbol).filter fun fact =>
    decide (fact.orderId = orderId)

def order? (ledger : Ledger) (orderId : String) : Option OrderRecord :=
  ledger.orders.find? fun order => decide (order.orderId = orderId)

/-- What was reported of an order. -/
def evidence (ledger : Ledger) (orderId : String) : List FillEvidence :=
  (ledger.observations.filter fun observation =>
    decide (observation.orderId = orderId)).map .ofObservation ++
      (ledger.order? orderId).toList.map .ofOrder

/-- Submissions whose outcome is unknown. -/
def pendingReasons (ledger : Ledger) (symbol : String) :
    List ProjectionReason :=
  (ledger.orders.filter fun order =>
    decide (order.symbol = symbol) && order.status.unresolved).map
      fun order => .pendingSubmissionUnresolved order.orderId

def orderIds (ledger : Ledger) (symbol : String) : List String :=
  ((ledger.symbolFacts symbol).map FillFact.orderId ++
    (ledger.reporting.filter fun order => decide (order.symbol = symbol)).map
      OrderRecord.orderId).eraseDups

/-- The fills and the reports disagree. -/
def quantityReasons (orderId : String) (total : ℚ) (terminal : Bool)
    (quantities : List ℚ) : List ProjectionReason :=
  match quantities.max? with
  | none => []
  | some latest =>
      if total < latest then [.identifiedFillsMissing orderId]
      else if latest < total ∧ terminal = true then
        [.fillReceiptConflict orderId]
      else []

/-- The cost disagrees with a report, in the decimal context. -/
def notionalDiffers (decimals : DecimalContext) (total cost : ℚ) (item : FillEvidence) :
    Except StoreError Bool := do
  let quantity ← accountingValue item.quantity
  match item.averagePrice with
  | none => .ok false
  | some price =>
      if quantity = total ∧ 0 < total then do
        let price ← accountingValue price
        .ok (decide (price ≠ decimals.div cost total))
      else .ok false

def evidenceReasons (decimals : DecimalContext) (orderId : String) (total cost : ℚ)
    (terminal : Bool) (evidence : List FillEvidence) :
    Except StoreError (List ProjectionReason) := do
  let quantities ← evidence.mapM fun item => accountingValue item.quantity
  let differing ← evidence.mapM (notionalDiffers decimals total cost)
  .ok (quantityReasons orderId total terminal quantities ++
    if differing.any id then [.fillNotionalUnverified orderId] else [])

/-- The quantity of some fills. -/
def total (decimals : DecimalContext) (fills : List FillFact) : ℚ :=
  decimals.sum (fills.map FillFact.quantity)

/-- The notional of some fills. -/
def cost (decimals : DecimalContext) (fills : List FillFact) : ℚ :=
  decimals.sum (fills.map fun fill => decimals.mul fill.quantity fill.price)

/-- Why an order is incomplete. -/
def orderReasons (decimals : DecimalContext) (ledger : Ledger)
    (symbol orderId : String) : Except StoreError (List ProjectionReason) :=
  let recorded := ledger.recorded symbol orderId
  evidenceReasons decimals orderId (total decimals recorded) (cost decimals recorded)
    ((ledger.order? orderId).any fun order => order.status.venueTerminal)
    (ledger.evidence orderId)

def covered (ledger : Ledger) (symbol : String) : List String :=
  ((ledger.baselines.get? symbol).map
    PositionBaseline.coveredOrderIds).getD []

/-- The projection of a symbol, which is looked up in a ledger. -/
def project (decimals : DecimalContext) (ledger : Ledger) (symbol : String) :
    Except StoreError PositionProjection := do
  let reasons ← ((ledger.orderIds symbol).filter fun orderId =>
    decide (orderId ∉ ledger.covered symbol)).mapM
      (ledger.orderReasons decimals symbol)
  .ok (projectPositionIn decimals symbol (ledger.symbolFacts symbol)
    (ledger.baselines.get? symbol)
    (ledger.pendingReasons symbol ++ reasons.flatten))

end Ledger

namespace OrdersDatabase

/-- The projections of all symbols. -/
def projections (decimals : DecimalContext) (context : OrdersContext) (now : DateTime)
    (database : OrdersDatabase) :
    Except StoreError (List (String × PositionProjection)) := do
  let ledger ← database.readLedger context now
  ledger.symbols.mapM fun symbol => do
    let projection ← ledger.project decimals symbol
    .ok (symbol, projection)

end OrdersDatabase

/-- `projections()` of a store. -/
def OrdersStore.projections (decimals : DecimalContext) (context : OrdersContext)
    (now : DateTime) : StoreTx (List (String × PositionProjection)) :=
  transaction false
    (select fun database => database.projections decimals context now)

section Reading

variable {context : OrdersContext} {now : DateTime}
variable {database : OrdersDatabase} {ledger : Ledger}

theorem accountingValue_eq_ok {value : Decimal} {amount : ℚ} :
    accountingValue value = .ok amount ↔ value = .finite amount := by
  cases value <;> simp [accountingValue, decimalValue]

namespace OrdersDatabase

theorem exists_selectReporting {orders : List OrderRecord} :
    (∃ reporting, selectReporting orders = .ok reporting) ↔
      ∀ order ∈ orders, ∃ reports, reportsFills order = .ok reports := by
  induction orders with
  | nil => simp [selectReporting]
  | cons order rest induction =>
      rw [List.forall_mem_cons, ← induction]
      constructor
      · rintro ⟨reporting, selected⟩
        obtain ⟨reports, compared, selected⟩ := Outcome.bind_eq_ok.mp selected
        obtain ⟨others, selected, _⟩ := Outcome.bind_eq_ok.mp selected
        exact ⟨⟨reports, compared⟩, others, selected⟩
      · rintro ⟨⟨reports, compared⟩, others, selected⟩
        exact ⟨_, Outcome.bind_eq_ok.mpr ⟨reports, compared,
          Outcome.bind_eq_ok.mpr ⟨others, selected, rfl⟩⟩⟩

theorem mem_selectReporting {orders reporting : List OrderRecord}
    (selected : selectReporting orders = .ok reporting) {order : OrderRecord} :
    order ∈ reporting ↔ order ∈ orders ∧ reportsFills order = .ok true := by
  induction orders generalizing reporting with
  | nil =>
      cases selected
      simp
  | cons first rest induction =>
      obtain ⟨reports, compared, further⟩ := Outcome.bind_eq_ok.mp selected
      obtain ⟨others, chosen, returned⟩ := Outcome.bind_eq_ok.mp further
      rw [Except.ok.injEq] at returned
      rw [← returned]
      cases reports with
      | true =>
          simp only [if_true, List.mem_cons, induction chosen]
          constructor
          · rintro (rfl | later)
            · exact ⟨.inl rfl, compared⟩
            · exact ⟨.inr later.1, later.2⟩
          · rintro ⟨rfl | later, positive⟩
            · exact .inl rfl
            · exact .inr ⟨later, positive⟩
      | false =>
          simp only [Bool.false_eq_true, if_false, List.mem_cons,
            induction chosen]
          constructor
          · exact fun later => ⟨.inr later.1, later.2⟩
          · rintro ⟨rfl | later, positive⟩
            · rw [compared] at positive
              cases positive
            · exact ⟨later, positive⟩

def storedFacts (database : OrdersDatabase) : List FillFact :=
  database.fillFacts.filterMap fun row => row.content.toOption

def storedObservations (database : OrdersDatabase) : List FillObservation :=
  database.observations.filterMap ObservationRow.content

theorem allFacts_eq {facts : List FillFact}
    (read : database.allFacts now = .ok facts) :
    facts = database.storedFacts := by
  unfold storedFacts
  have each := Outcome.mapM_eq_ok.mp read
  clear read
  generalize database.fillFacts = rows at each ⊢
  induction each with
  | nil => rfl
  | cons read rest induction =>
      obtain ⟨fact, content, checked⟩ := Outcome.bind_eq_ok.mp read
      obtain ⟨_, _, returned⟩ := Outcome.bind_eq_ok.mp checked
      obtain ⟨_, same⟩ := Outcome.branch_eq_ok.mp returned
      cases same
      rw [List.filterMap_cons, content, ← induction]
      rfl

theorem observation_positive (valid : database.observationsValid = .ok ())
    {observation : FillObservation}
    (member : observation ∈ database.storedObservations) :
    ∃ amount, observation.quantity = .finite amount ∧ 0 < amount := by
  obtain ⟨row, stored, content⟩ := List.mem_filterMap.mp member
  have checked := Outcome.forM_eq_ok.mp valid row stored
  rw [content] at checked
  obtain ⟨_, checked⟩ := Outcome.guard_eq_ok.mp checked
  obtain ⟨positive, _⟩ := Outcome.guard_eq_ok.mp checked
  have some := (not_or.mp positive).1
  cases quantity : observation.quantity with
  | finite amount =>
      refine ⟨amount, rfl, ?_⟩
      by_contra negative
      simp [quantity, positiveValue, decimalValue, Option.filter, negative]
        at some
  | infinity negative =>
      simp [quantity, positiveValue, decimalValue] at some
  | nan signaling => simp [quantity, positiveValue, decimalValue] at some

end OrdersDatabase

/-- A ledger is what the readers of a database return. -/
structure Ledger.Reads (ledger : Ledger) (context : OrdersContext)
    (now : DateTime) (database : OrdersDatabase) : Prop where
  facts : database.allFacts now = .ok ledger.facts
  valid : database.observationsValid = .ok ()
  observations : ledger.observations = database.storedObservations
  baselines : ∃ baselines,
    database.baselines.mapM (OrdersDatabase.readBaseline now database
      ledger.observations) = .ok baselines ∧
    ledger.baselines =
      .ofList (baselines.map fun baseline => (baseline.symbol, baseline))
  orders : ledger.orders = database.orders.rows.map OrderRecord.ofRow
  checked : ∀ order ∈ ledger.orders, order.checksumIsValid context = true
  reporting : OrdersDatabase.selectReporting ledger.orders =
    .ok ledger.reporting

/-- A ledger is read exactly when every row can be. -/
theorem readLedger_eq_ok :
    database.readLedger context now = .ok ledger ↔
      ledger.Reads context now database := by
  unfold OrdersDatabase.readLedger
  constructor
  · intro read
    obtain ⟨facts, readFacts, read⟩ := Outcome.bind_eq_ok.mp read
    obtain ⟨observations, readObservations, read⟩ := Outcome.bind_eq_ok.mp read
    obtain ⟨_, valid, same⟩ := Outcome.bind_eq_ok.mp readObservations
    cases same
    obtain ⟨baselines, readBaselines, read⟩ := Outcome.bind_eq_ok.mp read
    obtain ⟨checked, read⟩ := Outcome.guard_eq_ok.mp read
    obtain ⟨reporting, selected, returned⟩ := Outcome.bind_eq_ok.mp read
    cases returned
    exact
      { facts := readFacts
        valid := valid
        observations := rfl
        baselines := ⟨baselines, readBaselines, rfl⟩
        orders := rfl
        checked := by simpa using checked
        reporting := selected }
  · intro reads
    obtain ⟨baselines, readBaselines, same⟩ := reads.baselines
    have observations : database.readObservations = .ok ledger.observations := by
      rw [reads.observations]
      exact Outcome.bind_eq_ok.mpr ⟨_, reads.valid, rfl⟩
    refine Outcome.bind_eq_ok.mpr ⟨_, reads.facts, ?_⟩
    refine Outcome.bind_eq_ok.mpr ⟨_, observations, ?_⟩
    refine Outcome.bind_eq_ok.mpr ⟨_, readBaselines, ?_⟩
    refine Outcome.guard_eq_ok.mpr ⟨?_, ?_⟩
    · rw [← reads.orders]
      simpa using reads.checked
    · rw [← reads.orders]
      refine Outcome.bind_eq_ok.mpr ⟨_, reads.reporting, ?_⟩
      rw [← same]

theorem Ledger.Reads.baseline_stored (reads : ledger.Reads context now database)
    {symbol : String} {baseline : PositionBaseline}
    (found : ledger.baselines.get? symbol = some baseline) :
    baseline.symbol = symbol ∧ ∃ row ∈ database.baselines,
      OrdersDatabase.readBaseline now database ledger.observations row =
        .ok baseline := by
  obtain ⟨baselines, readBaselines, same⟩ := reads.baselines
  rw [same] at found
  obtain ⟨other, member, pair⟩ :=
    List.mem_map.mp (Dict.mem_of_get?_ofList found)
  cases pair
  exact ⟨rfl, Outcome.mem_mapM readBaselines member⟩

theorem readBaseline_content {observations : List FillObservation}
    {row : BaselineRow} {baseline : PositionBaseline}
    (read : OrdersDatabase.readBaseline now database observations row =
      .ok baseline) :
    ∃ payload, row.content = .ok payload ∧ payload.baseline = baseline ∧
      (payload.coveredReceipts.map Prod.fst).toFinset =
        baseline.coveredOrderIds.toFinset ∧ baseline.symbol = row.symbol := by
  obtain ⟨payload, content, read⟩ := Outcome.bind_eq_ok.mp read
  obtain ⟨_, _, read⟩ := Outcome.bind_eq_ok.mp read
  obtain ⟨bound, read⟩ := Outcome.guard_eq_ok.mp read
  obtain ⟨_, _, read⟩ := Outcome.bind_eq_ok.mp read
  obtain ⟨indexed, same⟩ := Outcome.guard_eq_ok.mp read
  cases same
  exact ⟨payload, content, rfl, not_not.mp bound, not_not.mp indexed⟩

end Reading

/-- The evidence is of the whole quantity at another average price. -/
def FillEvidence.Differs (decimals : DecimalContext) (item : FillEvidence)
    (total cost : ℚ) : Prop :=
  item.quantity = .finite total ∧ 0 < total ∧
    ∃ price, item.averagePrice = some (.finite price) ∧
      price ≠ decimals.div cost total

/-- The reasons the evidence about an order gives. -/
structure EvidenceReasons (decimals : DecimalContext) (orderId : String)
    (total cost : ℚ) (terminal : Bool) (evidence : List FillEvidence)
    (reasons : List ProjectionReason) : Prop where
  readable : ∀ item ∈ evidence, ∃ quantity, item.quantity = .finite quantity
  missing : .identifiedFillsMissing orderId ∈ reasons ↔
    ∃ item ∈ evidence, ∃ quantity, item.quantity = .finite quantity ∧
      total < quantity
  conflict : .fillReceiptConflict orderId ∈ reasons ↔
    terminal = true ∧ evidence ≠ [] ∧ ∀ item ∈ evidence, ∀ quantity,
      item.quantity = .finite quantity → quantity < total
  unverified : .fillNotionalUnverified orderId ∈ reasons ↔
    ∃ item ∈ evidence, item.Differs decimals total cost
  among : ∀ reason ∈ reasons, reason = .identifiedFillsMissing orderId ∨
    reason = .fillReceiptConflict orderId ∨
    reason = .fillNotionalUnverified orderId

section Reasons

variable {decimals : DecimalContext} {orderId : String} {total cost : ℚ}
variable {terminal : Bool}

theorem notionalDiffers_eq_true {item : FillEvidence} :
    Ledger.notionalDiffers decimals total cost item = .ok true ↔
      item.Differs decimals total cost := by
  unfold Ledger.notionalDiffers FillEvidence.Differs
  rw [Outcome.bind_eq_ok]
  simp only [accountingValue_eq_ok]
  cases item.averagePrice with
  | none => simp
  | some price =>
      dsimp only
      constructor
      · rintro ⟨quantity, same, differs⟩
        split at differs
        · next about =>
            obtain ⟨rfl, positive⟩ := about
            obtain ⟨amount, finite, decided⟩ := Outcome.bind_eq_ok.mp differs
            rw [accountingValue_eq_ok] at finite
            subst finite
            simp only [Except.ok.injEq, decide_eq_true_eq] at decided
            exact ⟨same, positive, amount, rfl, decided⟩
        · cases differs
      · rintro ⟨same, positive, amount, priced, differs⟩
        cases priced
        refine ⟨total, same, ?_⟩
        rw [if_pos ⟨rfl, positive⟩]
        exact Outcome.bind_eq_ok.mpr
          ⟨amount, accountingValue_eq_ok.mpr rfl, by simp [differs]⟩

theorem mem_missing {quantities : List ℚ} :
    .identifiedFillsMissing orderId ∈
        Ledger.quantityReasons orderId total terminal quantities ↔
      ∃ quantity ∈ quantities, total < quantity := by
  unfold Ledger.quantityReasons
  cases latest : quantities.max? with
  | none =>
      rw [List.max?_eq_none_iff] at latest
      simp [latest]
  | some latest' =>
      obtain ⟨member, greatest⟩ := List.max?_eq_some_iff.mp latest
      dsimp only
      split
      · next less => exact iff_of_true (by simp) ⟨latest', member, less⟩
      · next enough =>
          refine iff_of_false (by split <;> simp) ?_
          rintro ⟨quantity, found, less⟩
          exact enough (lt_of_lt_of_le less (greatest quantity found))

theorem mem_conflict {quantities : List ℚ} :
    .fillReceiptConflict orderId ∈
        Ledger.quantityReasons orderId total terminal quantities ↔
      terminal = true ∧ quantities ≠ [] ∧
        ∀ quantity ∈ quantities, quantity < total := by
  unfold Ledger.quantityReasons
  cases latest : quantities.max? with
  | none =>
      rw [List.max?_eq_none_iff] at latest
      simp [latest]
  | some latest' =>
      obtain ⟨member, greatest⟩ := List.max?_eq_some_iff.mp latest
      dsimp only
      split
      · next less =>
          refine iff_of_false (by simp) ?_
          rintro ⟨_, _, below⟩
          exact lt_asymm less (below latest' member)
      · split
        · next above =>
            refine iff_of_true (by simp)
              ⟨above.2, List.ne_nil_of_mem member, ?_⟩
            intro quantity found
            exact lt_of_le_of_lt (greatest quantity found) above.1
        · next notAbove =>
            refine iff_of_false (by simp) ?_
            rintro ⟨ended, _, below⟩
            exact notAbove ⟨below latest' member, ended⟩

theorem among_quantityReasons {quantities : List ℚ}
    {reason : ProjectionReason}
    (member : reason ∈
      Ledger.quantityReasons orderId total terminal quantities) :
    reason = .identifiedFillsMissing orderId ∨
      reason = .fillReceiptConflict orderId := by
  unfold Ledger.quantityReasons at member
  cases latest : quantities.max? with
  | none => simp [latest] at member
  | some latest' =>
      rw [latest] at member
      dsimp only at member
      split at member
      · exact .inl (by simpa using member)
      · split at member
        · exact .inr (by simpa using member)
        · cases member

/-- What the reports of an order are reasons for. -/
theorem evidenceReasons_spec {evidence : List FillEvidence}
    {reasons : List ProjectionReason}
    (read : Ledger.evidenceReasons decimals orderId total cost terminal evidence =
      .ok reasons) :
    EvidenceReasons decimals orderId total cost terminal evidence reasons := by
  obtain ⟨quantities, measured, read⟩ := Outcome.bind_eq_ok.mp read
  obtain ⟨differing, compared, same⟩ := Outcome.bind_eq_ok.mp read
  cases same
  have value : ∀ quantity, quantity ∈ quantities ↔
      ∃ item ∈ evidence, item.quantity = .finite quantity := by
    intro quantity
    constructor
    · intro member
      obtain ⟨item, found, same⟩ := Outcome.mem_mapM measured member
      exact ⟨item, found, accountingValue_eq_ok.mp same⟩
    · rintro ⟨item, found, same⟩
      obtain ⟨other, member, returned⟩ :=
        Outcome.result_mem_mapM measured found
      rw [accountingValue_eq_ok, same] at returned
      cases returned
      exact member
  have nonempty : quantities ≠ [] ↔ evidence ≠ [] := by
    have lengths := (Outcome.mapM_eq_ok.mp measured).length_eq
    rw [← List.length_pos_iff, ← List.length_pos_iff, lengths]
  have differs : differing.any id = true ↔
      ∃ item ∈ evidence, item.Differs decimals total cost := by
    rw [List.any_eq_true]
    constructor
    · rintro ⟨differs, member, isTrue⟩
      obtain ⟨item, found, returned⟩ := Outcome.mem_mapM compared member
      rw [show differs = true from isTrue] at returned
      exact ⟨item, found, notionalDiffers_eq_true.mp returned⟩
    · rintro ⟨item, found, differs⟩
      obtain ⟨result, member, returned⟩ :=
        Outcome.result_mem_mapM compared found
      rw [notionalDiffers_eq_true.mpr differs] at returned
      cases returned
      exact ⟨true, member, rfl⟩
  constructor
  · intro item found
    obtain ⟨quantity, _, returned⟩ := Outcome.result_mem_mapM measured found
    exact ⟨quantity, accountingValue_eq_ok.mp returned⟩
  · rw [List.mem_append, mem_missing]
    constructor
    · rintro (⟨quantity, member, less⟩ | other)
      · obtain ⟨item, found, same⟩ := (value quantity).mp member
        exact ⟨item, found, quantity, same, less⟩
      · split at other <;> simp at other
    · rintro ⟨item, found, quantity, same, less⟩
      exact .inl ⟨quantity, (value quantity).mpr ⟨item, found, same⟩, less⟩
  · rw [List.mem_append, mem_conflict, nonempty]
    constructor
    · rintro (⟨ended, present, below⟩ | other)
      · refine ⟨ended, present, fun item found quantity same => ?_⟩
        exact below quantity ((value quantity).mpr ⟨item, found, same⟩)
      · split at other <;> simp at other
    · rintro ⟨ended, present, below⟩
      refine .inl ⟨ended, present, fun quantity member => ?_⟩
      obtain ⟨item, found, same⟩ := (value quantity).mp member
      exact below item found quantity same
  · rw [List.mem_append, ← differs]
    constructor
    · rintro (member | member)
      · rcases among_quantityReasons member with same | same <;> cases same
      · split at member
        · assumption
        · cases member
    · intro any
      exact .inr (by rw [if_pos any]; simp)
  · intro reason member
    rcases List.mem_append.mp member with member | member
    · rcases among_quantityReasons member with same | same
      · exact .inl same
      · exact .inr (.inl same)
    · split at member
      · exact .inr (.inr (by simpa using member))
      · cases member

theorem evidenceReasons_fewer {evidence fewer : List FillEvidence}
    {fewerTerminal : Bool}
    (read : ∃ reasons, Ledger.evidenceReasons decimals orderId total cost terminal
      evidence = .ok reasons)
    (subset : ∀ item ∈ fewer, item ∈ evidence) :
    ∃ reasons, Ledger.evidenceReasons decimals orderId total cost fewerTerminal fewer =
      .ok reasons := by
  obtain ⟨reasons, read⟩ := read
  obtain ⟨_, measured, read⟩ := Outcome.bind_eq_ok.mp read
  obtain ⟨_, compared, _⟩ := Outcome.bind_eq_ok.mp read
  obtain ⟨quantities, measured⟩ := Outcome.exists_mapM.mpr fun item found =>
    Outcome.exists_mapM.mp ⟨_, measured⟩ item (subset item found)
  obtain ⟨differing, compared⟩ := Outcome.exists_mapM.mpr fun item found =>
    Outcome.exists_mapM.mp ⟨_, compared⟩ item (subset item found)
  exact ⟨_, Outcome.bind_eq_ok.mpr ⟨_, measured,
    Outcome.bind_eq_ok.mpr ⟨_, compared, rfl⟩⟩⟩

end Reasons

section Projecting

variable {decimals : DecimalContext} {context : OrdersContext} {now : DateTime}
variable {database : OrdersDatabase} {ledger : Ledger} {symbol : String}

def Ledger.Considered (ledger : Ledger) (symbol orderId : String) : Prop :=
  orderId ∈ ledger.orderIds symbol ∧ orderId ∉ ledger.covered symbol

/-- The reasons a ledger gives a projection in advance. -/
structure Ledger.Gives (decimals : DecimalContext) (ledger : Ledger) (symbol : String)
    (given : List ProjectionReason) : Prop where
  readable : ∀ orderId, ledger.Considered symbol orderId →
    ∃ reasons, ledger.orderReasons decimals symbol orderId = .ok reasons
  member : ∀ reason, reason ∈ given ↔
    reason ∈ ledger.pendingReasons symbol ∨
      ∃ orderId reasons, ledger.Considered symbol orderId ∧
        ledger.orderReasons decimals symbol orderId = .ok reasons ∧ reason ∈ reasons

theorem mem_considered {orderId : String} :
    (orderId ∈ (ledger.orderIds symbol).filter fun orderId =>
      decide (orderId ∉ ledger.covered symbol)) ↔
        ledger.Considered symbol orderId := by
  simp [Ledger.Considered]

theorem project_gives {projection : PositionProjection}
    (projected : ledger.project decimals symbol = .ok projection) :
    ∃ given, ledger.Gives decimals symbol given ∧
      projection = projectPositionIn decimals symbol (ledger.symbolFacts symbol)
        (ledger.baselines.get? symbol) given := by
  obtain ⟨reasons, traversed, same⟩ := Outcome.bind_eq_ok.mp projected
  cases same
  refine ⟨_, ⟨?_, ?_⟩, rfl⟩
  · intro orderId considered
    obtain ⟨found, _, returned⟩ := Outcome.result_mem_mapM traversed
      (mem_considered.mpr considered)
    exact ⟨found, returned⟩
  · intro reason
    rw [List.mem_append, List.mem_flatten]
    refine or_congr_right ?_
    constructor
    · rintro ⟨found, member, among⟩
      obtain ⟨orderId, considered, returned⟩ :=
        Outcome.mem_mapM traversed member
      exact ⟨orderId, found, mem_considered.mp considered, returned, among⟩
    · rintro ⟨orderId, found, considered, returned, among⟩
      obtain ⟨other, member, same⟩ := Outcome.result_mem_mapM traversed
        (mem_considered.mpr considered)
      rw [returned] at same
      cases same
      exact ⟨found, member, among⟩

theorem project_returns
    (readable : ∀ orderId, ledger.Considered symbol orderId →
      ∃ reasons, ledger.orderReasons decimals symbol orderId = .ok reasons) :
    ∃ projection, ledger.project decimals symbol = .ok projection := by
  obtain ⟨reasons, traversed⟩ := Outcome.exists_mapM.mpr
    fun orderId member => readable orderId (mem_considered.mp member)
  exact ⟨_, Outcome.bind_eq_ok.mpr ⟨reasons, traversed, rfl⟩⟩

theorem projections_eq_ok {result : List (String × PositionProjection)}
    (projected : database.projections decimals context now = .ok result) :
    ∃ ledger : Ledger, ledger.Reads context now database ∧
      ∀ symbol projection, (symbol, projection) ∈ result ↔
        symbol ∈ ledger.symbols ∧ ledger.project decimals symbol = .ok projection := by
  obtain ⟨ledger, read, traversed⟩ := Outcome.bind_eq_ok.mp projected
  refine ⟨ledger, readLedger_eq_ok.mp read, fun symbol projection => ?_⟩
  constructor
  · intro member
    obtain ⟨found, listed, returned⟩ := Outcome.mem_mapM traversed member
    obtain ⟨_, projected, same⟩ := Outcome.bind_eq_ok.mp returned
    cases same
    exact ⟨listed, projected⟩
  · rintro ⟨listed, projected⟩
    obtain ⟨pair, member, returned⟩ := Outcome.result_mem_mapM traversed listed
    obtain ⟨_, again, same⟩ := Outcome.bind_eq_ok.mp returned
    cases same
    rw [projected] at again
    cases again
    exact member

end Projecting

end GptTrader
