import GptTrader.Persistence.Projections
import GptTrader.Persistence.TransactionBodies

/-!
# What a complete projection rests on

A complete projection looks at the orders of a symbol that have an identified
fill or a row with fills.  What it promises about every order with evidence
holds exactly when each stored observation is about an order it looks at.
-/

namespace GptTrader

namespace OrdersDatabase

/-- The readable baselines by symbol. -/
def storedBaselines (database : OrdersDatabase) :
    Dict String PositionBaseline :=
  .ofList <| (database.baselines.filterMap fun row => row.content.toOption).map
    fun payload => (payload.baseline.symbol, payload.baseline)

def coveredOrders (database : OrdersDatabase) (symbol : String) : List String :=
  ((database.storedBaselines.get? symbol).map
    PositionBaseline.coveredOrderIds).getD []

def symbolFills (database : OrdersDatabase) (symbol : String) :
    List FillFact :=
  database.storedFacts.filter fun fact => decide (fact.symbol = symbol)

/-- The quantity of the identified fills of an order. -/
def identified (decimals : DecimalContext) (database : OrdersDatabase)
    (symbol orderId : String) : ℚ :=
  Ledger.total decimals <| (database.symbolFills symbol).filter fun fact =>
    decide (fact.orderId = orderId)

/-- The order has a fill or an observation. -/
def Listed (database : OrdersDatabase) (symbol orderId : String) : Prop :=
  (∃ fact ∈ database.storedFacts,
    fact.orderId = orderId ∧ fact.symbol = symbol) ∨
  ∃ order ∈ database.orders.rows,
    order.orderId = orderId ∧ order.symbol = symbol ∧
      reportsFills order = .ok true

/-- An order of a symbol has a stored cumulative observation: one made under
the symbol, or about the order of a row of the symbol. -/
def Observed (database : OrdersDatabase) (symbol orderId : String) : Prop :=
  ∃ observation ∈ database.storedObservations,
    observation.orderId = orderId ∧
      (observation.symbol = symbol ∨
        ∃ order ∈ database.orders.rows,
          order.orderId = orderId ∧ order.symbol = symbol)

/-- This quantity was reported for the order. -/
def Reported (database : OrdersDatabase) (orderId : String) (quantity : ℚ) :
    Prop :=
  (∃ observation ∈ database.storedObservations,
    observation.orderId = orderId ∧
      observation.quantity = .finite quantity) ∨
  ∃ order ∈ database.orders.rows,
    order.orderId = orderId ∧ order.filledQuantity = .finite quantity

/-- The identified fills of an order reach what is recorded about it, and meet
it when the receipt is terminal. -/
structure Settled (decimals : DecimalContext) (database : OrdersDatabase)
    (symbol orderId : String) : Prop where
  reached : ∀ quantity, database.Reported orderId quantity →
    quantity ≤ database.identified decimals symbol orderId
  met : (∃ order ∈ database.orders.rows,
    order.orderId = orderId ∧ order.status.venueTerminal = true) →
      database.Reported orderId (database.identified decimals symbol orderId)

/-- What a complete projection of a symbol promises. -/
structure CompleteFor (database : OrdersDatabase) (symbol : String)
    (baseline : PositionBaseline) (projection : PositionProjection) :
    Prop where
  opened : database.storedBaselines.get? symbol = some baseline
  resolved : ∀ order ∈ database.orders.rows, order.symbol = symbol →
    order.status ≠ .pending ∧ order.status ≠ .failed
  settled : ∀ orderId, orderId ∉ baseline.coveredOrderIds →
    database.Listed symbol orderId ∨ database.Observed symbol orderId →
      database.Settled .exact symbol orderId
  quantity : projection.quantity = some (baseline.quantity +
    (((database.symbolFills symbol).filter fun fact =>
      decide (baseline.effectiveAt < fact.executedAt)).map
        FillFact.signed).sum)

/-- Every observed order of the symbol that its baseline does not cover has an
identified fill or a row with fills. -/
def ObservationsListed (database : OrdersDatabase) (symbol : String) : Prop :=
  ∀ orderId, orderId ∉ database.coveredOrders symbol →
    database.Observed symbol orderId → database.Listed symbol orderId

/-- The quantities of the symbol's fills are added without rounding, those of an order
and those after the baseline. -/
structure AddsExactly (decimals : DecimalContext) (database : OrdersDatabase)
    (symbol : String) : Prop where
  ofOrder : ∀ orderId, decimals.AddsExactly 0
    (((database.symbolFills symbol).filter fun fact =>
      decide (fact.orderId = orderId)).map FillFact.quantity)
  negated : ∀ fact ∈ database.symbolFills symbol,
    decimals.neg fact.quantity = -fact.quantity
  replayed : ∀ baseline, database.storedBaselines.get? symbol = some baseline →
    decimals.AddsExactly baseline.quantity
      ((relevantFills baseline (database.symbolFills symbol)).map FillFact.signed)

theorem AddsExactly.identified {decimals : DecimalContext}
    {database : OrdersDatabase} {symbol : String}
    (exactly : database.AddsExactly decimals symbol) (orderId : String) :
    database.identified decimals symbol orderId =
      database.identified .exact symbol orderId := by
  unfold OrdersDatabase.identified Ledger.total
  rw [DecimalContext.sum_exact]
  exact (exactly.ofOrder orderId).foldl.trans (zero_add _)

theorem AddsExactly.signedSize {decimals : DecimalContext}
    {database : OrdersDatabase} {symbol : String}
    (exactly : database.AddsExactly decimals symbol) (baseline : PositionBaseline) :
    (relevantFills baseline (database.symbolFills symbol)).map
        (FillFact.signedSize decimals) =
      (relevantFills baseline (database.symbolFills symbol)).map FillFact.signed := by
  apply List.map_congr_left
  intro fact member
  have listed : fact ∈ database.symbolFills symbol :=
    (List.mem_filter.mp ((List.mergeSort_perm _ _).mem_iff.mp member)).1
  unfold FillFact.signedSize FillFact.signed
  rw [exactly.negated fact listed]

end OrdersDatabase

section Entering

variable {store entered : OrdersStore}

theorem database_of_entered {mode : Bool}
    (enters : OrdersStore.enterTransaction mode store = (.ok (), entered)) :
    entered.database = store.database := by
  unfold OrdersStore.enterTransaction at enters
  rw [Tx.bind_apply, Tx.view] at enters
  dsimp only at enters
  split at enters
  · cases closed : store.connection.working with
    | some working =>
        simp [Tx.bind_apply, Tx.handle, OrdersStore.begin, Tx.evolve,
          Connection.begin, closed, Tx.raise] at enters
    | none =>
        simp only [Tx.bind_apply, Tx.handle, OrdersStore.begin, Tx.evolve,
          Connection.begin, closed, OrdersStore.fetch, Tx.view] at enters
        split at enters
        · simp only [Tx.modify, Prod.mk.injEq, true_and] at enters
          rw [← enters]
          simp [OrdersStore.database, Connection.current, closed]
        · simp [Tx.bind_apply, OrdersStore.rollback, Tx.modify, Tx.raise]
            at enters
  · simp only [Tx.bind_apply, Tx.view, Tx.require] at enters
    split at enters
    · next opened =>
        split at opened
        · cases opened
          simp only [Tx.modify, Prod.mk.injEq, true_and] at enters
          rw [← enters]
          rfl
        · cases opened
    · cases enters

/-- A reading transaction is entered inside of another one, and otherwise on an
idle connection to a supported database. -/
theorem exists_entered_iff :
    (∃ entered, OrdersStore.enterTransaction false store = (.ok (), entered)) ↔
      store.transactionDepth ≠ 0 ∨
        store.connection.working = none ∧
          store.database.schemaVersions = [1] := by
  unfold OrdersStore.enterTransaction
  rw [Tx.bind_apply, Tx.view]
  dsimp only
  by_cases depth : store.transactionDepth = 0
  · rw [if_pos depth]
    cases closed : store.connection.working with
    | some working =>
        simp [Tx.bind_apply, Tx.handle, OrdersStore.begin, Tx.evolve,
          Connection.begin, closed, Tx.raise, depth]
    | none =>
        simp only [Tx.bind_apply, Tx.handle, OrdersStore.begin, Tx.evolve,
          Connection.begin, closed, OrdersStore.fetch, Tx.view,
          OrdersStore.database, Connection.current, Option.getD_some,
          Option.getD_none, depth, ne_eq, not_true_eq_false, false_or,
          true_and]
        split
        · next supported => simp [Tx.modify, supported]
        · next unsupported =>
            simp [Tx.bind_apply, OrdersStore.rollback, Tx.modify, Tx.raise,
              unsupported]
  · rw [if_neg depth]
    simp [Tx.bind_apply, Tx.view, Tx.require, Tx.modify, depth]

theorem projections_of_entered {decimals : DecimalContext} {context : OrdersContext} {now : DateTime}
    {result : List (String × PositionProjection)}
    (enters : OrdersStore.enterTransaction false store = (.ok (), entered))
    (projected : store.database.projections decimals context now = .ok result) :
    (OrdersStore.projections decimals context now store).1 = .ok result := by
  rw [← database_of_entered enters] at projected
  by_cases last : entered.transactionDepth = 1
  · simp [OrdersStore.projections, OrdersStore.transaction, Tx.bind_apply,
      enters, Tx.handle, OrdersStore.select, Tx.read, projected,
      OrdersStore.leaveTransaction, Tx.view, Tx.when, Tx.modify, last,
      OrdersStore.commit]
  · simp [OrdersStore.projections, OrdersStore.transaction, Tx.bind_apply,
      enters, Tx.handle, OrdersStore.select, Tx.read, projected,
      OrdersStore.leaveTransaction, Tx.view, Tx.when, Tx.modify, last]

section

variable {decimals : DecimalContext} {context : OrdersContext} {now : DateTime}
variable {result : List (String × PositionProjection)}
variable (projected : (OrdersStore.projections decimals context now store).1 = .ok result)

include decimals context now result projected

theorem entered_of_projections :
    ∃ entered, OrdersStore.enterTransaction false store =
      (.ok (), entered) := by
  unfold OrdersStore.projections OrdersStore.transaction at projected
  rw [Tx.bind_apply] at projected
  split at projected
  · next entered enters => exact ⟨entered, enters⟩
  · cases projected

/-- What `projections()` returns is read from the database it is called on. -/
theorem database_projections :
    store.database.projections decimals context now = .ok result := by
  unfold OrdersStore.projections OrdersStore.transaction at projected
  rw [Tx.bind_apply] at projected
  split at projected
  · next entered enters =>
      rw [← database_of_entered enters]
      simp only [Tx.bind_apply, Tx.handle, OrdersStore.select, Tx.read]
        at projected
      cases read : entered.database.projections decimals context now with
      | ok value =>
          rw [read] at projected
          simp only [OrdersStore.leaveTransaction, Tx.bind_apply, Tx.view,
            Tx.when, Tx.modify] at projected
          split at projected
          · next ended =>
              split at ended
              · cases ended
                simpa using projected
              · cases ended
          · next ended =>
              split at ended
              · cases ended
              · next failed =>
                  split at failed <;> cases failed
      | error error =>
          rw [read] at projected
          simp only [OrdersStore.abandonTransaction, Tx.bind_apply, Tx.view,
            Tx.when, Tx.modify, Tx.raise] at projected
          split at projected
          · next raised =>
              split at raised
              · next failed =>
                  split at failed <;> cases raised
              · next failed => cases raised
          · cases projected
  · cases projected

end

end Entering

section Evidence

variable {decimals : DecimalContext} {context : OrdersContext} {now : DateTime}
variable {database : OrdersDatabase} {ledger : Ledger}
variable {symbol orderId : String}

namespace Ledger.Reads

variable (reads : ledger.Reads context now database)

include reads

theorem facts_eq : ledger.facts = database.storedFacts :=
  OrdersDatabase.allFacts_eq reads.facts

theorem baselines_eq : ledger.baselines = database.storedBaselines := by
  obtain ⟨baselines, read, same⟩ := reads.baselines
  rw [same]
  unfold OrdersDatabase.storedBaselines
  congr 1
  have each := Outcome.mapM_eq_ok.mp read
  clear read same
  generalize database.baselines = rows at each ⊢
  induction each with
  | nil => rfl
  | cons read rest induction =>
      obtain ⟨payload, content, rfl, _⟩ := readBaseline_content read
      rw [List.filterMap_cons, content, List.map_cons, induction]
      rfl

theorem symbolFacts_eq : ledger.symbolFacts symbol = database.symbolFills symbol := by
  unfold Ledger.symbolFacts
  rw [reads.facts_eq]
  rfl

theorem covered_eq : ledger.covered symbol = database.coveredOrders symbol := by
  unfold Ledger.covered
  rw [reads.baselines_eq]
  rfl

theorem total_eq :
    Ledger.total decimals (ledger.recorded symbol orderId) =
      database.identified decimals symbol orderId := by
  unfold Ledger.recorded
  rw [reads.symbolFacts_eq]
  rfl

theorem order?_eq : ledger.order? orderId = database.getOrder orderId := by
  unfold Ledger.order? OrdersDatabase.getOrder Table.find?
  rw [reads.orders, List.find?_map]
  rfl

theorem order?_some {order : OrderRecord} :
    ledger.order? orderId = some order ↔
      ∃ row ∈ database.orders.rows, row.orderId = orderId ∧
        OrderRecord.ofRow row = order := by
  rw [reads.order?_eq]
  unfold OrdersDatabase.getOrder
  rw [Option.map_eq_some_iff]
  simp only [Table.find?_eq_some_iff, and_assoc]

theorem mem_reporting {row : OrderRecord}
    (stored : row ∈ database.orders.rows)
    (reports : OrdersDatabase.reportsFills row = .ok true) :
    OrderRecord.ofRow row ∈ ledger.reporting := by
  refine (OrdersDatabase.mem_selectReporting reads.reporting).mpr ⟨?_, reports⟩
  rw [reads.orders]
  exact List.mem_map_of_mem stored

theorem mem_orderIds :
    orderId ∈ ledger.orderIds symbol ↔ database.Listed symbol orderId := by
  unfold Ledger.orderIds OrdersDatabase.Listed
  rw [List.mem_eraseDups, List.mem_append, reads.symbolFacts_eq]
  refine or_congr ?_ ?_
  · simp only [OrdersDatabase.symbolFills, List.mem_map, List.mem_filter,
      decide_eq_true_eq]
    constructor
    · rintro ⟨fact, ⟨member, under⟩, about⟩
      exact ⟨fact, member, about, under⟩
    · rintro ⟨fact, member, about, under⟩
      exact ⟨fact, ⟨member, under⟩, about⟩
  · simp only [List.mem_map, List.mem_filter, decide_eq_true_eq,
      OrdersDatabase.mem_selectReporting reads.reporting]
    rw [reads.orders]
    constructor
    · rintro ⟨order, ⟨⟨member, reports⟩, under⟩, about⟩
      obtain ⟨row, stored, rfl⟩ := List.mem_map.mp member
      exact ⟨row, stored, about, under, reports⟩
    · rintro ⟨row, stored, about, under, reports⟩
      exact ⟨_, ⟨⟨List.mem_map_of_mem stored, reports⟩, under⟩, about⟩

theorem reported_iff {quantity : ℚ} :
    database.Reported orderId quantity ↔
      ∃ item ∈ ledger.evidence orderId, item.quantity = .finite quantity := by
  unfold OrdersDatabase.Reported Ledger.evidence
  rw [reads.observations]
  simp only [List.mem_append, or_and_right, exists_or, List.mem_map,
    List.mem_filter, decide_eq_true_eq, Option.mem_toList]
  refine or_congr ?_ ?_
  · constructor
    · rintro ⟨observation, member, about, same⟩
      exact ⟨_, ⟨observation, ⟨member, about⟩, rfl⟩, same⟩
    · rintro ⟨_, ⟨observation, ⟨member, about⟩, rfl⟩, same⟩
      exact ⟨observation, member, about, same⟩
  · constructor
    · rintro ⟨row, stored, about, same⟩
      exact ⟨_, ⟨_, reads.order?_some.mpr ⟨row, stored, about, rfl⟩, rfl⟩, same⟩
    · rintro ⟨_, ⟨order, found, rfl⟩, same⟩
      obtain ⟨row, stored, about, rfl⟩ := reads.order?_some.mp found
      exact ⟨row, stored, about, same⟩

theorem terminal_iff :
    ((ledger.order? orderId).any fun order => order.status.venueTerminal) =
        true ↔
      ∃ order ∈ database.orders.rows,
        order.orderId = orderId ∧ order.status.venueTerminal = true := by
  rw [Option.any_eq_true_iff_get]
  constructor
  · rintro ⟨present, ended⟩
    obtain ⟨row, stored, about, same⟩ :=
      reads.order?_some.mp (Option.some_get present).symm
    rw [← same] at ended
    exact ⟨row, stored, about, ended⟩
  · rintro ⟨row, stored, about, ended⟩
    have found := reads.order?_some.mpr ⟨row, stored, about, rfl⟩
    simp only [found, Option.isSome_some, Option.get_some, exists_true_left]
    exact ended

theorem settled_of_silent
    (silent : ledger.orderReasons decimals symbol orderId = .ok []) :
    database.Settled decimals symbol orderId := by
  have spec := evidenceReasons_spec silent
  rw [reads.total_eq] at spec
  have missing : ¬∃ item ∈ ledger.evidence orderId, ∃ quantity,
      item.quantity = .finite quantity ∧
        database.identified decimals symbol orderId < quantity := by
    rw [← spec.missing]
    exact List.not_mem_nil
  have reached : ∀ quantity, database.Reported orderId quantity →
      quantity ≤ database.identified decimals symbol orderId := by
    intro quantity reported
    obtain ⟨item, member, same⟩ := reads.reported_iff.mp reported
    by_contra above
    exact missing ⟨item, member, quantity, same, lt_of_not_ge above⟩
  constructor
  · exact reached
  · intro ended
    by_contra unmet
    have conflict := spec.conflict.mpr
    refine List.not_mem_nil (conflict ⟨reads.terminal_iff.mpr ended, ?_, ?_⟩)
    · obtain ⟨row, stored, about, _⟩ := ended
      have found := reads.order?_some.mpr ⟨row, stored, about, rfl⟩
      unfold Ledger.evidence
      rw [found]
      simp
    · intro item member quantity same
      have reported := reads.reported_iff.mpr ⟨item, member, same⟩
      refine lt_of_le_of_ne (reached quantity reported) ?_
      rintro rfl
      exact unmet reported

theorem resolved_of_silent (silent : ledger.pendingReasons symbol = []) :
    ∀ order ∈ database.orders.rows, order.symbol = symbol →
      order.status ≠ .pending ∧ order.status ≠ .failed := by
  intro row stored under
  have member : OrderRecord.ofRow row ∈ ledger.orders := by
    rw [reads.orders]
    exact List.mem_map_of_mem stored
  rw [Ledger.pendingReasons, List.map_eq_nil_iff, List.filter_eq_nil_iff]
    at silent
  have resolved := silent _ member
  constructor <;> intro status <;>
    exact resolved (by simp [OrderRecord.ofRow, under, status,
      OrderStatus.unresolved])

end Ledger.Reads

variable (decimals) in
theorem identified_eq_zero
    (none : ∀ fact ∈ database.storedFacts,
      ¬(fact.orderId = orderId ∧ fact.symbol = symbol)) :
    database.identified decimals symbol orderId = 0 := by
  have empty : ((database.symbolFills symbol).filter fun fact =>
      decide (fact.orderId = orderId)) = [] := by
    rw [List.filter_eq_nil_iff]
    intro fact member about
    rw [OrdersDatabase.symbolFills, List.mem_filter] at member
    exact none fact member.1 ⟨by simpa using about, by simpa using member.2⟩
  unfold OrdersDatabase.identified
  rw [empty]
  rfl

theorem listed_of_settled (valid : database.observationsValid = .ok ())
    (observed : database.Observed symbol orderId)
    (settled : database.Settled decimals symbol orderId) :
    database.Listed symbol orderId := by
  obtain ⟨observation, member, about, _⟩ := observed
  obtain ⟨amount, same, positive⟩ :=
    OrdersDatabase.observation_positive valid member
  have reached := settled.reached amount (.inl ⟨observation, member, about, same⟩)
  by_contra unlisted
  rw [identified_eq_zero] at reached
  · exact absurd positive (not_lt.mpr reached)
  · rintro fact stored ⟨about, under⟩
    exact unlisted (.inl ⟨fact, stored, about, under⟩)

/-- When the fills are added without rounding, a complete projection keeps its promise
exactly when every observed order of the symbol is covered or listed. -/
theorem completeFor_iff (context : OrdersContext) (now : DateTime)
    (store : OrdersStore) (result : List (String × PositionProjection))
    {projection : PositionProjection}
    (projected : (OrdersStore.projections .defaultContext context now store).1 =
      .ok result)
    (member : (symbol, projection) ∈ result)
    (complete : projection.complete)
    (exactly : store.database.AddsExactly .defaultContext symbol) :
    (∃ baseline, store.database.CompleteFor symbol baseline projection) ↔
      store.database.ObservationsListed symbol := by
  obtain ⟨ledger, reads, results⟩ :=
    projections_eq_ok (database_projections projected)
  obtain ⟨given, gives, same⟩ :=
    project_gives ((results symbol projection).mp member).2
  rw [same] at complete
  obtain ⟨silent, opening, opened, quantity⟩ :=
    complete_projectPositionIn complete
  rw [← same, reads.symbolFacts_eq] at quantity
  rw [reads.baselines_eq] at opened
  have covered : store.database.coveredOrders symbol =
      opening.coveredOrderIds := by
    simp [OrdersDatabase.coveredOrders, opened]
  have added : projection.quantity = some (opening.quantity +
      (((store.database.symbolFills symbol).filter fun fact =>
        decide (opening.effectiveAt < fact.executedAt)).map FillFact.signed).sum) := by
    rw [quantity, exactly.signedSize, (exactly.replayed opening opened).foldl]
    congr 2
    exact ((List.mergeSort_perm _ _).map FillFact.signed).sum_eq
  constructor
  · rintro ⟨baseline, promised⟩ orderId uncovered observed
    rw [promised.opened] at opened
    cases opened
    rw [covered] at uncovered
    exact listed_of_settled reads.valid observed
      (promised.settled orderId uncovered (.inr observed))
  · intro listed
    refine ⟨opening, ⟨opened, ?_, ?_, added⟩⟩
    · apply reads.resolved_of_silent
      rw [List.eq_nil_iff_forall_not_mem]
      intro reason pending
      have given := (gives.member reason).mpr (.inl pending)
      rw [silent] at given
      cases given
    · intro orderId uncovered evidenced
      have considered : ledger.Considered symbol orderId := by
        refine ⟨reads.mem_orderIds.mpr ?_, ?_⟩
        · rw [← covered] at uncovered
          exact evidenced.elim id (listed orderId uncovered)
        · rwa [reads.covered_eq, covered]
      obtain ⟨reasons, returned⟩ := gives.readable orderId considered
      have none : reasons = [] := by
        rw [List.eq_nil_iff_forall_not_mem]
        intro reason among
        have given := (gives.member reason).mpr
          (.inr ⟨orderId, reasons, considered, returned, among⟩)
        rw [silent] at given
        cases given
      rw [none] at returned
      have settled := reads.settled_of_silent returned
      exact ⟨exactly.identified orderId ▸ settled.reached,
        exactly.identified orderId ▸ settled.met⟩

end Evidence

/-- The store after a list of writes. -/
def WriterCall.run (context : OrdersContext) (calls : List WriterCall)
    (store : OrdersStore) : OrdersStore :=
  calls.foldl (fun reached call => (call.perform context reached).2) store

section Examples

def flatBaseline : PositionBaseline where
  symbol := "BTC-USD"
  effectiveAt := 1
  quantity := 0
  entryPrice := none
  evidence := "statement"
  actorId := "operator"
  coveredOrderIds := []
  identified := by decide
  distinct := List.nodup_nil
  named := List.forall_mem_nil _
  priced := by simp
  positive := pos_of_mem_none

def boughtStore : OrdersStore :=
  WriterCall.run plainContext
    [.recordBaseline flatBaseline (.utc 20), .recordFill futureFill (.utc 20)]
    (.fresh .empty)

def boughtProjection : PositionProjection :=
  { symbol := "BTC-USD"
    quantity := some 1
    entryPrice := some 100
    realizedPnl := some 0
    reasons := []
    fillCount := 1
    fees := []
    feeCoverage := "unknown" }

theorem bought_addsExactly :
    boughtStore.database.AddsExactly .defaultContext "BTC-USD" := by
  have fills : boughtStore.database.symbolFills "BTC-USD" = [futureFill] := by
    decide +kernel
  constructor
  · intro orderId
    rw [fills, List.filter_singleton]
    cases decide (futureFill.orderId = orderId) with
    | true => decide +kernel
    | false => exact trivial
  · rw [fills]
    decide +kernel
  · intro baseline opened
    have flat : boughtStore.database.storedBaselines.get? "BTC-USD" =
        some flatBaseline := by decide +kernel
    rw [flat] at opened
    cases opened
    rw [fills]
    decide +kernel

/-- One identified purchase is complete. -/
theorem bought_completeFor_iff :
    (∃ baseline,
      boughtStore.database.CompleteFor "BTC-USD" baseline boughtProjection) ↔
        boughtStore.database.ObservationsListed "BTC-USD" :=
  completeFor_iff plainContext (.utc 20) boughtStore
    [("BTC-USD", boughtProjection)] (by decide +kernel) (by simp) rfl bought_addsExactly

def orphanStore : OrdersStore :=
  WriterCall.run plainContext
    [.recordBaseline flatBaseline (.utc 20),
      .recordObservation (plainOrder "X" "a" 5) "websocket"]
    (.fresh .empty)

def flatProjection : PositionProjection :=
  { symbol := "BTC-USD"
    quantity := some 0
    entryPrice := some 0
    realizedPnl := some 0
    reasons := []
    fillCount := 0
    fees := []
    feeCoverage := "complete" }

/-- The projection is complete and flat while an order is observed with fills
that nothing identifies. -/
theorem orphan_observation_not_completeFor :
    (OrdersStore.projections .defaultContext plainContext (.utc 20) orphanStore).1 =
        .ok [("BTC-USD", flatProjection)] ∧
      flatProjection.complete ∧
      ¬∃ baseline,
        orphanStore.database.CompleteFor "BTC-USD" baseline flatProjection := by
  refine ⟨by decide +kernel, rfl, ?_⟩
  rintro ⟨baseline, promised⟩
  have opened : orphanStore.database.storedBaselines.get? "BTC-USD" =
      some flatBaseline := by decide +kernel
  rw [promised.opened] at opened
  cases opened
  have observed : orphanStore.database.Observed "BTC-USD" "X" := by
    unfold OrdersDatabase.Observed
    decide +kernel
  have settled := promised.settled "X" (by decide) (.inr observed)
  have listed := listed_of_settled (by decide +kernel) observed settled
  unfold OrdersDatabase.Listed at listed
  revert listed
  decide +kernel

end Examples

end GptTrader
