import Mathlib.Algebra.Order.BigOperators.Group.List
import GptTrader.Persistence.ProjectionEvidence
import GptTrader.Python.DecimalAccuracy

/-!
# Deleting old orders

`OrdersStore.cleanup_old_orders` (`persistence/orders_store.py`).  A deleted row
may be what a baseline binds, what an unresolved submission rests on, or what
the fills of an order are compared with.  The books stay the same exactly when
no deleted row is any of these by itself.
-/

namespace GptTrader

/-- The order is over. -/
def OrderStatus.disposable : OrderStatus → Bool
  | .filled => true
  | .cancelled => true
  | .rejected => true
  | .expired => true
  | .failed => true
  | _ => false

/-- SQLite's `datetime(value)`: whole seconds in UTC. -/
def DateTime.seconds (moment : DateTime) : ℤ :=
  moment.instant / 1000000

/-- The row is older than `days` days; a negative number of days is no SQLite
modifier, and compares as `NULL`. -/
def OrderRecord.outdated (days : ℤ) (now : DateTime) (order : OrderRecord) :
    Bool :=
  order.status.disposable &&
    decide (0 ≤ days ∧ order.updatedAt.seconds < now.seconds - 86400 * days)

namespace OrdersDatabase

/-- The store without old orders that are over. -/
def cleanup (days : ℤ) (now : DateTime) (database : OrdersDatabase) :
    OrdersDatabase :=
  { database with orders := database.orders.delete (OrderRecord.outdated days now) }

end OrdersDatabase

def OrdersStore.cleanupOldOrders (days : ℤ) (now : DateTime) : StoreTx ℕ := do
  let deleted ← fetch fun database =>
    (database.orders.rows.filter (OrderRecord.outdated days now)).length
  write fun database => .ok (database.cleanup days now)
  pure deleted

/-- What the books say about a symbol. -/
structure Book where
  quantity : Option ℚ
  entryPrice : Option ℚ
  realizedPnl : Option ℚ
  reasons : List String
  deriving DecidableEq

def PositionProjection.book (projection : PositionProjection) : Book :=
  { quantity := projection.quantity
    entryPrice := projection.entryPrice
    realizedPnl := projection.realizedPnl
    reasons := projection.reasons }

def bookOf (result : List (String × PositionProjection)) (symbol : String) :
    Option Book :=
  (result.find? fun entry => decide (entry.1 = symbol)).map
    fun entry => entry.2.book

namespace OrdersDatabase

/-- The notional of the identified fills of an order. -/
def identifiedCost (decimals : DecimalContext) (database : OrdersDatabase)
    (symbol orderId : String) : ℚ :=
  Ledger.cost decimals <| (database.symbolFills symbol).filter fun fact =>
    decide (fact.orderId = orderId)

/-- The average price of the identified fills of an order. -/
def identifiedPrice (decimals : DecimalContext) (database : OrdersDatabase)
    (symbol orderId : String) : ℚ :=
  decimals.div (database.identifiedCost decimals symbol orderId)
    (database.identified decimals symbol orderId)

/-- Fills of the order are stored. -/
def HasFills (database : OrdersDatabase) (symbol orderId : String) : Prop :=
  ∃ fact ∈ database.storedFacts, fact.orderId = orderId ∧ fact.symbol = symbol

/-- The order's row reports a fill. -/
def RowReports (database : OrdersDatabase) (symbol orderId : String) : Prop :=
  ∃ order ∈ database.orders.rows,
    order.orderId = orderId ∧ order.symbol = symbol ∧
      reportsFills order = .ok true

def ObservedQuantity (database : OrdersDatabase) (orderId : String)
    (quantity : ℚ) : Prop :=
  ∃ observation ∈ database.storedObservations,
    observation.orderId = orderId ∧ observation.quantity = .finite quantity

def ObservedOtherPrice (database : OrdersDatabase) (orderId : String)
    (quantity price : ℚ) : Prop :=
  ∃ observation ∈ database.storedObservations,
    observation.orderId = orderId ∧ observation.quantity = .finite quantity ∧
      ∃ observed, observation.averagePrice = some (.finite observed) ∧
        observed ≠ price

/-- The baseline covers the order. -/
def Covered (database : OrdersDatabase) (orderId : String) : Prop :=
  ∃ row ∈ database.baselines, ∃ payload, row.content = .ok payload ∧
    orderId ∈ payload.baseline.coveredOrderIds

/-- What the row of an order says about its fills is said without it. -/
structure Redundant (decimals : DecimalContext) (database : OrdersDatabase)
    (symbol orderId : String) (quantity : ℚ) (averagePrice : Option Decimal) : Prop where
  above : database.identified decimals symbol orderId < quantity →
    ∃ amount, database.ObservedQuantity orderId amount ∧
      database.identified decimals symbol orderId < amount
  below : quantity < database.identified decimals symbol orderId →
    ∃ amount, database.ObservedQuantity orderId amount ∧
      database.identified decimals symbol orderId ≤ amount
  priced : quantity = database.identified decimals symbol orderId →
    ∀ price, averagePrice = some (.finite price) →
      price ≠ database.identifiedPrice decimals symbol orderId →
        database.ObservedOtherPrice orderId
          (database.identified decimals symbol orderId)
          (database.identifiedPrice decimals symbol orderId)

/-- A row the books do not rest on. -/
structure Spare (decimals : DecimalContext) (database : OrdersDatabase) (order : OrderRecord) : Prop where
  uncovered : ¬database.Covered order.orderId
  certain : order.status ≠ .failed
  identified : ∀ quantity, order.filledQuantity = .finite quantity →
    0 < quantity → database.HasFills order.symbol order.orderId
  redundant : ∀ symbol, database.HasFills symbol order.orderId →
    ∀ quantity, order.filledQuantity = .finite quantity →
      database.Redundant decimals symbol order.orderId quantity order.averageFillPrice

/-- The reasons the evidence of a database gives for a symbol. -/
def Speaks (decimals : DecimalContext) (database : OrdersDatabase)
    (symbol : String) : ProjectionReason → Prop
  | .pendingSubmissionUnresolved orderId =>
      ∃ order ∈ database.orders.rows,
        order.orderId = orderId ∧ order.symbol = symbol ∧
          order.status.unresolved = true
  | .identifiedFillsMissing orderId =>
      database.Listed symbol orderId ∧
        orderId ∉ database.coveredOrders symbol ∧
        ∃ quantity, database.Reported orderId quantity ∧
          database.identified decimals symbol orderId < quantity
  | .fillReceiptConflict orderId =>
      database.Listed symbol orderId ∧
        orderId ∉ database.coveredOrders symbol ∧
        (∃ order ∈ database.orders.rows,
          order.orderId = orderId ∧ order.status.venueTerminal = true) ∧
        ∀ quantity, database.Reported orderId quantity →
          quantity < database.identified decimals symbol orderId
  | .fillNotionalUnverified orderId =>
      database.Listed symbol orderId ∧
        orderId ∉ database.coveredOrders symbol ∧
        0 < database.identified decimals symbol orderId ∧
        (database.ObservedOtherPrice orderId
            (database.identified decimals symbol orderId)
            (database.identifiedPrice decimals symbol orderId) ∨
          ∃ order ∈ database.orders.rows,
            order.orderId = orderId ∧
              order.filledQuantity =
                .finite (database.identified decimals symbol orderId) ∧
              ∃ price, order.averageFillPrice = some (.finite price) ∧
                price ≠ database.identifiedPrice decimals symbol orderId)
  | .openingInventoryUnknown => False
  | .executionOrderAmbiguous => False

end OrdersDatabase

section Speaking

variable {decimals : DecimalContext} {context : OrdersContext} {now : DateTime}
variable {database : OrdersDatabase} {ledger : Ledger}
variable {symbol : String} {given : List ProjectionReason}

section

variable (reads : ledger.Reads context now database) {orderId : String}

include reads orderId

theorem Ledger.Reads.cost_eq :
    Ledger.cost decimals (ledger.recorded symbol orderId) =
      database.identifiedCost decimals symbol orderId := by
  unfold Ledger.recorded
  rw [reads.symbolFacts_eq]
  rfl

theorem Ledger.Reads.considered_iff :
    ledger.Considered symbol orderId ↔
      database.Listed symbol orderId ∧
        orderId ∉ database.coveredOrders symbol := by
  unfold Ledger.Considered
  rw [reads.mem_orderIds, reads.covered_eq]

theorem Ledger.Reads.differs_iff :
    (∃ item ∈ ledger.evidence orderId,
        item.Differs decimals (database.identified decimals symbol orderId)
          (database.identifiedCost decimals symbol orderId)) ↔
      0 < database.identified decimals symbol orderId ∧
        (database.ObservedOtherPrice orderId
            (database.identified decimals symbol orderId)
            (database.identifiedPrice decimals symbol orderId) ∨
          ∃ order ∈ database.orders.rows,
            order.orderId = orderId ∧
              order.filledQuantity =
                .finite (database.identified decimals symbol orderId) ∧
              ∃ price, order.averageFillPrice = some (.finite price) ∧
                price ≠ database.identifiedPrice decimals symbol orderId) := by
  unfold Ledger.evidence FillEvidence.Differs OrdersDatabase.ObservedOtherPrice
  rw [reads.observations]
  constructor
  · rintro ⟨item, member, same, positive, price, priced, differs⟩
    refine ⟨positive, ?_⟩
    rcases List.mem_append.mp member with observed | ordered
    · obtain ⟨observation, found, rfl⟩ := List.mem_map.mp observed
      rw [List.mem_filter, decide_eq_true_eq] at found
      exact .inl ⟨observation, found.1, found.2, same, price, priced, differs⟩
    · obtain ⟨order, found, rfl⟩ := List.mem_map.mp ordered
      obtain ⟨row, stored, about, rfl⟩ :=
        reads.order?_some.mp (Option.mem_toList.mp found)
      exact .inr ⟨row, stored, about, same, price, priced, differs⟩
  · rintro ⟨positive, observed | ordered⟩
    · obtain ⟨observation, member, about, same, price, priced, differs⟩ :=
        observed
      refine ⟨.ofObservation observation, ?_, same, positive, price, priced,
        differs⟩
      refine List.mem_append_left _ (List.mem_map_of_mem ?_)
      simp [member, about]
    · obtain ⟨row, stored, about, same, price, priced, differs⟩ := ordered
      refine ⟨.ofOrder (.ofRow row), ?_, same, positive, price, priced, differs⟩
      refine List.mem_append_right _ (List.mem_map_of_mem ?_)
      exact Option.mem_toList.mpr
        (reads.order?_some.mpr ⟨row, stored, about, rfl⟩)

end

/-- The reasons given for a symbol are those the evidence gives. -/
theorem Ledger.Reads.given_iff (reads : ledger.Reads context now database)
    (gives : ledger.Gives decimals symbol given) (reason : ProjectionReason) :
    reason ∈ given ↔ database.Speaks decimals symbol reason := by
  have spec : ∀ orderId reasons,
      ledger.orderReasons decimals symbol orderId = .ok reasons →
        EvidenceReasons decimals orderId (database.identified decimals symbol orderId)
          (database.identifiedCost decimals symbol orderId)
          ((ledger.order? orderId).any fun order => order.status.venueTerminal)
          (ledger.evidence orderId) reasons := by
    intro orderId reasons returned
    have spec := evidenceReasons_spec returned
    rwa [reads.total_eq, reads.cost_eq] at spec
  have evidenced : reason ∉ ledger.pendingReasons symbol →
      (reason ∈ given ↔
        database.Listed symbol reason.about ∧
          reason.about ∉ database.coveredOrders symbol ∧ ∃ reasons,
            ledger.orderReasons decimals symbol reason.about = .ok reasons ∧
              reason ∈ reasons) := by
    intro notPending
    rw [gives.member, or_iff_right notPending, ← and_assoc,
      ← reads.considered_iff]
    constructor
    · rintro ⟨orderId, reasons, considered, returned, member⟩
      have same : reason.about = orderId := by
        rcases (spec orderId reasons returned).among reason member with
          same | same | same <;> rw [same] <;> rfl
      subst same
      exact ⟨considered, reasons, returned, member⟩
    · rintro ⟨considered, reasons, returned, member⟩
      exact ⟨reason.about, reasons, considered, returned, member⟩
  have readable : ∀ orderId, database.Listed symbol orderId →
      orderId ∉ database.coveredOrders symbol →
        ∃ reasons, ledger.orderReasons decimals symbol orderId = .ok reasons :=
    fun orderId listed uncovered =>
      gives.readable orderId (reads.considered_iff.mpr ⟨listed, uncovered⟩)
  cases reason with
  | pendingSubmissionUnresolved orderId =>
      rw [gives.member, or_iff_left]
      · unfold Ledger.pendingReasons
        rw [reads.orders]
        constructor
        · intro member
          obtain ⟨order, found, same⟩ := List.mem_map.mp member
          cases same
          rw [List.mem_filter, List.mem_map] at found
          obtain ⟨⟨row, stored, rfl⟩, about⟩ := found
          simp only [Bool.and_eq_true, decide_eq_true_eq] at about
          exact ⟨row, stored, rfl, about.1, about.2⟩
        · rintro ⟨row, stored, rfl, under, unresolved⟩
          refine List.mem_map.mpr ⟨.ofRow row, ?_, rfl⟩
          rw [List.mem_filter]
          refine ⟨List.mem_map_of_mem stored, ?_⟩
          simp [OrderRecord.ofRow, under, unresolved]
      · rintro ⟨other, reasons, _, returned, member⟩
        rcases (spec other reasons returned).among _ member with
          same | same | same <;> cases same
  | identifiedFillsMissing orderId =>
      rw [evidenced (by simp [Ledger.pendingReasons])]
      refine and_congr_right fun listed => and_congr_right fun uncovered => ?_
      obtain ⟨reasons, returned⟩ := readable orderId listed uncovered
      change (∃ reasons, ledger.orderReasons decimals symbol orderId = .ok reasons ∧ _) ↔ _
      simp only [returned, Except.ok.injEq, exists_eq_left',
        (spec orderId reasons returned).missing, reads.reported_iff]
      constructor
      · rintro ⟨item, member, quantity, same, less⟩
        exact ⟨quantity, ⟨item, member, same⟩, less⟩
      · rintro ⟨quantity, ⟨item, member, same⟩, less⟩
        exact ⟨item, member, quantity, same, less⟩
  | fillReceiptConflict orderId =>
      rw [evidenced (by simp [Ledger.pendingReasons])]
      refine and_congr_right fun listed => and_congr_right fun uncovered => ?_
      obtain ⟨reasons, returned⟩ := readable orderId listed uncovered
      change (∃ reasons, ledger.orderReasons decimals symbol orderId = .ok reasons ∧ _) ↔ _
      simp only [returned, Except.ok.injEq, exists_eq_left',
        (spec orderId reasons returned).conflict, reads.terminal_iff]
      refine and_congr_right fun ended => ?_
      constructor
      · rintro ⟨_, below⟩ quantity reported
        obtain ⟨item, member, same⟩ := reads.reported_iff.mp reported
        exact below item member quantity same
      · intro below
        refine ⟨?_, fun item member quantity same =>
          below quantity (reads.reported_iff.mpr ⟨item, member, same⟩)⟩
        obtain ⟨row, stored, about, _⟩ := ended
        unfold Ledger.evidence
        rw [reads.order?_some.mpr ⟨row, stored, about, rfl⟩]
        simp
  | fillNotionalUnverified orderId =>
      rw [evidenced (by simp [Ledger.pendingReasons])]
      refine and_congr_right fun listed => and_congr_right fun uncovered => ?_
      obtain ⟨reasons, returned⟩ := readable orderId listed uncovered
      change (∃ reasons, ledger.orderReasons decimals symbol orderId = .ok reasons ∧ _) ↔ _
      simp only [returned, Except.ok.injEq, exists_eq_left',
        (spec orderId reasons returned).unverified]
      exact reads.differs_iff
  | openingInventoryUnknown =>
      rw [gives.member]
      refine iff_of_false ?_ id
      rintro (pending | ⟨other, reasons, _, returned, member⟩)
      · simp [Ledger.pendingReasons] at pending
      · rcases (spec other reasons returned).among _ member with
          same | same | same <;> cases same
  | executionOrderAmbiguous =>
      rw [gives.member]
      refine iff_of_false ?_ id
      rintro (pending | ⟨other, reasons, _, returned, member⟩)
      · simp [Ledger.pendingReasons] at pending
      · rcases (spec other reasons returned).among _ member with
          same | same | same <;> cases same

end Speaking

section Cleaning

variable {database : OrdersDatabase} {days : ℤ} {moment : DateTime}
variable {symbol orderId : String} {deleted : OrderRecord}
variable {reason : ProjectionReason}

theorem mem_cleanup {order : OrderRecord} :
    order ∈ (database.cleanup days moment).orders.rows ↔
      order ∈ database.orders.rows ∧ order.outdated days moment = false :=
  Table.mem_delete

theorem disposable_of_outdated {order : OrderRecord}
    (outdated : order.outdated days moment = true) :
    order.status.disposable = true :=
  (Bool.and_eq_true _ _ ▸ outdated).1

theorem terminal_of_outdated {order : OrderRecord}
    (outdated : order.outdated days moment = true)
    (certain : order.status ≠ .failed) :
    order.status.venueTerminal = true ∧ order.status.unresolved = false := by
  have disposable := disposable_of_outdated outdated
  cases status : order.status with
  | failed => exact absurd status certain
  | pending => simp [status, OrderStatus.disposable] at disposable
  | «open» => simp [status, OrderStatus.disposable] at disposable
  | partiallyFilled => simp [status, OrderStatus.disposable] at disposable
  | filled => exact ⟨rfl, rfl⟩
  | cancelled => exact ⟨rfl, rfl⟩
  | rejected => exact ⟨rfl, rfl⟩
  | expired => exact ⟨rfl, rfl⟩

theorem exists_kept_row
    (kept : ¬∃ order ∈ database.orders.rows,
      order.orderId = orderId ∧ order.outdated days moment = true)
    (property : OrderRecord → Prop) :
    (∃ order ∈ (database.cleanup days moment).orders.rows,
        order.orderId = orderId ∧ property order) ↔
      ∃ order ∈ database.orders.rows,
        order.orderId = orderId ∧ property order := by
  simp only [mem_cleanup]
  constructor
  · rintro ⟨order, ⟨stored, _⟩, about, holds⟩
    exact ⟨order, stored, about, holds⟩
  · rintro ⟨order, stored, about, holds⟩
    refine ⟨order, ⟨stored, ?_⟩, about, holds⟩
    by_contra outdated
    exact kept ⟨order, stored, about, by simpa using outdated⟩

theorem no_deleted_row (stored : deleted ∈ database.orders.rows)
    (outdated : deleted.outdated days moment = true)
    (property : OrderRecord → Prop) :
    ¬∃ order ∈ (database.cleanup days moment).orders.rows,
      order.orderId = deleted.orderId ∧ property order := by
  rintro ⟨order, member, about, _⟩
  obtain ⟨other, kept⟩ := mem_cleanup.mp member
  rw [database.orders.eq_of_key_eq other stored about, outdated] at kept
  cases kept

theorem exists_deleted_row (stored : deleted ∈ database.orders.rows)
    (property : OrderRecord → Prop) :
    (∃ order ∈ database.orders.rows,
        order.orderId = deleted.orderId ∧ property order) ↔
      property deleted := by
  constructor
  · rintro ⟨order, other, about, holds⟩
    rwa [← database.orders.eq_of_key_eq other stored about]
  · exact fun holds => ⟨deleted, stored, rfl, holds⟩

theorem speaks_kept
    (kept : ∀ orderId, reason.about = orderId →
      ¬∃ order ∈ database.orders.rows,
        order.orderId = orderId ∧ order.outdated days moment = true) :
    (database.cleanup days moment).Speaks decimals symbol reason ↔
      database.Speaks decimals symbol reason := by
  have listed : ∀ orderId, reason.about = orderId →
      ((database.cleanup days moment).Listed symbol orderId ↔
        database.Listed symbol orderId) := fun orderId about =>
    or_congr Iff.rfl (exists_kept_row (kept orderId about) _)
  have reported : ∀ orderId, reason.about = orderId → ∀ quantity,
      ((database.cleanup days moment).Reported orderId quantity ↔
        database.Reported orderId quantity) := fun orderId about quantity =>
    or_congr Iff.rfl (exists_kept_row (kept orderId about) _)
  cases reason with
  | pendingSubmissionUnresolved orderId =>
      exact exists_kept_row (kept orderId rfl) _
  | identifiedFillsMissing orderId =>
      refine and_congr (listed orderId rfl) (and_congr Iff.rfl ?_)
      exact exists_congr fun quantity =>
        and_congr (reported orderId rfl quantity) Iff.rfl
  | fillReceiptConflict orderId =>
      refine and_congr (listed orderId rfl) (and_congr Iff.rfl ?_)
      refine and_congr (exists_kept_row (kept orderId rfl) _) ?_
      exact forall_congr' fun quantity =>
        imp_congr (reported orderId rfl quantity) Iff.rfl
  | fillNotionalUnverified orderId =>
      refine and_congr (listed orderId rfl) (and_congr Iff.rfl ?_)
      refine and_congr Iff.rfl (or_congr Iff.rfl ?_)
      exact exists_kept_row (kept orderId rfl) _
  | openingInventoryUnknown => exact Iff.rfl
  | executionOrderAmbiguous => exact Iff.rfl

theorem reportsFills_finite {order : OrderRecord} {quantity : ℚ}
    (same : order.filledQuantity = .finite quantity) :
    OrdersDatabase.reportsFills order = .ok true ↔ 0 < quantity := by
  simp [OrdersDatabase.reportsFills, same, Except.mapError]

section

variable (stored : deleted ∈ database.orders.rows)

include stored

theorem reported_cleanup (outdated : deleted.outdated days moment = true) {quantity : ℚ} :
    (database.cleanup days moment).Reported deleted.orderId quantity ↔
      database.ObservedQuantity deleted.orderId quantity :=
  or_iff_left (no_deleted_row stored outdated _)

theorem reported_deleted {quantity : ℚ} :
    database.Reported deleted.orderId quantity ↔
      database.ObservedQuantity deleted.orderId quantity ∨
        deleted.filledQuantity = .finite quantity :=
  or_congr Iff.rfl (exists_deleted_row stored _)

theorem listed_cleanup (outdated : deleted.outdated days moment = true) :
    (database.cleanup days moment).Listed symbol deleted.orderId ↔
      database.HasFills symbol deleted.orderId :=
  or_iff_left (no_deleted_row stored outdated _)

/-- The order of a deleted row gives the same reasons when the row is spare. -/
theorem speaks_deleted (outdated : deleted.outdated days moment = true)
    (spare : database.Spare decimals deleted)
    (finite : ∃ quantity, deleted.filledQuantity = .finite quantity)
    (about : reason.about = deleted.orderId) :
    (database.cleanup days moment).Speaks decimals symbol reason ↔
      database.Speaks decimals symbol reason := by
  obtain ⟨filled, same⟩ := finite
  obtain ⟨ended, resolved⟩ := terminal_of_outdated outdated spare.certain
  have listed : database.Listed symbol deleted.orderId ↔
      database.HasFills symbol deleted.orderId := by
    refine or_iff_left_of_imp ?_
    rintro ⟨order, other, about, under, reports⟩
    have equal := database.orders.eq_of_key_eq other stored about
    subst equal
    rw [← under]
    exact spare.identified filled same ((reportsFills_finite same).mp reports)
  have value : ∀ quantity, deleted.filledQuantity = .finite quantity ↔
      filled = quantity := by
    intro quantity
    rw [same, Decimal.finite.injEq]
  cases reason with
  | pendingSubmissionUnresolved orderId =>
      obtain rfl : orderId = deleted.orderId := about
      refine iff_of_false (no_deleted_row stored outdated _) fun pending => ?_
      obtain ⟨_, unresolved⟩ := (exists_deleted_row stored _).mp pending
      rw [resolved] at unresolved
      cases unresolved
  | identifiedFillsMissing orderId =>
      obtain rfl : orderId = deleted.orderId := about
      change _ ∧ _ ∧ (∃ quantity, _ ∧ _) ↔ _ ∧ _ ∧ (∃ quantity, _ ∧ _)
      rw [listed_cleanup stored outdated, listed]
      refine and_congr_right fun fills => and_congr_right fun _ => ?_
      simp only [reported_cleanup stored outdated, reported_deleted stored]
      constructor
      · rintro ⟨quantity, observed, less⟩
        exact ⟨quantity, .inl observed, less⟩
      · rintro ⟨quantity, observed | reported, less⟩
        · exact ⟨quantity, observed, less⟩
        · exact (spare.redundant symbol fills quantity reported).above less
  | fillReceiptConflict orderId =>
      obtain rfl : orderId = deleted.orderId := about
      refine iff_of_false ?_ ?_
      · rintro ⟨_, _, terminal, _⟩
        exact no_deleted_row stored outdated _ terminal
      · rintro ⟨listedHere, _, _, below⟩
        have less := below filled
          ((reported_deleted stored).mpr (.inr same))
        obtain ⟨amount, observed, reached⟩ :=
          (spare.redundant symbol (listed.mp listedHere) filled same).below less
        have under := below amount
          ((reported_deleted stored).mpr (.inl observed))
        exact absurd reached (not_le.mpr under)
  | fillNotionalUnverified orderId =>
      obtain rfl : orderId = deleted.orderId := about
      change _ ∧ _ ∧ _ ∧ (_ ∨ _) ↔ _ ∧ _ ∧ _ ∧ (_ ∨ _)
      rw [listed_cleanup stored outdated, listed]
      refine and_congr_right fun fills => and_congr_right fun _ =>
        and_congr_right fun _ => ?_
      constructor
      · rintro (observed | row)
        · exact .inl observed
        · exact absurd row (no_deleted_row stored outdated _)
      · rintro (observed | row)
        · exact .inl observed
        · obtain ⟨reported, price, priced, differs⟩ :=
            (exists_deleted_row stored _).mp row
          have equal := (value _).mp reported
          exact .inl ((spare.redundant symbol fills filled same).priced equal
            price priced differs)
  | openingInventoryUnknown => exact Iff.rfl
  | executionOrderAmbiguous => exact Iff.rfl

end

theorem not_speaks_of_unlisted {database : OrdersDatabase}
    (unlisted : ¬(database.Listed symbol reason.about ∧
      reason.about ∉ database.coveredOrders symbol))
    (other : ∀ orderId, reason ≠ .pendingSubmissionUnresolved orderId) :
    ¬database.Speaks decimals symbol reason := by
  cases reason with
  | pendingSubmissionUnresolved orderId => exact absurd rfl (other orderId)
  | identifiedFillsMissing orderId =>
      exact fun speaks => unlisted ⟨speaks.1, speaks.2.1⟩
  | fillReceiptConflict orderId =>
      exact fun speaks => unlisted ⟨speaks.1, speaks.2.1⟩
  | fillNotionalUnverified orderId =>
      exact fun speaks => unlisted ⟨speaks.1, speaks.2.1⟩
  | openingInventoryUnknown => exact id
  | executionOrderAmbiguous => exact id

theorem speaks_cleanup
    (readable : ∀ orderId, database.Listed symbol orderId →
      orderId ∉ database.coveredOrders symbol →
        ∀ order ∈ database.orders.rows, order.orderId = orderId →
          ∃ quantity, order.filledQuantity = .finite quantity)
    (spare : ∀ order ∈ database.orders.rows,
      order.outdated days moment = true → database.Spare decimals order) :
    (database.cleanup days moment).Speaks decimals symbol reason ↔
      database.Speaks decimals symbol reason := by
  by_cases kept : ∃ order ∈ database.orders.rows,
      order.orderId = reason.about ∧ order.outdated days moment = true
  · obtain ⟨deleted, stored, about, outdated⟩ := kept
    have spared := spare deleted stored outdated
    by_cases finite : ∃ quantity, deleted.filledQuantity = .finite quantity
    · exact speaks_deleted stored outdated spared finite about.symm
    · have unlisted : ¬(database.Listed symbol reason.about ∧
          reason.about ∉ database.coveredOrders symbol) := fun listed =>
        finite (readable _ listed.1 listed.2 deleted stored about)
      have cleaned : ¬((database.cleanup days moment).Listed symbol
          reason.about ∧ reason.about ∉
            (database.cleanup days moment).coveredOrders symbol) := by
        rintro ⟨listed, uncovered⟩
        rw [← about, listed_cleanup stored outdated] at listed
        exact unlisted ⟨.inl (about ▸ listed), uncovered⟩
      by_cases pending : ∃ orderId,
          reason = .pendingSubmissionUnresolved orderId
      · obtain ⟨orderId, rfl⟩ := pending
        obtain rfl : deleted.orderId = orderId := about
        obtain ⟨_, resolved⟩ := terminal_of_outdated outdated spared.certain
        refine iff_of_false (no_deleted_row stored outdated _)
          fun pending => ?_
        obtain ⟨_, unresolved⟩ := (exists_deleted_row stored _).mp pending
        rw [resolved] at unresolved
        cases unresolved
      · have other : ∀ orderId,
            reason ≠ .pendingSubmissionUnresolved orderId :=
          fun orderId same => pending ⟨orderId, same⟩
        exact iff_of_false (not_speaks_of_unlisted cleaned other)
          (not_speaks_of_unlisted unlisted other)
  · refine speaks_kept fun orderId about => ?_
    rw [← about]
    exact kept

theorem total_pos (rounds : ∀ value, 0 < value → 0 < decimals.round value)
    {fills : List FillFact} (present : fills ≠ []) :
    0 < Ledger.total decimals fills := by
  unfold Ledger.total
  induction fills using List.reverseRecOn with
  | nil => exact absurd rfl present
  | append_singleton earlier fill induction =>
      rw [List.map_append, List.map_singleton, DecimalContext.sum_append_singleton]
      refine rounds _ (add_pos_of_nonneg_of_pos ?_ fill.positive.1)
      rcases eq_or_ne earlier [] with rfl | some_
      · exact le_refl 0
      · exact (induction some_).le

theorem identified_pos (rounds : ∀ value, 0 < value → 0 < decimals.round value)
    {database : OrdersDatabase} (fills : database.HasFills symbol orderId) :
    0 < database.identified decimals symbol orderId := by
  obtain ⟨fact, member, about, under⟩ := fills
  refine total_pos rounds fun none => ?_
  rw [List.filter_eq_nil_iff] at none
  refine none fact ?_ (by simpa using about)
  exact List.mem_filter.mpr ⟨member, by simpa using under⟩

theorem spare_of_speaks
    (rounds : ∀ value, 0 < value → 0 < decimals.round value)
    (stored : deleted ∈ database.orders.rows)
    (outdated : deleted.outdated days moment = true)
    (uncovered : ¬database.Covered deleted.orderId)
    (covered : ∀ symbol, deleted.orderId ∈ database.coveredOrders symbol →
      database.Covered deleted.orderId)
    (same : ∀ symbol reason, (database.cleanup days moment).Speaks decimals symbol
      reason ↔ database.Speaks decimals symbol reason) :
    database.Spare decimals deleted := by
  have free : ∀ symbol, deleted.orderId ∉ database.coveredOrders symbol :=
    fun symbol member => uncovered (covered symbol member)
  have certain : deleted.status ≠ .failed := by
    intro failed
    have pending := (same deleted.symbol
      (.pendingSubmissionUnresolved deleted.orderId)).mpr ?_
    · exact no_deleted_row stored outdated _ pending
    exact ⟨deleted, stored, rfl, rfl, by rw [failed]; rfl⟩
  obtain ⟨ended, _⟩ := terminal_of_outdated outdated certain
  refine ⟨uncovered, certain, ?_, ?_⟩
  · intro quantity reported positive
    by_contra none
    have zero : database.identified decimals deleted.symbol deleted.orderId = 0 :=
      identified_eq_zero decimals fun fact member about => none ⟨fact, member, about⟩
    have speaks : database.Speaks decimals deleted.symbol
        (.identifiedFillsMissing deleted.orderId) := by
      refine ⟨.inr ⟨deleted, stored, rfl, rfl,
        (reportsFills_finite reported).mpr positive⟩, free _, quantity, ?_, ?_⟩
      · exact (reported_deleted stored).mpr (.inr reported)
      · rwa [zero]
    have still := (same _ _).mpr speaks
    exact none ((listed_cleanup stored outdated).mp still.1)
  · intro symbol fills quantity reported
    have listed : database.Listed symbol deleted.orderId := .inl fills
    constructor
    · intro above
      have still := (same symbol (.identifiedFillsMissing deleted.orderId)).mpr
        ⟨listed, free symbol, quantity,
          (reported_deleted stored).mpr (.inr reported), above⟩
      obtain ⟨_, _, amount, observed, less⟩ := still
      exact ⟨amount, (reported_cleanup stored outdated).mp observed, less⟩
    · intro below
      by_contra none
      have conflict := (same symbol
        (.fillReceiptConflict deleted.orderId)).mpr ⟨listed, free symbol,
          ⟨deleted, stored, rfl, ended⟩, ?_⟩
      · exact no_deleted_row stored outdated _ conflict.2.2.1
      intro amount recorded
      rcases (reported_deleted stored).mp recorded with observed | row
      · by_contra reached
        exact none ⟨amount, observed, not_lt.mp reached⟩
      · rw [reported, Decimal.finite.injEq] at row
        rwa [← row]
    · intro equal price priced differs
      have positive := identified_pos rounds fills
      have still := (same symbol (.fillNotionalUnverified deleted.orderId)).mpr
        ⟨listed, free symbol, positive, .inr ⟨deleted, stored, rfl,
          equal ▸ reported, price, priced, differs⟩⟩
      rcases still.2.2.2 with observed | row
      · exact observed
      · exact absurd row (no_deleted_row stored outdated _)

end Cleaning

section Reading

variable {decimals : DecimalContext} {context : OrdersContext} {now : DateTime}
variable {database : OrdersDatabase} {ledger cleaned : Ledger}
variable {days : ℤ} {moment : DateTime}

theorem getOrder_cleanup {orderId : String}
    (kept : ¬∃ order ∈ database.orders.rows,
      order.orderId = orderId ∧ order.outdated days moment = true) :
    (database.cleanup days moment).getOrder orderId =
      database.getOrder orderId := by
  unfold OrdersDatabase.getOrder
  congr 1
  apply Option.ext
  intro row
  have same := exists_kept_row kept fun order => order = row
  simp only [Table.find?_eq_some_iff]
  constructor
  · rintro ⟨stored, about⟩
    exact ⟨(mem_cleanup.mp stored).1, about⟩
  · rintro ⟨stored, about⟩
    obtain ⟨_, other, _, rfl⟩ := same.mpr ⟨row, stored, about, rfl⟩
    exact ⟨other, about⟩

theorem receiptUnchanged_cleanup {observations : List FillObservation}
    {baseline : PositionBaseline} {covered : String × ReceiptBinding}
    (kept : ¬∃ order ∈ database.orders.rows,
      order.orderId = covered.1 ∧ order.outdated days moment = true) :
    (database.cleanup days moment).receiptUnchanged observations baseline
        covered =
      database.receiptUnchanged observations baseline covered := by
  unfold OrdersDatabase.receiptUnchanged
  rw [getOrder_cleanup kept]

theorem readBaseline_cleanup {observations : List FillObservation}
    {row : BaselineRow} {baseline : PositionBaseline}
    (member : row ∈ database.baselines)
    (uncovered : ∀ order ∈ database.orders.rows,
      order.outdated days moment = true → ¬database.Covered order.orderId)
    (read : OrdersDatabase.readBaseline now database observations row =
      .ok baseline) :
    OrdersDatabase.readBaseline now (database.cleanup days moment) observations
      row = .ok baseline := by
  obtain ⟨payload, content, read⟩ := Outcome.bind_eq_ok.mp read
  obtain ⟨_, observed, read⟩ := Outcome.bind_eq_ok.mp read
  obtain ⟨bound, read⟩ := Outcome.guard_eq_ok.mp read
  obtain ⟨_, unchanged, read⟩ := Outcome.bind_eq_ok.mp read
  refine Outcome.bind_eq_ok.mpr ⟨payload, content, ?_⟩
  refine Outcome.bind_eq_ok.mpr ⟨(), observed, ?_⟩
  refine Outcome.guard_eq_ok.mpr ⟨bound, ?_⟩
  refine Outcome.bind_eq_ok.mpr ⟨(), ?_, read⟩
  rw [Outcome.forM_eq_ok] at unchanged ⊢
  intro covered listed
  rw [receiptUnchanged_cleanup]
  · exact unchanged covered listed
  · rintro ⟨order, stored, about, outdated⟩
    refine uncovered order stored outdated ⟨row, member, payload, content, ?_⟩
    rw [about, ← List.mem_toFinset, ← not_not.mp bound, List.mem_toFinset]
    exact List.mem_map_of_mem listed

theorem reads_cleanup (reads : ledger.Reads context now database)
    (uncovered : ∀ order ∈ database.orders.rows,
      order.outdated days moment = true → ¬database.Covered order.orderId) :
    ∃ cleaned : Ledger,
      cleaned.Reads context now (database.cleanup days moment) := by
  obtain ⟨baselines, readBaselines, same⟩ := reads.baselines
  have fewer : ∀ order ∈
      (database.cleanup days moment).orders.rows.map OrderRecord.ofRow,
        order ∈ ledger.orders := by
    intro order member
    obtain ⟨row, stored, rfl⟩ := List.mem_map.mp member
    rw [reads.orders]
    exact List.mem_map_of_mem (mem_cleanup.mp stored).1
  obtain ⟨reporting, selected⟩ := OrdersDatabase.exists_selectReporting.mpr
    fun order member => OrdersDatabase.exists_selectReporting.mp
      ⟨_, reads.reporting⟩ order (fewer order member)
  refine ⟨{ ledger with
    orders := (database.cleanup days moment).orders.rows.map OrderRecord.ofRow
    reporting := reporting }, ?_⟩
  exact
    { facts := reads.facts
      valid := reads.valid
      observations := reads.observations
      baselines := by
        refine ⟨baselines, ?_, same⟩
        rw [Outcome.mapM_eq_ok] at readBaselines ⊢
        have each := (List.forall₂_iff_get.mp readBaselines)
        refine List.forall₂_iff_get.mpr ⟨each.1, fun index inRange inResult => ?_⟩
        exact readBaseline_cleanup (List.get_mem _ _) uncovered
          (each.2 index inRange inResult)
      orders := rfl
      checked := fun order member => reads.checked order (fewer order member)
      reporting := selected }

theorem uncovered_of_reads
    (reads : cleaned.Reads context now (database.cleanup days moment))
    {deleted : OrderRecord} (stored : deleted ∈ database.orders.rows)
    (outdated : deleted.outdated days moment = true) :
    ¬database.Covered deleted.orderId := by
  rintro ⟨row, member, payload, content, covers⟩
  obtain ⟨baselines, readBaselines, _⟩ := reads.baselines
  obtain ⟨baseline, _, read⟩ := Outcome.result_mem_mapM readBaselines member
  obtain ⟨other, again, read⟩ := Outcome.bind_eq_ok.mp read
  rw [content] at again
  cases again
  obtain ⟨_, _, read⟩ := Outcome.bind_eq_ok.mp read
  obtain ⟨bound, read⟩ := Outcome.guard_eq_ok.mp read
  obtain ⟨_, unchanged, _⟩ := Outcome.bind_eq_ok.mp read
  rw [← List.mem_toFinset, ← not_not.mp bound, List.mem_toFinset] at covers
  obtain ⟨binding, listed, same⟩ := List.mem_map.mp covers
  have checked := Outcome.forM_eq_ok.mp unchanged binding listed
  have missing :
      (database.cleanup days moment).getOrder binding.1 = none := by
    unfold OrdersDatabase.getOrder
    rw [Option.map_eq_none_iff, Table.find?_eq_none_iff]
    intro order kept about
    exact no_deleted_row stored outdated (fun _ => True)
      ⟨order, kept, about.trans same, trivial⟩
  unfold OrdersDatabase.receiptUnchanged at checked
  rw [missing] at checked
  cases checked

theorem Ledger.Reads.covered_of_mem (reads : ledger.Reads context now database)
    {symbol orderId : String}
    (member : orderId ∈ database.coveredOrders symbol) :
    database.Covered orderId := by
  unfold OrdersDatabase.coveredOrders at member
  rw [← reads.baselines_eq] at member
  cases found : ledger.baselines.get? symbol with
  | none => simp [found] at member
  | some baseline =>
      rw [found] at member
      obtain ⟨_, row, stored, read⟩ := reads.baseline_stored found
      obtain ⟨payload, content, rfl, _⟩ := readBaseline_content read
      exact ⟨row, stored, payload, content, member⟩

theorem orderReasons_cleanup (reads : ledger.Reads context now database)
    (cleanedReads : cleaned.Reads context now (database.cleanup days moment))
    {symbol orderId : String}
    (readable : ∃ reasons, ledger.orderReasons decimals symbol orderId = .ok reasons) :
    ∃ reasons, cleaned.orderReasons decimals symbol orderId = .ok reasons := by
  unfold Ledger.orderReasons at readable ⊢
  dsimp only at readable ⊢
  rw [reads.total_eq, reads.cost_eq] at readable
  rw [cleanedReads.total_eq, cleanedReads.cost_eq]
  refine evidenceReasons_fewer readable fun item member => ?_
  unfold Ledger.evidence at member ⊢
  rw [reads.observations]
  rw [cleanedReads.observations] at member
  rcases List.mem_append.mp member with observed | ordered
  · exact List.mem_append_left _ observed
  · refine List.mem_append_right _ ?_
    obtain ⟨order, found, rfl⟩ := List.mem_map.mp ordered
    obtain ⟨row, stored, about, rfl⟩ :=
      cleanedReads.order?_some.mp (Option.mem_toList.mp found)
    refine List.mem_map_of_mem (Option.mem_toList.mpr ?_)
    exact reads.order?_some.mpr ⟨row, (mem_cleanup.mp stored).1, about, rfl⟩

theorem listed_of_cleanup {symbol orderId : String}
    (listed : (database.cleanup days moment).Listed symbol orderId) :
    database.Listed symbol orderId := by
  refine listed.imp id ?_
  rintro ⟨order, stored, reports⟩
  exact ⟨order, (mem_cleanup.mp stored).1, reports⟩

end Reading

section Books

variable {decimals : DecimalContext} {context : OrdersContext} {now : DateTime}
variable {database : OrdersDatabase} {ledger cleaned : Ledger}
variable {symbol : String} {result : List (String × PositionProjection)}

/-- The result is of the projections of the symbols. -/
def Ledger.Results (decimals : DecimalContext) (ledger : Ledger)
    (result : List (String × PositionProjection)) : Prop :=
  ∀ symbol projection, (symbol, projection) ∈ result ↔
    symbol ∈ ledger.symbols ∧ ledger.project decimals symbol = .ok projection

theorem bookOf_eq_some (results : ledger.Results decimals result) {book : Book} :
    bookOf result symbol = some book ↔
      symbol ∈ ledger.symbols ∧
        ∃ projection, ledger.project decimals symbol = .ok projection ∧
          projection.book = book := by
  unfold bookOf
  rw [Option.map_eq_some_iff]
  constructor
  · rintro ⟨entry, found, rfl⟩
    have member := List.mem_of_find?_eq_some found
    have same : entry.1 = symbol := by simpa using List.find?_some found
    obtain ⟨listed, projected⟩ := (results entry.1 entry.2).mp member
    rw [same] at listed projected
    exact ⟨listed, entry.2, projected, rfl⟩
  · rintro ⟨listed, projection, projected, rfl⟩
    have member := (results symbol projection).mpr ⟨listed, projected⟩
    obtain ⟨entry, found⟩ : ∃ entry,
        result.find? (fun entry => decide (entry.1 = symbol)) = some entry := by
      apply Option.isSome_iff_exists.mp
      rw [List.find?_isSome]
      exact ⟨_, member, by simp⟩
    have same : entry.1 = symbol := by simpa using List.find?_some found
    obtain ⟨_, again⟩ :=
      (results entry.1 entry.2).mp (List.mem_of_find?_eq_some found)
    rw [same, projected] at again
    cases again
    exact ⟨entry, found, rfl⟩

theorem projections_returns (reads : ledger.Reads context now database)
    (readable : ∀ symbol ∈ ledger.symbols,
      ∃ projection, ledger.project decimals symbol = .ok projection) :
    ∃ result, database.projections decimals context now = .ok result := by
  unfold OrdersDatabase.projections
  rw [readLedger_eq_ok.mpr reads]
  refine Outcome.exists_mapM.mpr fun symbol listed => ?_
  obtain ⟨projection, projected⟩ := readable symbol listed
  exact ⟨_, Outcome.bind_eq_ok.mpr ⟨projection, projected, rfl⟩⟩

theorem given_of_book {fills : List FillFact}
    {baseline : Option PositionBaseline}
    {left right : List ProjectionReason}
    (same : (projectPositionIn decimals symbol fills baseline left).book =
      (projectPositionIn decimals symbol fills baseline right).book)
    {reason : ProjectionReason}
    (given : reason ≠ .openingInventoryUnknown ∧
      reason ≠ .executionOrderAmbiguous)
    (member : reason ∈ left) : reason ∈ right := by
  obtain ⟨own, kinds, texts⟩ := reasons_projectPositionIn decimals symbol fills baseline
  have reasons := congrArg Book.reasons same
  change (projectPositionIn decimals symbol fills baseline left).reasons =
    (projectPositionIn decimals symbol fills baseline right).reasons at reasons
  rw [texts, texts] at reasons
  have found : reason ∈ right ++ own := by
    rw [← ProjectionReason.mem_sortedTexts, ← reasons,
      ProjectionReason.mem_sortedTexts]
    exact List.mem_append_left _ member
  rcases List.mem_append.mp found with right | own
  · exact right
  · rcases kinds reason own with opening | ambiguous
    · exact absurd opening given.1
    · exact absurd ambiguous given.2

end Books

section Housekeeping

variable {decimals : DecimalContext} {context : OrdersContext} {now moment : DateTime}
variable {days : ℤ}
variable {database : OrdersDatabase} {ledger cleaned : Ledger}
variable {symbol : String} {before after : List (String × PositionProjection)}

section

variable (reads : ledger.Reads context now database)

include reads

variable (decimals) in
theorem mem_symbols :
    symbol ∈ ledger.symbols ↔
      symbol ∈ database.storedBaselines.keys ∨
        (∃ fact ∈ database.storedFacts, fact.symbol = symbol) ∨
        (∃ orderId, database.RowReports symbol orderId) ∨
        ∃ orderId,
          database.Speaks decimals symbol (.pendingSubmissionUnresolved orderId) := by
  unfold Ledger.symbols
  rw [List.mem_eraseDups, reads.baselines_eq, reads.facts_eq]
  simp only [List.mem_append, or_assoc, List.mem_map, List.mem_filter]
  refine or_congr Iff.rfl (or_congr Iff.rfl (or_congr ?_ ?_))
  · constructor
    · rintro ⟨order, member, under⟩
      obtain ⟨listed, reports⟩ :=
        (OrdersDatabase.mem_selectReporting reads.reporting).mp member
      rw [reads.orders] at listed
      obtain ⟨row, stored, rfl⟩ := List.mem_map.mp listed
      exact ⟨row.orderId, row, stored, rfl, under, reports⟩
    · rintro ⟨_, row, stored, _, under, reports⟩
      exact ⟨_, reads.mem_reporting stored reports, under⟩
  · rw [reads.orders]
    constructor
    · rintro ⟨order, ⟨member, unresolved⟩, under⟩
      obtain ⟨row, stored, rfl⟩ := List.mem_map.mp member
      exact ⟨row.orderId, row, stored, rfl, under, unresolved⟩
    · rintro ⟨_, row, stored, _, under, unresolved⟩
      exact ⟨_, ⟨List.mem_map_of_mem stored, unresolved⟩, under⟩

theorem mem_symbols_of_speaks {reason : ProjectionReason}
    (speaks : database.Speaks decimals symbol reason) :
    symbol ∈ ledger.symbols := by
  have of_listed : ∀ orderId, database.Listed symbol orderId →
      symbol ∈ ledger.symbols := by
    rintro orderId (⟨fact, member, _, under⟩ | reports)
    · exact (mem_symbols decimals reads).mpr (.inr (.inl ⟨fact, member, under⟩))
    · exact (mem_symbols decimals reads).mpr (.inr (.inr (.inl ⟨orderId, reports⟩)))
  cases reason with
  | pendingSubmissionUnresolved orderId =>
      exact (mem_symbols decimals reads).mpr (.inr (.inr (.inr ⟨orderId, speaks⟩)))
  | identifiedFillsMissing orderId => exact of_listed orderId speaks.1
  | fillReceiptConflict orderId => exact of_listed orderId speaks.1
  | fillNotionalUnverified orderId => exact of_listed orderId speaks.1
  | openingInventoryUnknown => exact speaks.elim
  | executionOrderAmbiguous => exact speaks.elim

theorem readable_of_listed
    (projected : ∀ symbol ∈ ledger.symbols,
      ∃ projection, ledger.project decimals symbol = .ok projection) {orderId : String}
    (listed : database.Listed symbol orderId)
    (uncovered : orderId ∉ database.coveredOrders symbol) :
    ∃ reasons, ledger.orderReasons decimals symbol orderId = .ok reasons := by
  have member : symbol ∈ ledger.symbols := by
    rcases listed with ⟨fact, stored, _, under⟩ | reports
    · exact (mem_symbols decimals reads).mpr (.inr (.inl ⟨fact, stored, under⟩))
    · exact (mem_symbols decimals reads).mpr (.inr (.inr (.inl ⟨orderId, reports⟩)))
  obtain ⟨projection, returned⟩ := projected symbol member
  obtain ⟨_, gives, _⟩ := project_gives returned
  exact gives.readable orderId
    (reads.considered_iff.mpr ⟨listed, uncovered⟩)

theorem finite_of_readable {orderId : String}
    (readable : ∃ reasons, ledger.orderReasons decimals symbol orderId = .ok reasons)
    {order : OrderRecord} (stored : order ∈ database.orders.rows)
    (about : order.orderId = orderId) :
    ∃ quantity, order.filledQuantity = .finite quantity := by
  obtain ⟨reasons, returned⟩ := readable
  refine (evidenceReasons_spec returned).readable
    (.ofOrder (.ofRow order)) ?_
  unfold Ledger.evidence
  rw [reads.order?_some.mpr ⟨order, stored, about, rfl⟩]
  simp

theorem speaks_of_rowReports
    (projected : ∀ symbol ∈ ledger.symbols,
      ∃ projection, ledger.project decimals symbol = .ok projection) {orderId : String}
    (reports : database.RowReports symbol orderId)
    (bare : symbol ∉ database.storedBaselines.keys)
    (noFacts : ¬∃ fact ∈ database.storedFacts, fact.symbol = symbol) :
    database.Speaks decimals symbol (.identifiedFillsMissing orderId) := by
  have listed : database.Listed symbol orderId := .inr reports
  have uncovered : orderId ∉ database.coveredOrders symbol := by
    unfold OrdersDatabase.coveredOrders
    rw [Dict.get?_eq_none_iff.mpr bare]
    simp
  have readable := readable_of_listed reads projected listed uncovered
  obtain ⟨order, stored, about, _, positive⟩ := reports
  obtain ⟨quantity, same⟩ := finite_of_readable reads readable stored about
  refine ⟨listed, uncovered, quantity, .inr ⟨order, stored, about, same⟩, ?_⟩
  rw [identified_eq_zero]
  · exact (reportsFills_finite same).mp positive
  · exact fun fact member found => noFacts ⟨fact, member, found.2⟩

theorem Ledger.Reads.projected
    (returned : database.projections decimals context now = .ok before) :
    ∀ symbol ∈ ledger.symbols,
      ∃ projection, ledger.project decimals symbol = .ok projection := by
  unfold OrdersDatabase.projections at returned
  rw [readLedger_eq_ok.mpr reads] at returned
  intro symbol listed
  obtain ⟨result, _, same⟩ := Outcome.result_mem_mapM returned listed
  obtain ⟨projection, projected, _⟩ := Outcome.bind_eq_ok.mp same
  exact ⟨projection, projected⟩

end

section

variable {other : OrdersDatabase} (reads : ledger.Reads context now database)
variable (cleanedReads : cleaned.Reads context now other)
variable (facts : other.storedFacts = database.storedFacts)
variable (baselines : other.storedBaselines = database.storedBaselines)

include other reads cleanedReads facts baselines

omit baselines in
theorem symbolFacts_congr (symbol : String) :
    cleaned.symbolFacts symbol = ledger.symbolFacts symbol := by
  rw [cleanedReads.symbolFacts_eq, reads.symbolFacts_eq]
  unfold OrdersDatabase.symbolFills
  rw [facts]

theorem speaks_of_bookOf (results : ledger.Results decimals before)
    (cleanedResults : cleaned.Results decimals after)
    (projected : ∀ symbol ∈ ledger.symbols,
      ∃ projection, ledger.project decimals symbol = .ok projection)
    (same : bookOf after symbol = bookOf before symbol) {reason : ProjectionReason}
    (speaks : database.Speaks decimals symbol reason) :
    other.Speaks decimals symbol reason := by
  have listed := mem_symbols_of_speaks reads speaks
  obtain ⟨projection, returned⟩ := projected symbol listed
  have book := (bookOf_eq_some results).mpr ⟨listed, projection, returned, rfl⟩
  rw [← same] at book
  obtain ⟨_, cleanedProjection, cleanedReturned, equal⟩ :=
    (bookOf_eq_some cleanedResults).mp book
  obtain ⟨given, gives, form⟩ := project_gives returned
  obtain ⟨cleanedGiven, cleanedGives, cleanedForm⟩ :=
    project_gives cleanedReturned
  have fills := symbolFacts_congr reads cleanedReads facts symbol
  rw [form, cleanedForm, fills, cleanedReads.baselines_eq, baselines,
    ← reads.baselines_eq] at equal
  rw [← cleanedReads.given_iff cleanedGives]
  refine given_of_book equal.symm ?_ ((reads.given_iff gives reason).mpr speaks)
  constructor
  · rintro rfl
    exact speaks
  · rintro rfl
    exact speaks

theorem project_congr
    (same : ∀ reason, other.Speaks decimals symbol reason ↔
      database.Speaks decimals symbol reason) {projection cleanedProjection : PositionProjection}
    (returned : ledger.project decimals symbol = .ok projection)
    (cleanedReturned : cleaned.project decimals symbol = .ok cleanedProjection) :
    cleanedProjection = projection := by
  obtain ⟨given, gives, form⟩ := project_gives returned
  obtain ⟨cleanedGiven, cleanedGives, cleanedForm⟩ :=
    project_gives cleanedReturned
  have fills := symbolFacts_congr reads cleanedReads facts symbol
  rw [form, cleanedForm, fills, cleanedReads.baselines_eq, baselines,
    ← reads.baselines_eq]
  refine projectPositionIn_congr _ fun reason => ?_
  rw [cleanedReads.given_iff cleanedGives, reads.given_iff gives, same]

end

section Cleaned

variable (reads : ledger.Reads context now database)
variable (cleanedReads : cleaned.Reads context now (database.cleanup days moment))
variable (projected : ∀ symbol ∈ ledger.symbols,
  ∃ projection, ledger.project decimals symbol = .ok projection)

include reads cleanedReads projected

theorem projections_cleanup : ∃ after,
    (database.cleanup days moment).projections decimals context now = .ok after := by
  refine projections_returns cleanedReads fun symbol _ =>
    project_returns fun orderId considered => ?_
  obtain ⟨listed, uncovered⟩ := cleanedReads.considered_iff.mp considered
  exact orderReasons_cleanup reads cleanedReads
    (readable_of_listed reads projected (listed_of_cleanup listed) uncovered)

/-- Deleted rows that are spare take no symbol with them. -/
theorem mem_symbols_cleanup
    (speaks : ∀ reason,
      (database.cleanup days moment).Speaks decimals symbol reason ↔
        database.Speaks decimals symbol reason) :
    symbol ∈ cleaned.symbols ↔ symbol ∈ ledger.symbols := by
  constructor
  · intro listed
    rcases (mem_symbols decimals cleanedReads).mp listed with
      baseline | fact | ⟨orderId, row, stored, reports⟩ | ⟨orderId, pending⟩
    · exact (mem_symbols decimals reads).mpr (.inl baseline)
    · exact (mem_symbols decimals reads).mpr (.inr (.inl fact))
    · exact (mem_symbols decimals reads).mpr (.inr (.inr (.inl
        ⟨orderId, row, (mem_cleanup.mp stored).1, reports⟩)))
    · exact mem_symbols_of_speaks reads ((speaks _).mp pending)
  · intro listed
    by_cases baseline : symbol ∈ database.storedBaselines.keys
    · exact (mem_symbols decimals cleanedReads).mpr (.inl baseline)
    by_cases fact : ∃ fact ∈ database.storedFacts, fact.symbol = symbol
    · exact (mem_symbols decimals cleanedReads).mpr (.inr (.inl fact))
    rcases (mem_symbols decimals reads).mp listed with
      found | found | ⟨orderId, reports⟩ | ⟨orderId, pending⟩
    · exact absurd found baseline
    · exact absurd found fact
    · have missing := speaks_of_rowReports reads projected reports baseline fact
      exact mem_symbols_of_speaks cleanedReads ((speaks _).mpr missing)
    · exact mem_symbols_of_speaks cleanedReads ((speaks _).mpr pending)

end Cleaned

/-- The projection is the same after the cleanup. -/
def KeepsBooks (decimals : DecimalContext) (context : OrdersContext) (now : DateTime)
    (database : OrdersDatabase) (before : List (String × PositionProjection)) :
    Prop :=
  ∃ after, database.projections decimals context now = .ok after ∧
    ∀ symbol, bookOf after symbol = bookOf before symbol

/-- The books stay exactly when each deleted row is spare. -/
theorem keepsBooks_cleanup
    (rounds : ∀ value, 0 < value → 0 < decimals.round value)
    (returned : database.projections decimals context now = .ok before) :
    KeepsBooks decimals context now (database.cleanup days moment) before ↔
      ∀ order ∈ database.orders.rows, order.outdated days moment = true →
        database.Spare decimals order := by
  obtain ⟨ledger, reads, results⟩ := projections_eq_ok returned
  have projected := reads.projected returned
  constructor
  · rintro ⟨after, cleanedReturned, same⟩ deleted stored outdated
    obtain ⟨cleaned, cleanedReads, cleanedResults⟩ :=
      projections_eq_ok cleanedReturned
    refine spare_of_speaks rounds stored outdated
      (uncovered_of_reads cleanedReads stored outdated)
      (fun symbol member => reads.covered_of_mem member)
      fun symbol reason => ⟨?_, ?_⟩
    · exact speaks_of_bookOf cleanedReads reads rfl rfl cleanedResults results
        (cleanedReads.projected cleanedReturned) (same symbol).symm
    · exact speaks_of_bookOf reads cleanedReads rfl rfl results cleanedResults
        projected (same symbol)
  · intro spare
    obtain ⟨cleaned, cleanedReads⟩ := reads_cleanup reads
      fun order stored outdated => (spare order stored outdated).uncovered
    have speaks : ∀ symbol reason,
        (database.cleanup days moment).Speaks decimals symbol reason ↔
          database.Speaks decimals symbol reason := fun symbol reason =>
      speaks_cleanup (fun orderId listed uncovered order stored about =>
        finite_of_readable reads
          (readable_of_listed reads projected listed uncovered) stored about)
        spare
    obtain ⟨after, cleanedReturned⟩ :=
      projections_cleanup reads cleanedReads projected
    refine ⟨after, cleanedReturned, fun symbol => ?_⟩
    obtain ⟨other, otherReads, otherResults⟩ :=
      projections_eq_ok cleanedReturned
    have otherProjected := otherReads.projected cleanedReturned
    have symbols := mem_symbols_cleanup reads otherReads projected (speaks symbol)
    apply Option.ext
    intro book
    rw [bookOf_eq_some otherResults, bookOf_eq_some results, symbols]
    refine and_congr_right fun listed => ?_
    obtain ⟨projection, returned⟩ := projected symbol listed
    obtain ⟨otherProjection, otherReturned⟩ :=
      otherProjected symbol (symbols.mpr listed)
    have equal := project_congr reads otherReads rfl rfl (speaks symbol)
      returned otherReturned
    rw [returned, otherReturned, equal]

theorem cleanupOldOrders_store (store : OrdersStore) :
    (OrdersStore.cleanupOldOrders days moment store).2 =
      { store with
        connection :=
          store.connection.write (store.database.cleanup days moment) } :=
  rfl

theorem exists_entered_cleanup (days : ℤ) (moment : DateTime)
    {store entered : OrdersStore}
    (enters : OrdersStore.enterTransaction false store = (.ok (), entered)) :
    ∃ entered, OrdersStore.enterTransaction false
      (OrdersStore.cleanupOldOrders days moment store).2 = (.ok (), entered) := by
  rw [exists_entered_iff, cleanupOldOrders_store]
  refine (exists_entered_iff.mp ⟨entered, enters⟩).imp id ?_
  rintro ⟨closed, supported⟩
  refine ⟨?_, ?_⟩
  · simp [Connection.write, closed]
  · rw [OrdersStore.database, Connection.current_write]
    exact supported

/-- Housekeeping keeps the books exactly when each row it deletes is spare. -/
theorem cleanupOldOrders_keepsBooks_iff (context : OrdersContext) (days : ℤ)
    (moment now : DateTime) (store : OrdersStore)
    (before : List (String × PositionProjection))
    (projected : (OrdersStore.projections .defaultContext context now store).1 = .ok before) :
    (∃ after,
      (OrdersStore.projections .defaultContext context now
        (OrdersStore.cleanupOldOrders days moment store).2).1 = .ok after ∧
      ∀ symbol, bookOf after symbol = bookOf before symbol) ↔
    ∀ order ∈ store.database.orders.rows,
      order.outdated days moment = true → store.database.Spare .defaultContext order := by
  obtain ⟨entered, enters⟩ := entered_of_projections projected
  obtain ⟨cleaned, cleanedEnters⟩ :=
    exists_entered_cleanup days moment enters
  have database : (OrdersStore.cleanupOldOrders days moment store).2.database =
      store.database.cleanup days moment := by
    rw [cleanupOldOrders_store, OrdersStore.database, Connection.current_write]
  have rounds := fun value (positive : 0 < value) =>
    DecimalContext.defaultContext_accurate.round_pos positive
  rw [← keepsBooks_cleanup rounds (database_projections projected)]
  refine exists_congr fun after => and_congr_left fun _ => ?_
  rw [← database]
  exact ⟨database_projections, projections_of_entered cleanedEnters⟩

end Housekeeping

section Examples

def unidentifiedOrder : OrderRecord :=
  { plainOrder "X" "a" 5 with status := .filled }

def unidentifiedStore : OrdersStore :=
  WriterCall.run plainContext
    [.recordBaseline flatBaseline (.utc 20),
      .upsertByClientId unidentifiedOrder true]
    (.fresh .empty)

def fortyDays : DateTime :=
  .utc (40 * 86400 * 1000000)

def missingFillsProjection : PositionProjection :=
  { symbol := "BTC-USD"
    quantity := none
    entryPrice := none
    realizedPnl := none
    reasons := ["identified_fills_missing:X"]
    fillCount := 0
    fees := []
    feeCoverage := "unknown" }

/-- Deleting the row turns missing fills into a complete, flat position. -/
theorem unidentified_order_not_keepsBooks :
    (OrdersStore.projections .defaultContext plainContext fortyDays unidentifiedStore).1 =
        .ok [("BTC-USD", missingFillsProjection)] ∧
      ¬∃ after,
        (OrdersStore.projections .defaultContext plainContext fortyDays
          (OrdersStore.cleanupOldOrders 30 fortyDays unidentifiedStore).2).1 =
            .ok after ∧
        ∀ symbol, bookOf after symbol =
          bookOf [("BTC-USD", missingFillsProjection)] symbol := by
  refine ⟨by decide +kernel, ?_⟩
  rintro ⟨after, returned, same⟩
  have cleaned : (OrdersStore.projections .defaultContext plainContext fortyDays
      (OrdersStore.cleanupOldOrders 30 fortyDays unidentifiedStore).2).1 =
        .ok [("BTC-USD", flatProjection)] := by decide +kernel
  rw [cleaned] at returned
  cases returned
  have book := same "BTC-USD"
  revert book
  decide +kernel

def identifiedStore : OrdersStore :=
  WriterCall.run plainContext
    [.recordBaseline flatBaseline (.utc 20),
      .upsertByClientId { plainOrder "X" "a" 0 with quantity := .finite 1 } true,
      .recordFill futureFill (.utc 20)]
    (.fresh .empty)

/-- An old order whose fill is identified may go. -/
theorem identified_order_keepsBooks_iff :
    (∃ after,
      (OrdersStore.projections .defaultContext plainContext fortyDays
        (OrdersStore.cleanupOldOrders 30 fortyDays identifiedStore).2).1 =
          .ok after ∧
      ∀ symbol, bookOf after symbol =
        bookOf [("BTC-USD", boughtProjection)] symbol) ↔
    ∀ order ∈ identifiedStore.database.orders.rows,
      order.outdated 30 fortyDays = true →
        identifiedStore.database.Spare .defaultContext order :=
  cleanupOldOrders_keepsBooks_iff plainContext 30 fortyDays fortyDays
    identifiedStore [("BTC-USD", boughtProjection)] (by decide +kernel)

end Examples

end GptTrader
