import Mathlib.Algebra.Order.BigOperators.Group.List
import GptTrader.Persistence.StoreAttempts
import GptTrader.Persistence.StoredRows

/-!
# Recording the fills of an order

What `record_fill` reads and writes when the fills of an order agree with each
other: a fill that was recorded changes nothing, a new one is stored and asks
for the sum of the recorded ones.
-/

namespace GptTrader

/-- Documented behaviour of the conversions and digests: only one status is
spelled `FILLED` in capitals, and no digest is empty. -/
structure OrdersContext.Regular (context : OrdersContext) : Prop where
  filled : ∀ status : OrderStatus,
    context.formats.upper status.value = "FILLED" ↔ status = .filled
  digest : ∀ payload, context.digest payload ≠ ""

section Admission

variable {filled asked : ℚ} {record : OrderRecord}

theorem fillPriceAgrees_of_pos {price : ℚ} (positive : 0 < price) :
    OrderIntent.fillPriceAgrees (some (.finite price)) = .ok () := by
  simp [OrderIntent.fillPriceAgrees, not_le.mpr positive]

theorem fillAgrees_of_within {intent : OrderIntent} {isFilled : Bool}
    {filled : ℚ} (nonneg : 0 ≤ filled) (within : filled ≤ intent.quantity)
    (complete : isFilled = true → filled = intent.quantity) :
    intent.fillAgrees isFilled (some (.finite filled)) = .ok () := by
  unfold OrderIntent.fillAgrees
  dsimp only
  rw [if_neg]
  rintro (negative | above | ⟨isFilled, differs⟩)
  · exact absurd nonneg (not_le.mpr negative)
  · exact absurd within (not_le.mpr above)
  · exact differs (complete isFilled)

theorem fillAdvances_finite {existing : OrderRecord}
    (stored : existing.filledQuantity = .finite filled)
    (reported : record.filledQuantity = .finite asked) (nonneg : 0 ≤ asked) :
    fillAdvances existing record =
      if asked < filled then
        .error (.write "Order update decreases observed fill quantity")
      else .ok () := by
  have negative : ¬asked < 0 := not_lt.mpr nonneg
  unfold fillAdvances
  rw [reported, stored]
  simp [Decimal.isFinite, Except.mapError, negative, bind, Except.bind]

end Admission

/-- The row that a fill is stored in. -/
def FillFactRow.ofFact (fact : FillFact) : FillFactRow :=
  { orderId := fact.orderId
    fillId := fact.fillId
    content := .ok fact }

section Tracking

variable {database : OrdersDatabase} {recorded : List FillFact}

theorem facts_of_recorded {venueId : String} {now : ℤ}
    (facts : (database.fillFacts.filter fun row =>
      decide (row.orderId = venueId)) = recorded.map .ofFact)
    (past : ∀ fact ∈ recorded, fact.executedAt ≤ now) :
    database.facts (.utc now) venueId = .ok recorded := by
  unfold OrdersDatabase.facts
  rw [facts, Outcome.mapM_eq_ok, List.forall₂_map_left_iff,
    List.forall₂_same]
  intro fact member
  have executed := past fact member
  have observed : ¬(DateTime.utc now).instant < fact.executedAt := by
    simp only [DateTime.utc, DateTime.instant, Option.getD_some, sub_zero]
    omega
  unfold OrdersDatabase.readFact FillFactRow.ofFact
  change ((OrdersDatabase.requireObservedTime (.utc now) fact.executedAt) >>=
    fun _ => if fact.orderId = fact.orderId ∧ fact.fillId = fact.fillId then
      Except.ok fact else _) = _
  unfold OrdersDatabase.requireObservedTime
  rw [if_neg observed]
  simp [bind, Except.bind]

end Tracking

/-- The recorded fills of an order after one more of them. -/
def recordOnce (recorded : List FillFact) (fact : FillFact) : List FillFact :=
  if fact ∈ recorded then recorded else recorded ++ [fact]

section Recording

variable {context : OrdersContext} {database : OrdersDatabase}
variable {recorded : List FillFact} {fact : FillFact}

theorem mem_recordOnce {other : FillFact} :
    other ∈ recordOnce recorded fact ↔ other ∈ recorded ∨ other = fact := by
  unfold recordOnce
  split
  · next known =>
      exact ⟨.inl, fun member => member.elim id fun same => same ▸ known⟩
  · simp

theorem nodup_recordOnce (once : recorded.Nodup) :
    (recordOnce recorded fact).Nodup := by
  unfold recordOnce
  split
  · exact once
  · next unknown =>
      rw [List.nodup_append]
      refine ⟨once, List.nodup_singleton fact, ?_⟩
      rintro other member _ last rfl
      exact unknown (List.mem_singleton.mp last ▸ member)

theorem totalQuantity_append (recorded : List FillFact) (fact : FillFact) :
    OrdersStore.totalQuantity (recorded ++ [fact]) =
      OrdersStore.totalQuantity recorded + fact.quantity := by
  simp [OrdersStore.totalQuantity]

theorem totalQuantity_nonneg (recorded : List FillFact) :
    0 ≤ OrdersStore.totalQuantity recorded := by
  refine List.sum_nonneg fun quantity member => ?_
  obtain ⟨fact, _, rfl⟩ := List.mem_map.mp member
  exact fact.positive.1.le

theorem totalQuantity_le_of_subset {facts others : List FillFact}
    (once : facts.Nodup) (subset : ∀ fact ∈ facts, fact ∈ others) :
    OrdersStore.totalQuantity facts ≤ OrdersStore.totalQuantity others := by
  obtain ⟨permuted, same, sublist⟩ := List.subperm_of_subset once subset
  have equal : OrdersStore.totalQuantity facts =
      OrdersStore.totalQuantity permuted :=
    ((same.map FillFact.quantity).sum_eq).symm
  rw [equal]
  refine (sublist.map FillFact.quantity).sum_le_sum fun quantity member => ?_
  obtain ⟨fact, _, rfl⟩ := List.mem_map.mp member
  exact fact.positive.1.le

theorem totalNotional_pos (recorded : List FillFact) (fact : FillFact) :
    0 < OrdersStore.totalNotional (recorded ++ [fact]) := by
  have earlier : 0 ≤ OrdersStore.totalNotional recorded := by
    refine List.sum_nonneg fun notional member => ?_
    obtain ⟨fact, _, rfl⟩ := List.mem_map.mp member
    exact (mul_pos fact.positive.1 fact.positive.2).le
  have split : OrdersStore.totalNotional (recorded ++ [fact]) =
      OrdersStore.totalNotional recorded + fact.quantity * fact.price := by
    simp [OrdersStore.totalNotional]
  rw [split]
  exact add_pos_of_nonneg_of_pos earlier
    (mul_pos fact.positive.1 fact.positive.2)

theorem insertFact_of_recorded {venueId : String}
    (facts : (database.fillFacts.filter fun row =>
      decide (row.orderId = venueId)) = recorded.map .ofFact)
    (venue : fact.orderId = venueId)
    (fresh : ∀ other ∈ recorded, other.fillId ≠ fact.fillId) :
    database.insertFact fact = .ok
        { database with
          fillFacts := database.fillFacts ++ [.ofFact fact] } ∧
      ((database.fillFacts ++ [FillFactRow.ofFact fact]).filter fun row =>
        decide (row.orderId = venueId)) =
          (recorded ++ [fact]).map .ofFact := by
  refine ⟨insertFact_eq_ok.mpr ⟨?_, rfl⟩, ?_⟩
  · rintro row stored ⟨same, id⟩
    have member : row ∈ recorded.map FillFactRow.ofFact := by
      rw [← facts, List.mem_filter]
      exact ⟨stored, by simpa using same.trans venue⟩
    obtain ⟨other, found, rfl⟩ := List.mem_map.mp member
    exact fresh other found id
  · rw [List.filter_append, facts, List.map_append]
    simp [venue, FillFactRow.ofFact]

/-- A fill that agrees with its order and with the recorded ones of it is stored
unless it was recorded, and then advances the order. -/
theorem fillAttempt_eq {existing : Option OrderRecord} {moment : DateTime}
    (located : database.fillOrder context fact = .ok existing)
    (matching : ∀ record ∈ existing,
      OrdersDatabase.fillMatches context fact record = .ok ())
    (read : database.facts moment fact.orderId = .ok recorded)
    (alike : ∀ other ∈ recorded, other.orderId = fact.orderId ∧
      other.symbol = fact.symbol ∧ other.side = fact.side)
    (unique : ∀ other ∈ recorded, other.fillId = fact.fillId → other = fact)
    (uncovered : database.baselineAllows fact = .ok ())
    (within : fact ∉ recorded → ∀ record ∈ existing,
      OrdersDatabase.fillsWithinIntent record
        (OrdersStore.totalQuantity (recorded ++ [fact])) = .ok ()) :
    fillAttempt context fact moment database =
      if fact ∈ recorded then .done false database
      else .afterWrite (database.insertFact fact)
        (advanceResult context existing fact
          (OrdersStore.totalQuantity (recorded ++ [fact]))
          (OrdersStore.totalNotional (recorded ++ [fact])) moment) := by
  have matched : existing.toList.forM
      (OrdersDatabase.fillMatches context fact) = .ok () := by
    rw [Outcome.forM_eq_ok]
    intro record member
    exact matching record (Option.mem_toList.mp member)
  have attempted : fillAttempt context fact moment database =
      knownFillAttempt context fact moment existing recorded database := by
    unfold fillAttempt
    rw [located]
    change Attempt.afterRead (existing.toList.forM
      (OrdersDatabase.fillMatches context fact)) _ = _
    rw [matched]
    change Attempt.afterRead (database.facts moment fact.orderId) _ = _
    rw [read]
    rfl
  rw [attempted]
  unfold knownFillAttempt
  by_cases known : fact ∈ recorded
  · obtain ⟨other, found⟩ : ∃ other, recorded.find? (fun item =>
        decide (item.orderId = fact.orderId ∧ item.fillId = fact.fillId)) =
          some other := by
      apply Option.isSome_iff_exists.mp
      rw [List.find?_isSome]
      exact ⟨fact, known, by simp⟩
    have identity := List.find?_some found
    simp only [decide_eq_true_eq] at identity
    have same := unique other (List.mem_of_find?_eq_some found) identity.2
    rw [found, if_pos known]
    dsimp only
    rw [if_pos same]
  · have missing : recorded.find? (fun item =>
        decide (item.orderId = fact.orderId ∧ item.fillId = fact.fillId)) =
          none := by
      rw [List.find?_eq_none]
      intro other member same
      have id := (of_decide_eq_true same).2
      exact known (unique other member id ▸ member)
    have sameOrder : (recorded.filter fun item =>
        decide (item.orderId = fact.orderId)) = recorded := by
      rw [List.filter_eq_self]
      intro other member
      exact decide_eq_true (alike other member).1
    have intended : existing.toList.forM (fun record =>
        OrdersDatabase.fillsWithinIntent record
          (OrdersStore.totalQuantity (recorded ++ [fact]))) = .ok () := by
      rw [Outcome.forM_eq_ok]
      intro record member
      exact within known record (Option.mem_toList.mp member)
    rw [missing, if_neg known]
    dsimp only
    rw [uncovered]
    change newFillAttempt context fact moment existing
      (recorded.filter fun item => decide (item.orderId = fact.orderId))
      database = _
    rw [sameOrder]
    unfold newFillAttempt
    rw [if_pos fun other member => (alike other member).2, intended]
    rfl

theorem fillsWithinIntent_of_le {record : OrderRecord} {quantity asked : ℚ}
    (sized : record.quantity = .finite quantity) (within : asked ≤ quantity) :
    OrdersDatabase.fillsWithinIntent record asked = .ok () := by
  unfold OrdersDatabase.fillsWithinIntent
  rw [sized]
  split
  · simp [Except.mapError, bind, Except.bind, not_lt.mpr within]
  · rfl

theorem totalQuantity_pos (recorded : List FillFact) (fact : FillFact) :
    0 < OrdersStore.totalQuantity (recorded ++ [fact]) := by
  rw [totalQuantity_append]
  exact add_pos_of_nonneg_of_pos (totalQuantity_nonneg recorded)
    fact.positive.1

end Recording

end GptTrader
