import GptTrader.Backtesting.OrderOutcomes

/-!
# Quantities of simulated orders

An order is open until it is processed, and its fill ends it: `_process_fill` takes the
order out of the open ones and records what was filled.  What a fill leaves of an order
is kept nowhere, so no quantity is lost only where every fill is of the whole order.
-/

namespace GptTrader

open SimulatedBroker (signedQuantity openedSide)

/-! ## What becomes of an accepted order -/

def filledOf (fills : List ProcessedFill) (id : String) : ℚ :=
  ((fills.filter fun processed => decide (processed.order.id = id)).map
    ProcessedFill.quantity).sum

def recordedNet (history : List SimulatedOrder) (symbol : String) : ℚ :=
  ((history.filter fun order => decide (order.symbol = symbol)).map fun order =>
    signedQuantity (openedSide order.side) order.filledQuantity).sum

def SimulatedOrder.Final (order : SimulatedOrder) : Prop :=
  order.status = .filled ∧ order.filledQuantity = order.quantity ∨
    order.status = .cancelled ∨ order.status = .rejected

namespace SimulatedBroker

def OpenFor (broker : SimulatedBroker) (filled : ℚ) (id : String) (quantity : ℚ) :
    Prop :=
  ∃ order, broker.orders.openOrders.get? id = some order ∧
    order.filledQuantity = filled ∧
    order.quantity - order.filledQuantity = quantity - filled ∧
    ∀ closed ∈ broker.orders.orderHistory, closed.id ≠ id

def ClosedFor (broker : SimulatedBroker) (filled : ℚ) (id : String)
    (quantity : ℚ) : Prop :=
  broker.orders.openOrders.get? id = none ∧
    ∃ order, (broker.orders.orderHistory.filter fun closed =>
        decide (closed.id = id)) = [order] ∧
      order.quantity = quantity ∧ order.filledQuantity = filled ∧ order.Final

/-- No quantity is lost: every accepted order is open for what is left of it or
closed, and the positions are what the recorded fills add up to. -/
structure QuantitiesKept (accepted : List (String × ℚ))
    (fills : List ProcessedFill) (broker : SimulatedBroker) : Prop where
  orders : ∀ order ∈ accepted,
    broker.OpenFor (filledOf fills order.1) order.1 order.2 ∨
      broker.ClosedFor (filledOf fills order.1) order.1 order.2
  positions : ∀ symbol, Holding.net (broker.holding symbol) =
    recordedNet broker.orders.orderHistory symbol

def accepted (broker : SimulatedBroker) : BrokerCall → List (String × ℚ)
  | .place args chaos =>
      match (broker.placeOrder args chaos).1 with
      | .ok order => [(order.id, order.quantity)]
      | .error _ => []
  | .cancel _ => []
  | .bar _ _ _ => []

def runAccepted : SimulatedBroker → List BrokerCall → List (String × ℚ)
  | _, [] => []
  | broker, call :: calls =>
      broker.accepted call ++ (broker.perform call).runAccepted calls

/-! ## Calls that lose no quantity -/

end SimulatedBroker

/-- The fill is of the whole order, the position it meets has the sign of its side, and
their prices can be averaged. -/
structure ProcessedFill.Whole (processed : ProcessedFill) : Prop where
  whole : processed.quantity = processed.order.quantity
  signed : ∀ old ∈ processed.heldBefore, old.Signed
  averages : processed.broker.Averages processed.order processed.fill

def ChaosOutcome.Proper (order : SimulatedOrder) (chaos : ChaosOutcome) : Prop :=
  ∀ percent, chaos = .partialFill percent → 0 ≤ order.quantity * (percent / 100)

namespace SimulatedBroker

def NewId (broker : SimulatedBroker) (id : String) : Prop :=
  broker.orders.openOrders.get? id = none ∧
    ∀ closed ∈ broker.orders.orderHistory, closed.id ≠ id

/-- The call places an order under a new identifier, and one to be executed at once
only with a bar or a quote, if it is not refused for its margin.  No pending order is
filled for a negative part. -/
def KeepsQuantities (broker : SimulatedBroker) : BrokerCall → Prop
  | .place args chaos =>
      broker.NewId args.id ∧
        (args.type = .market ∧ chaos ≠ .rejected ∨
            args.type = .limit ∧ args.tif = .ioc →
          ∀ quantity ∈ args.quantity, args.reduceOnly = true ∨
            broker.validateMargin (broker.newOrder args quantity) args.leverage =
              .ok () →
          broker.marketView args.symbol ≠ none)
  | .cancel _ => True
  | .bar symbol bar chaos =>
      ∀ entry ∈ (broker.markBar symbol bar).ordersToProcess symbol,
        (chaos entry.1).Proper entry.2

def RunKeepsQuantities : SimulatedBroker → List BrokerCall → Prop
  | _, [] => True
  | broker, call :: calls =>
      broker.KeepsQuantities call ∧
        (∀ processed ∈ broker.fillsOf call, processed.Whole) ∧
        (broker.perform call).RunKeepsQuantities calls

/-! ## The invariant -/

/-- What is known between calls: open orders are unfilled and not closed, and what was
filled is closed. -/
structure Booked (accepted : List (String × ℚ)) (fills : List ProcessedFill)
    (broker : SimulatedBroker) : Prop extends
    QuantitiesKept accepted fills broker where
  opened : ∀ id order, broker.orders.openOrders.get? id = some order →
    order.id = id ∧ order.filledQuantity = 0 ∧
      ∀ closed ∈ broker.orders.orderHistory, closed.id ≠ id
  closed : ∀ processed ∈ fills,
    ∃ closed ∈ broker.orders.orderHistory, closed.id = processed.order.id

theorem filledOf_append (fills later : List ProcessedFill) (id : String) :
    filledOf (fills ++ later) id = filledOf fills id + filledOf later id := by
  unfold filledOf
  rw [List.filter_append, List.map_append, List.sum_append]

theorem filledOf_eq_zero {fills : List ProcessedFill} {id : String}
    (other : ∀ processed ∈ fills, processed.order.id ≠ id) :
    filledOf fills id = 0 := by
  have none : fills.filter (fun processed =>
      decide (processed.order.id = id)) = [] := by
    rw [List.filter_eq_nil_iff]
    intro processed member same
    exact other processed member (of_decide_eq_true same)
  unfold filledOf
  rw [none]
  rfl

theorem recordedNet_append (history : List SimulatedOrder) (order : SimulatedOrder)
    (symbol : String) :
    recordedNet (history ++ [order]) symbol = recordedNet history symbol +
      if order.symbol = symbol then
        signedQuantity (openedSide order.side) order.filledQuantity
      else 0 := by
  unfold recordedNet
  rw [List.filter_append, List.map_append, List.sum_append]
  congr 1
  by_cases own : order.symbol = symbol
  · rw [List.filter_cons_of_pos (by simpa using own), if_pos own]
    exact List.sum_singleton
  · rw [List.filter_cons_of_neg (by simpa using own), if_neg own]
    rfl

section Moves

variable {accepted : List (String × ℚ)} {fills : List ProcessedFill}
  {broker after : SimulatedBroker}

theorem Booked.unfilled (booked : Booked accepted fills broker) {id : String}
    (open_ : ∀ closed ∈ broker.orders.orderHistory, closed.id ≠ id) :
    filledOf fills id = 0 := by
  apply filledOf_eq_zero
  intro processed member same
  obtain ⟨closed, recorded, own⟩ := booked.closed processed member
  exact open_ closed recorded (own.trans same)

/-- The positions and the closed orders are as they were, and so are the open orders
but one. -/
structure SameBut (broker after : SimulatedBroker) (id : String) : Prop where
  held : ∀ symbol, after.holding symbol = broker.holding symbol
  history : after.orders.orderHistory = broker.orders.orderHistory
  others : ∀ other ≠ id, after.orders.openOrders.get? other =
    broker.orders.openOrders.get? other

/-- An order is opened, or changed while it is open and stays unfilled. -/
theorem Booked.set_open (booked : Booked accepted fills broker)
    {id : String} (same : SameBut broker after id) {order : SimulatedOrder}
    (listed : after.orders.openOrders.get? id = some order) (own : order.id = id)
    (unfilled : order.filledQuantity = 0)
    (unclosed : ∀ closed ∈ broker.orders.orderHistory, closed.id ≠ id)
    {more : List (String × ℚ)}
    (quantities : ∀ entry ∈ accepted ++ more, entry.1 = id →
      entry.2 = order.quantity)
    (added : ∀ entry ∈ more, entry.1 = id) :
    Booked (accepted ++ more) fills after := by
  refine ⟨⟨?_, ?_⟩, ?_, ?_⟩
  · intro entry member
    by_cases mine : entry.1 = id
    · left
      refine ⟨order, ?_, ?_, ?_, ?_⟩
      · rw [mine]
        exact listed
      · rw [unfilled, mine, booked.unfilled unclosed]
      · rw [unfilled, mine, booked.unfilled unclosed,
          quantities entry member mine]
      · rw [same.history, mine]
        exact unclosed
    · have earlier : entry ∈ accepted := by
        rcases List.mem_append.mp member with before | new
        · exact before
        · exact absurd (added entry new) mine
      rcases booked.orders entry earlier with
        ⟨known, found, filled, left, apart⟩ | ⟨gone, known, once, rest⟩
      · refine .inl ⟨known, (same.others _ mine).trans found, filled, left, ?_⟩
        rw [same.history]
        exact apart
      · refine .inr ⟨(same.others _ mine).trans gone, known, ?_, rest⟩
        rw [same.history]
        exact once
  · intro symbol
    rw [same.held, same.history]
    exact booked.positions symbol
  · intro other known found
    rw [same.history]
    by_cases mine : other = id
    · rw [mine, listed] at found
      obtain rfl := Option.some.inj found
      rw [mine]
      exact ⟨own, unfilled, unclosed⟩
    · exact booked.opened other known ((same.others other mine).symm.trans found)
  · rw [same.history]
    exact booked.closed

section

variable (after) (booked : Booked accepted fills broker) (order : SimulatedOrder)
variable (unclosed : ∀ closed ∈ broker.orders.orderHistory, closed.id ≠ order.id)
variable (gone : after.orders.openOrders.get? order.id = none)
variable (others : ∀ other ≠ order.id, after.orders.openOrders.get? other = broker.orders.openOrders.get? other)
variable (history : after.orders.orderHistory = broker.orders.orderHistory ++ [order])

include booked order unclosed gone others history

/-- An order that was not closed is closed with what its fills took. -/
theorem Booked.close (final : order.Final) {later : List ProcessedFill}
    (own : ∀ processed ∈ later, processed.order.id = order.id)
    (taken : filledOf later order.id = order.filledQuantity)
    (moved : ∀ symbol, Holding.net (after.holding symbol) =
      Holding.net (broker.holding symbol) +
        if order.symbol = symbol then
          signedQuantity (openedSide order.side) order.filledQuantity
        else 0) {more : List (String × ℚ)}
    (quantities : ∀ entry ∈ accepted ++ more, entry.1 = order.id →
      entry.2 = order.quantity) (added : ∀ entry ∈ more, entry.1 = order.id) :
    Booked (accepted ++ more) (fills ++ later) after := by
  have filled_other : ∀ id ≠ order.id,
      filledOf (fills ++ later) id = filledOf fills id := by
    intro id different
    have unmoved : filledOf later id = 0 := by
      apply filledOf_eq_zero
      intro processed member same
      exact different (same.symm.trans (own processed member))
    rw [filledOf_append, unmoved, add_zero]
  have once_more : ∀ id ≠ order.id,
      after.orders.orderHistory.filter (fun closed => decide (closed.id = id)) =
        broker.orders.orderHistory.filter fun closed => decide (closed.id = id) := by
    intro id different
    rw [history, List.filter_append, List.filter_cons_of_neg, List.filter_nil,
      List.append_nil]
    exact fun same => different (of_decide_eq_true same).symm
  refine ⟨⟨?_, ?_⟩, ?_, ?_⟩
  · intro entry member
    by_cases mine : entry.1 = order.id
    · right
      rw [mine]
      refine ⟨gone, order, ?_, (quantities entry member mine).symm, ?_, final⟩
      · have before : broker.orders.orderHistory.filter
            (fun closed => decide (closed.id = order.id)) = [] := by
          rw [List.filter_eq_nil_iff]
          intro closed recorded same
          exact unclosed closed recorded (of_decide_eq_true same)
        rw [history, List.filter_append, before, List.nil_append]
        simp
      · rw [filledOf_append, booked.unfilled unclosed, zero_add, taken]
    · have earlier : entry ∈ accepted := by
        rcases List.mem_append.mp member with before | new
        · exact before
        · exact absurd (added entry new) mine
      rw [filled_other _ mine]
      rcases booked.orders entry earlier with
        ⟨known, found, filled, left, apart⟩ | ⟨absent, known, once, rest⟩
      · refine .inl ⟨known, (others _ mine).trans found, filled, left, ?_⟩
        rw [history]
        intro closed recorded
        rcases List.mem_append.mp recorded with before | last
        · exact apart closed before
        · rw [List.mem_singleton.mp last]
          exact Ne.symm mine
      · refine .inr ⟨(others _ mine).trans absent, known, ?_, rest⟩
        rw [once_more _ mine]
        exact once
  · intro symbol
    rw [moved, history, recordedNet_append, booked.positions symbol]
  · intro id known found
    have different : id ≠ order.id := by
      rintro rfl
      rw [gone] at found
      cases found
    rw [others id different] at found
    obtain ⟨named, unfilled, apart⟩ := booked.opened id known found
    refine ⟨named, unfilled, ?_⟩
    rw [history]
    intro closed recorded
    rcases List.mem_append.mp recorded with before | last
    · exact apart closed before
    · rw [List.mem_singleton.mp last]
      exact different.symm
  · intro processed member
    rw [history]
    rcases List.mem_append.mp member with before | new
    · obtain ⟨closed, recorded, same⟩ := booked.closed processed before
      exact ⟨closed, List.mem_append_left _ recorded, same⟩
    · exact ⟨order, by simp, (own processed new).symm⟩

theorem Booked.close_unfilled
    (status : order.status = .cancelled ∨ order.status = .rejected)
    (unfilled : order.filledQuantity = 0)
    (held : ∀ symbol, after.holding symbol = broker.holding symbol)
    {more : List (String × ℚ)}
    (quantities : ∀ entry ∈ accepted ++ more, entry.1 = order.id →
      entry.2 = order.quantity) (added : ∀ entry ∈ more, entry.1 = order.id) :
    Booked (accepted ++ more) fills after := by
  have nothing : signedQuantity (openedSide order.side) order.filledQuantity =
      0 := by
    rw [unfilled]
    cases openedSide order.side with
    | long => rfl
    | short => exact neg_zero
  have taken : filledOf [] order.id = order.filledQuantity := unfilled.symm
  have kept := booked.close after order unclosed gone others history (.inr status)
    (fun processed member => by cases member) taken
    (fun symbol => by rw [nothing, ite_self, add_zero, held]) quantities added
  rwa [List.append_nil] at kept

end

theorem Booked.same (booked : Booked accepted fills broker)
    (held : ∀ symbol, after.holding symbol = broker.holding symbol)
    (orders : after.orders = broker.orders) : Booked accepted fills after := by
  refine ⟨⟨?_, ?_⟩, ?_, ?_⟩
  · intro entry member
    unfold OpenFor ClosedFor
    rw [orders]
    exact booked.orders entry member
  · intro symbol
    rw [held, orders]
    exact booked.positions symbol
  · rw [orders]
    exact booked.opened
  · rw [orders]
    exact booked.closed

theorem Booked.not_accepted (booked : Booked accepted fills broker) {id : String}
    (fresh : broker.NewId id) : ∀ entry ∈ accepted, entry.1 ≠ id := by
  rintro entry member rfl
  rcases booked.orders entry member with ⟨known, found, -⟩ | ⟨-, known, once, -⟩
  · rw [fresh.1] at found
    cases found
  · have recorded : known ∈ broker.orders.orderHistory.filter
        (fun closed => decide (closed.id = entry.1)) := by
      rw [once]
      exact List.mem_singleton_self known
    obtain ⟨recorded, same⟩ := List.mem_filter.mp recorded
    exact fresh.2 known recorded (of_decide_eq_true same)

theorem Booked.quantity_eq (booked : Booked accepted fills broker) {id : String}
    {order : SimulatedOrder}
    (listed : broker.orders.openOrders.get? id = some order)
    {entry : String × ℚ} (member : entry ∈ accepted) (own : entry.1 = id) :
    entry.2 = order.quantity := by
  subst own
  rcases booked.orders entry member with ⟨known, found, filled, left, -⟩ | ⟨gone, -⟩
  · obtain rfl := Option.some.inj (listed.symm.trans found)
    rw [filled] at left
    linarith
  · rw [gone] at listed
    cases listed

theorem FillProcessed.moved {order : SimulatedOrder} {fill : FillResult} {price : ℚ}
    {leverage : Option ℤ}
    {result : Except SimulationError SimulatedOrder × SimulatedBroker}
    (done : FillProcessed broker order fill price result)
    (whole : ProcessedFill.Whole ⟨broker, order, fill, leverage⟩) (symbol : String) :
    Holding.net (result.2.holding symbol) = Holding.net (broker.holding symbol) +
      if order.symbol = symbol then
        signedQuantity (openedSide order.side) (filledQuantityOf order fill)
      else 0 := by
  split
  · next own =>
      rw [← own, done.held]
      exact Holding.net_after whole.signed whole.averages
  · next other => rw [done.others symbol (Ne.symm other), add_zero]

/-- A whole fill of an order that is not open closes it. -/
theorem Booked.fill (booked : Booked accepted fills broker)
    {order : SimulatedOrder} {fill : FillResult} {price : ℚ} {leverage : Option ℤ}
    (filled : fill.filled = true) (priced : fill.fillPrice = some price)
    (whole : ProcessedFill.Whole ⟨broker, order, fill, leverage⟩)
    (unclosed : ∀ closed ∈ broker.orders.orderHistory, closed.id ≠ order.id)
    (gone : broker.orders.openOrders.get? order.id = none)
    {more : List (String × ℚ)}
    (quantities : ∀ entry ∈ accepted ++ more, entry.1 = order.id →
      entry.2 = order.quantity)
    (added : ∀ entry ∈ more, entry.1 = order.id) :
    Booked (accepted ++ more) (fills ++ [⟨broker, order, fill, leverage⟩])
        (broker.processFill order fill leverage).2 ∧
      (broker.processFill order fill leverage).1 =
        .ok (bookedOrder order fill price) := by
  have done := processFill_processed broker order leverage filled priced
  rcases done.orders with ⟨-, returned, orders⟩ | ⟨refused, -⟩
  · refine ⟨?_, returned⟩
    have amount : filledQuantityOf order fill = order.quantity := whole.whole
    have single : filledOf [⟨broker, order, fill, leverage⟩] order.id =
        filledQuantityOf order fill := by
      simp [filledOf, ProcessedFill.quantity]
    apply booked.close _ (bookedOrder order fill price) unclosed
    · rw [orders]
      exact gone
    · intro other _
      rw [orders]
      rfl
    · rw [orders]
      rfl
    · refine .inl ⟨?_, amount⟩
      unfold bookedOrder
      dsimp only
      rw [amount, if_neg (lt_irrefl _)]
    · intro processed member
      rw [List.mem_singleton.mp member]
      rfl
    · exact single
    · exact done.moved whole
    · exact quantities
    · exact added
  · exact absurd whole.averages refused

end Moves

section Calls

variable {accepted : List (String × ℚ)} {fills : List ProcessedFill}
  {broker : SimulatedBroker}

/-- Placing an order books what it accepts and fills. -/
theorem Booked.place (booked : Booked accepted fills broker)
    (args : SimulatedOrderArgs) (chaos : ChaosOutcome)
    (keeps : broker.KeepsQuantities (.place args chaos))
    (whole : ∀ processed ∈ broker.placedFills args chaos, processed.Whole) :
    Booked (accepted ++ broker.accepted (.place args chaos))
      (fills ++ broker.placedFills args chaos) (broker.placeOrder args chaos).2 := by
  obtain ⟨fresh, seen⟩ := keeps
  have placed := placeOrder_placed broker args chaos
  have absent := booked.not_accepted fresh
  unfold SimulatedBroker.accepted
  dsimp only
  generalize broker.placeOrder args chaos = result at placed ⊢
  generalize broker.placedFills args chaos = later at placed whole ⊢
  -- Only the new order has the new identifier.
  have quantities : ∀ order : SimulatedOrder, order.id = args.id →
      ∀ entry ∈ accepted ++ [(order.id, order.quantity)], entry.1 = order.id →
        entry.2 = order.quantity := by
    intro order named entry member own
    rcases List.mem_append.mp member with before | new
    · exact absurd (own.trans named) (absent entry before)
    · rw [List.mem_singleton.mp new]
  have added : ∀ {order : SimulatedOrder},
      ∀ entry ∈ [(order.id, order.quantity)], entry.1 = order.id := by
    intro order entry member
    rw [List.mem_singleton.mp member]
  cases placed with
  | refused error =>
      rw [List.append_nil, List.append_nil]
      exact booked
  | @rejected quantity order given terms status unfilled =>
      have named : order.id = args.id := terms.id
      rw [List.append_nil]
      exact booked.close_unfilled (broker.rejectInto order broker.simulationTime).2
        (broker.rejectInto order broker.simulationTime).1
        (named ▸ fresh.2) (named ▸ fresh.1) (fun _ _ => rfl) rfl (.inr status)
        unfilled (fun _ => rfl) (quantities _ named) added
  | unpriced order given terms atOnce admitted unseen =>
      exact absurd unseen (seen atOnce _ given admitted)
  | @cancelled quantity given =>
      rw [List.append_nil]
      exact booked.close_unfilled (broker.cancelInto (broker.newOrder args quantity)).2
        (broker.cancelInto (broker.newOrder args quantity)).1
        fresh.2 fresh.1 (fun _ _ => rfl) rfl (.inl rfl) rfl (fun _ => rfl)
        (quantities (broker.newOrder args quantity) rfl) added
  | @submitted quantity given =>
      rw [List.append_nil]
      let order := { broker.newOrder args quantity with status := .submitted }
      have same : SameBut broker (broker.setOpenOrder args.id order) args.id :=
        ⟨fun _ => rfl, rfl, fun other different =>
          Dict.get?_set_of_ne _ _ different⟩
      exact booked.set_open same (Dict.get?_set_self _ _ order) rfl rfl fresh.2
        (quantities (broker.newOrder args quantity) rfl) added
  | @processed quantity bid ask price order fill bar given terms view filled priced
      source =>
      have named : order.id = args.id := terms.id
      have single : ProcessedFill.Whole ⟨broker, order, fill, args.leverage⟩ :=
        whole _ (List.mem_singleton_self _)
      have done := booked.fill filled priced single (named ▸ fresh.2)
        (named ▸ fresh.1) (quantities _ named) added
      rw [done.2]
      exact done.1

theorem Booked.cancel (booked : Booked accepted fills broker) (orderId : String) :
    Booked accepted fills (broker.cancelOrder orderId).2 := by
  unfold cancelOrder
  cases listed : broker.orders.openOrders.get? orderId with
  | none => exact booked
  | some order =>
      obtain ⟨named, unfilled, unclosed⟩ := booked.opened orderId order listed
      have gone : (broker.orders.openOrders.erase orderId).get? order.id = none := by
        rw [Dict.get?_erase, if_pos named]
      have others : ∀ other ≠ order.id, (broker.orders.openOrders.erase orderId).get?
          other = broker.orders.openOrders.get? other := by
        intro other different
        rw [Dict.get?_erase, if_neg (fun same => different (same.trans named.symm))]
      have quantities : ∀ entry ∈ accepted ++ [], entry.1 = order.id →
          entry.2 = order.quantity := by
        intro entry member own
        rw [List.append_nil] at member
        exact booked.quantity_eq listed member (own.trans named)
      rw [← List.append_nil accepted]
      exact booked.close_unfilled
        (({ broker with orders := { broker.orders with
          openOrders := broker.orders.openOrders.erase orderId } } :
            SimulatedBroker).cancelInto order).2
        (broker.cancelInto order).1 (named ▸ unclosed) gone others rfl (.inl rfl)
        unfilled (fun _ => rfl) quantities (fun entry member => by cases member)

/-- An unfilled order that the chaos engine fills no negative part of stays unfilled
while it is pending. -/
theorem applyChaosToOrder_unfilled {order : SimulatedOrder} {chaos : ChaosOutcome}
    (proper : chaos.Proper order) (unfilled : order.filledQuantity = 0) :
    (applyChaosToOrder order chaos).1.filledQuantity = 0 := by
  unfold applyChaosToOrder
  cases chaos with
  | disabled => exact unfilled
  | passed =>
      dsimp only
      split
      · rfl
      · exact unfilled
  | rejected =>
      dsimp only
      split
      · rfl
      · exact unfilled
  | partialFill percent =>
      dsimp only
      split
      · rfl
      · next nothing =>
          have nonpos := not_lt.mp fun some => nothing ⟨rfl, some⟩
          exact le_antisymm nonpos (proper percent rfl)

theorem Booked.check (booked : Booked accepted fills broker) (bar : PriceBar)
    (quote : MarketQuote) (chaos : String → ChaosOutcome)
    {entry : String × SimulatedOrder}
    (listed : broker.orders.openOrders.get? entry.1 = some entry.2)
    (proper : (chaos entry.1).Proper entry.2)
    (whole : ∀ processed ∈ broker.pendingOrderFills bar quote chaos entry,
      processed.Whole) :
    Booked accepted (fills ++ broker.pendingOrderFills bar quote chaos entry)
        (broker.checkPendingOrder bar quote chaos entry).2 ∧
      ∀ other ≠ entry.1,
        (broker.checkPendingOrder bar quote chaos entry).2.orders.openOrders.get?
          other = broker.orders.openOrders.get? other := by
  obtain ⟨named, unfilled, unclosed⟩ := booked.opened _ _ listed
  have terms := applyChaosToOrder_terms entry.2 (chaos entry.1)
  have unfilledToo := applyChaosToOrder_unfilled proper unfilled
  have namedToo := terms.id.trans named
  have unclosedToo : ∀ closed ∈ broker.orders.orderHistory,
      closed.id ≠ (applyChaosToOrder entry.2 (chaos entry.1)).1.id := by
    rw [namedToo]
    exact unclosed
  have quantities : ∀ other ∈ accepted ++ [], other.1 = entry.1 →
      other.2 = (applyChaosToOrder entry.2 (chaos entry.1)).1.quantity := by
    intro other member own
    rw [List.append_nil] at member
    exact (booked.quantity_eq listed member own).trans terms.quantity.symm
  have checked := checkPendingOrder_checked broker bar quote chaos entry
  generalize broker.checkPendingOrder bar quote chaos entry = result at checked ⊢
  generalize broker.pendingOrderFills bar quote chaos entry = later
    at checked whole ⊢
  cases checked with
  | rejected status =>
      set order := (applyChaosToOrder entry.2 (chaos entry.1)).1
      have others : ∀ other ≠ entry.1,
          (broker.orders.openOrders.erase entry.1).get? other =
            broker.orders.openOrders.get? other := by
        intro other different
        rw [Dict.get?_erase, if_neg different]
      have gone : (broker.orders.openOrders.erase entry.1).get? order.id = none := by
        rw [Dict.get?_erase, if_pos namedToo]
      have kept : Booked (accepted ++ []) fills
          ((broker.dropOpenOrder entry.1).rejectInto order (some bar.ts)).2 :=
        booked.close_unfilled
          ((broker.dropOpenOrder entry.1).rejectInto order (some bar.ts)).2
          ((broker.dropOpenOrder entry.1).rejectInto order (some bar.ts)).1
          unclosedToo gone
          (fun other different => others other (namedToo ▸ different)) rfl
          (.inr status) unfilledToo (fun _ => rfl)
          (fun other member own => quantities other member (own.trans namedToo))
          (fun other member => by cases member)
      rw [List.append_nil] at kept ⊢
      exact ⟨kept, others⟩
  | kept result =>
      have same : SameBut broker (broker.setOpenOrder entry.1
          (applyChaosToOrder entry.2 (chaos entry.1)).1) entry.1 :=
        ⟨fun _ => rfl, rfl, fun other different => Dict.get?_set_of_ne _ _ different⟩
      have kept : Booked (accepted ++ []) fills (broker.setOpenOrder entry.1
          (applyChaosToOrder entry.2 (chaos entry.1)).1) :=
        booked.set_open same (Dict.get?_set_self _ _ _) namedToo unfilledToo
          unclosed quantities (fun other member => by cases member)
      rw [List.append_nil] at kept ⊢
      exact ⟨kept, same.others⟩
  | @processed price fill filled priced source =>
      set order := (applyChaosToOrder entry.2 (chaos entry.1)).1
      set dropped := (broker.setOpenOrder entry.1 order).dropOpenOrder entry.1
      have others : ∀ other ≠ entry.1, dropped.orders.openOrders.get? other =
          broker.orders.openOrders.get? other := by
        intro other different
        change ((broker.orders.openOrders.set entry.1 order).erase
          entry.1).get? other = _
        rw [Dict.get?_erase, if_neg different, Dict.get?_set_of_ne _ _ different]
      have gone : dropped.orders.openOrders.get? order.id = none := by
        change ((broker.orders.openOrders.set entry.1 order).erase
          entry.1).get? order.id = none
        rw [Dict.get?_erase, if_pos namedToo]
      have done := processFill_processed dropped order none filled priced
      have single := whole _ (List.mem_singleton_self _)
      rcases done.orders with ⟨-, -, orders⟩ | ⟨refused, -⟩
      · have amount : filledQuantityOf order fill = order.quantity := single.whole
        have taken : filledOf [⟨dropped, order, fill, none⟩] order.id =
            filledQuantityOf order fill := by
          simp [filledOf, ProcessedFill.quantity]
        rw [← List.append_nil accepted]
        refine ⟨booked.close _ (bookedOrder order fill price) unclosedToo ?_ ?_ ?_ ?_
          ?_ taken (done.moved single) ?_ ?_, fun other different => ?_⟩
        · rw [orders]
          exact gone
        · intro other different
          rw [orders]
          exact others other fun same => different (same.trans namedToo.symm)
        · rw [orders]
          rfl
        · refine .inl ⟨?_, amount⟩
          unfold bookedOrder
          dsimp only
          rw [amount, if_neg (lt_irrefl _)]
        · intro processed member
          rw [List.mem_singleton.mp member]
          rfl
        · intro other member own
          exact quantities other member (own.trans namedToo)
        · intro other member
          cases member
        · change (dropped.processFill order fill none).2.orders.openOrders.get?
            other = _
          rw [orders]
          exact others other different
      · exact absurd single.averages refused

theorem Booked.checkOrders (bar : PriceBar) (quote : MarketQuote)
    (chaos : String → ChaosOutcome) (entries : List (String × SimulatedOrder))
    (distinct : (entries.map Prod.fst).Nodup)
    (proper : ∀ entry ∈ entries, (chaos entry.1).Proper entry.2)
    {fills : List ProcessedFill} {broker : SimulatedBroker}
    (booked : Booked accepted fills broker)
    (listed : ∀ entry ∈ entries,
      broker.orders.openOrders.get? entry.1 = some entry.2)
    (whole : ∀ processed ∈ pendingFills bar quote chaos broker entries,
      processed.Whole) :
    Booked accepted (fills ++ pendingFills bar quote chaos broker entries)
      (SimulatedBroker.checkOrders bar quote chaos broker entries).2 := by
  induction entries generalizing broker fills with
  | nil =>
      unfold pendingFills SimulatedBroker.checkOrders
      rw [List.append_nil]
      exact booked
  | cons entry rest induction =>
      obtain ⟨apart, distinctRest⟩ := List.nodup_cons.mp distinct
      unfold pendingFills at whole ⊢
      unfold SimulatedBroker.checkOrders
      obtain ⟨checked, others⟩ := booked.check bar quote chaos
        (listed entry (by simp)) (proper entry (by simp))
        fun processed member => whole processed (List.mem_append_left _ member)
      rcases result : broker.checkPendingOrder bar quote chaos entry with
        ⟨error | ⟨⟩, after⟩
      · rw [result] at checked
        rw [List.append_nil]
        exact checked
      · rw [result] at checked others whole
        rw [← List.append_assoc]
        refine induction distinctRest ?_ checked ?_ ?_
        · intro other member
          exact proper other (by simp [member])
        · intro other member
          have different : other.1 ≠ entry.1 := by
            intro same
            exact apart (same ▸ List.mem_map_of_mem member)
          exact (others _ different).trans (listed other (by simp [member]))
        · intro processed member
          exact whole processed (List.mem_append_right _ member)

theorem markBar_holding (broker : SimulatedBroker) (marked : String)
    (bar : PriceBar) (symbol : String) :
    (broker.markBar marked bar).holding symbol = broker.holding symbol := by
  unfold markBar updatePositionMarks
  dsimp only
  cases found : broker.positions.get? marked with
  | none => rfl
  | some position =>
      unfold holding
      dsimp only
      rw [Dict.get?_set]
      split
      · next same =>
          rw [same, found]
          rfl
      · rfl

theorem markBar_orders (broker : SimulatedBroker) (marked : String)
    (bar : PriceBar) : (broker.markBar marked bar).orders = broker.orders := by
  unfold markBar updatePositionMarks
  dsimp only
  split
  · rfl
  · rfl

/-- A call books what it accepts and fills. -/
theorem Booked.perform (booked : Booked accepted fills broker) (call : BrokerCall)
    (keeps : broker.KeepsQuantities call)
    (whole : ∀ processed ∈ broker.fillsOf call, processed.Whole) :
    Booked (accepted ++ broker.accepted call) (fills ++ broker.fillsOf call)
      (broker.perform call) := by
  cases call with
  | place args chaos => exact booked.place args chaos keeps whole
  | cancel orderId =>
      change Booked (accepted ++ []) (fills ++ []) (broker.cancelOrder orderId).2
      rw [List.append_nil, List.append_nil]
      exact booked.cancel orderId
  | bar symbol bar chaos =>
      have marked : Booked accepted fills (broker.markBar symbol bar) :=
        booked.same (markBar_holding broker symbol bar)
          (markBar_orders broker symbol bar)
      have checked := Booked.checkOrders bar (synthesizedQuote bar) chaos
        ((broker.markBar symbol bar).ordersToProcess symbol)
        (List.Nodup.sublist (List.filter_sublist.map Prod.fst)
          (broker.markBar symbol bar).orders.openOrders.nodup)
        keeps marked
        (fun entry member => Dict.get?_eq_some_iff.mpr (List.mem_filter.mp member).1)
        whole
      change Booked (accepted ++ []) _ (broker.updateBar symbol bar chaos).2
      rw [List.append_nil]
      unfold updateBar
      dsimp only
      split
      · next error after failed =>
          rw [failed] at checked
          exact checked
      · next after passed =>
          rw [passed] at checked
          exact checked.same (fun _ => rfl) rfl

theorem Booked.run (calls : List BrokerCall)
    {accepted : List (String × ℚ)} {fills : List ProcessedFill}
    {broker : SimulatedBroker} (booked : Booked accepted fills broker)
    (keeps : broker.RunKeepsQuantities calls) :
    Booked (accepted ++ broker.runAccepted calls) (fills ++ broker.runFills calls)
      (broker.run calls) := by
  induction calls generalizing accepted fills broker with
  | nil =>
      unfold runAccepted runFills
      rw [List.append_nil, List.append_nil]
      exact booked
  | cons call calls induction =>
      obtain ⟨first, whole, later⟩ := keeps
      unfold runAccepted runFills
      rw [← List.append_assoc, ← List.append_assoc]
      exact induction (booked.perform call first whole) later

end Calls

theorem fresh_booked (initialEquity : ℚ) (feeTier : FeeTier)
    (fillModel : OrderFillModel) :
    Booked [] [] (fresh initialEquity feeTier fillModel) := by
  refine ⟨⟨?_, fun _ => rfl⟩, ?_, ?_⟩
  · intro entry member
    cases member
  · intro id order found
    rw [show (fresh initialEquity feeTier fillModel).orders.openOrders.get? id =
      none from rfl] at found
    cases found
  · intro processed member
    cases member

/-- Where every fill of a run is whole, and every order that is executed at once meets
a market, no quantity is lost; the quantities add exactly. -/
theorem run_loses_no_quantity (initialEquity : ℚ) (feeTier : FeeTier)
    (fillModel : OrderFillModel) (calls : List BrokerCall)
    (keeps : (fresh initialEquity feeTier fillModel).RunKeepsQuantities calls) :
    QuantitiesKept
      ((fresh initialEquity feeTier fillModel).runAccepted calls)
      ((fresh initialEquity feeTier fillModel).runFills calls)
      ((fresh initialEquity feeTier fillModel).run calls) :=
  ((fresh_booked initialEquity feeTier fillModel).run calls
    keeps).toQuantitiesKept

end SimulatedBroker

/-! ## Runs of a pending order -/

instance (held : Holding) : Decidable held.Signed :=
  inferInstanceAs (Decidable (_ = _))

instance (broker : SimulatedBroker) (order : SimulatedOrder) (fill : FillResult) :
    Decidable (broker.Averages order fill) :=
  inferInstanceAs (Decidable (∀ _ ∈ _, _))

instance (processed : ProcessedFill) : Decidable processed.Whole :=
  decidable_of_iff
    (processed.quantity = processed.order.quantity ∧
      (∀ old ∈ processed.heldBefore, old.Signed) ∧
      processed.broker.Averages processed.order processed.fill)
    ⟨fun ⟨whole, signed, averages⟩ => ⟨whole, signed, averages⟩,
      fun whole => ⟨whole.whole, whole.signed, whole.averages⟩⟩

instance (order : SimulatedOrder) (chaos : ChaosOutcome) :
    Decidable (chaos.Proper order) :=
  match chaos with
  | .disabled => isTrue fun _ same => by cases same
  | .passed => isTrue fun _ same => by cases same
  | .rejected => isTrue fun _ same => by cases same
  | .partialFill percent =>
      decidable_of_iff (0 ≤ order.quantity * (percent / 100))
        ⟨fun nonneg other same => by
            cases same
            exact nonneg,
          fun proper => proper percent rfl⟩

namespace SimulatedBroker

instance (broker : SimulatedBroker) (id : String) : Decidable (broker.NewId id) :=
  inferInstanceAs (Decidable (_ ∧ _))

instance (broker : SimulatedBroker) (call : BrokerCall) :
    Decidable (broker.KeepsQuantities call) :=
  match call with
  | .place _ _ => inferInstanceAs (Decidable (_ ∧ _))
  | .cancel _ => inferInstanceAs (Decidable True)
  | .bar _ _ _ => inferInstanceAs (Decidable (∀ _ ∈ _, _))

def decideRunKeepsQuantities :
    ∀ (broker : SimulatedBroker) (calls : List BrokerCall),
      Decidable (broker.RunKeepsQuantities calls)
  | _, [] => isTrue trivial
  | broker, call :: calls =>
      let _ := decideRunKeepsQuantities (broker.perform call) calls
      inferInstanceAs (Decidable (_ ∧ _ ∧ _))

instance (broker : SimulatedBroker) (calls : List BrokerCall) :
    Decidable (broker.RunKeepsQuantities calls) :=
  decideRunKeepsQuantities broker calls

end SimulatedBroker

def waitingPurchase : SimulatedOrderArgs :=
  { id := "waiting"
    symbol := "COIN"
    side := .buy
    type := .limit
    quantity := some 2
    price := some 100
    stopPrice := none
    clientId := none
    reduceOnly := false
    leverage := none
    tif := .gtc }

/-- The purchase waits over a dearer bar and is filled whole at the next, and a second
one is cancelled. -/
theorem waiting_purchase_is_kept :
    let start := SimulatedBroker.fresh 1000 .tier7 plainFills
    let calls := [dearBar, .place waitingPurchase .disabled, dearBar, coinBar,
      .place { waitingPurchase with id := "later" } .disabled, .cancel "later"]
    SimulatedBroker.QuantitiesKept (start.runAccepted calls) (start.runFills calls)
      (start.run calls) := by
  intro start calls
  apply SimulatedBroker.run_loses_no_quantity 1000 .tier7 plainFills calls
  decide +kernel

/-- The chaos engine lets half of a waiting purchase fill.  The order is neither open
for the other half nor closed. -/
theorem half_filled_purchase_is_lost :
    let start := SimulatedBroker.fresh 1000 .tier7 plainFills
    let calls := [dearBar, .place waitingPurchase .disabled,
      .bar "COIN" hundredBar fun _ => .partialFill 50]
    (start.run calls).holding "COIN" = some ⟨.long, 1⟩ ∧
      ¬SimulatedBroker.QuantitiesKept (start.runAccepted calls)
        (start.runFills calls) (start.run calls) := by
  intro start calls
  refine ⟨by decide +kernel, fun kept => ?_⟩
  have placed : ("waiting", (2 : ℚ)) ∈ start.runAccepted calls := by
    decide +kernel
  have gone : (start.run calls).orders.openOrders.get? "waiting" = none := by
    decide +kernel
  rcases kept.orders _ placed with ⟨order, found, -⟩ | ⟨-, order, once, -, -, final⟩
  · rw [gone] at found
    cases found
  · have partly : ∀ closed ∈ (start.run calls).orders.orderHistory.filter
        (fun closed => decide (closed.id = "waiting")),
        closed.status = .partiallyFilled := by
      decide +kernel
    have status := partly order (once ▸ List.mem_singleton_self order)
    rcases final with ⟨filled, -⟩ | cancelled | rejected
    · rw [status] at filled
      cases filled
    · rw [status] at cancelled
      cases cancelled
    · rw [status] at rejected
      cases rejected

end GptTrader
