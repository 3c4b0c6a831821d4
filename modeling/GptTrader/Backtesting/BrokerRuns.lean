import GptTrader.Backtesting.SimulatedBroker

/-!
# Runs of the simulated broker

Bars, orders and cancellations one after the other, with the fills they process.
What every fill keeps of the books, a run keeps.
-/

namespace GptTrader

/-! ## The calls of a run -/

/-- A call of the broker. -/
inductive BrokerCall where
  | place (args : SimulatedOrderArgs) (chaos : ChaosOutcome)
  | cancel (orderId : String)
  | bar (symbol : String) (bar : PriceBar) (chaos : String → ChaosOutcome)

/-- A fill that `_process_fill` is called with. -/
structure ProcessedFill where
  broker : SimulatedBroker
  order : SimulatedOrder
  fill : FillResult
  leverage : Option ℤ

namespace SimulatedBroker

def perform (broker : SimulatedBroker) : BrokerCall → SimulatedBroker
  | .place args chaos => (broker.placeOrder args chaos).2
  | .cancel orderId => (broker.cancelOrder orderId).2
  | .bar symbol bar chaos => (broker.updateBar symbol bar chaos).2

def run (broker : SimulatedBroker) (calls : List BrokerCall) :
    SimulatedBroker :=
  calls.foldl perform broker

/-- The fill that `routeOrder` processes, if any. -/
def routedFills (broker : SimulatedBroker) (order : SimulatedOrder)
    (leverage : Option ℤ) (chaos : ChaosOutcome) : List ProcessedFill :=
  if order.type = .market then
    let (order, fillQuantity) := applyChaosToOrder order chaos
    if order.status = .rejected then []
    else
      match broker.marketFill order fillQuantity with
      | .ok (some fill) => [⟨broker, order, fill, leverage⟩]
      | _ => []
  else if order.type = .limit ∧ order.tif = .ioc then
    match broker.iocFill order with
    | .ok (some fill) =>
        if fill.filled then [⟨broker, order, fill, leverage⟩] else []
    | _ => []
  else []

/-- The fill that `placeOrder` processes, if any. -/
def placedFills (broker : SimulatedBroker) (args : SimulatedOrderArgs)
    (chaos : ChaosOutcome) : List ProcessedFill :=
  match args.quantity with
  | none => []
  | some quantity =>
      let order := broker.newOrder args quantity
      let validated := if args.reduceOnly then .ok ()
        else broker.validateMargin order args.leverage
      match validated with
      | .error _ => []
      | .ok () => broker.routedFills order args.leverage chaos

def pendingOrderFills (broker : SimulatedBroker) (bar : PriceBar)
    (quote : MarketQuote) (chaos : String → ChaosOutcome)
    (entry : String × SimulatedOrder) : List ProcessedFill :=
  let (order, fillQuantity) := applyChaosToOrder entry.2 (chaos entry.1)
  if chaos entry.1 ≠ .disabled ∧ order.status = .rejected then []
  else
    let changed := broker.setOpenOrder entry.1 order
    match changed.pendingFill order bar quote fillQuantity with
    | .ok (some fill) => [⟨changed.dropOpenOrder entry.1, order, fill, none⟩]
    | _ => []

/-- The fills a bar brings to the open orders. -/
def pendingFills (bar : PriceBar) (quote : MarketQuote)
    (chaos : String → ChaosOutcome) :
    SimulatedBroker → List (String × SimulatedOrder) → List ProcessedFill
  | _, [] => []
  | broker, entry :: rest =>
      broker.pendingOrderFills bar quote chaos entry ++
        match broker.checkPendingOrder bar quote chaos entry with
        | (.error _, _) => []
        | (.ok (), broker) => pendingFills bar quote chaos broker rest

/-- The fills that one call processes. -/
def fillsOf (broker : SimulatedBroker) : BrokerCall → List ProcessedFill
  | .place args chaos => broker.placedFills args chaos
  | .cancel _ => []
  | .bar symbol bar chaos =>
      pendingFills bar (synthesizedQuote bar) chaos (broker.markBar symbol bar)
        ((broker.markBar symbol bar).ordersToProcess symbol)

def runFills : SimulatedBroker → List BrokerCall → List ProcessedFill
  | _, [] => []
  | broker, call :: calls =>
      broker.fillsOf call ++ (broker.perform call).runFills calls

theorem runFills_append (broker : SimulatedBroker)
    (earlier later : List BrokerCall) :
    broker.runFills (earlier ++ later) =
      broker.runFills earlier ++ (broker.run earlier).runFills later := by
  induction earlier generalizing broker with
  | nil => rfl
  | cons call earlier induction =>
      rw [List.cons_append, runFills, runFills, induction, List.append_assoc]
      rfl

/-! ## The money of a broker -/

/-- What the fills move. -/
structure Books where
  initialEquity : ℚ
  feeTier : FeeTier
  usdc : PaperBalance
  positions : Dict String SimulatedPosition
  completedTrades : List CompletedTrade
  entryTimes : Dict String ℤ
  entryFees : Dict String ℚ
  simulationTime : Option ℤ

def books (broker : SimulatedBroker) : Books :=
  { initialEquity := broker.initialEquity
    feeTier := broker.feeTier
    usdc := broker.usdc
    positions := broker.positions
    completedTrades := broker.completedTrades
    entryTimes := broker.positionEntryTimes
    entryFees := broker.positionEntryFees
    simulationTime := broker.simulationTime }

/-- What calls keep of the books: fills may need a condition, and marks and the
time change nothing that matters. -/
structure Kept (meets : ProcessedFill → Prop)
    (property : List ProcessedFill → Books → Prop) : Prop where
  fills : ∀ (done : List ProcessedFill) (processed : ProcessedFill),
    meets processed → property done processed.broker.books →
    property (done ++ [processed])
      (processed.broker.processFill processed.order processed.fill
        processed.leverage).2.books
  marks : ∀ (done : List ProcessedFill) (broker : SimulatedBroker) symbol mark,
    property done broker.books →
      property done (broker.updatePositionMarks symbol mark).books
  time : ∀ (done : List ProcessedFill) (broker : SimulatedBroker) time,
    property done broker.books →
      property done { broker with simulationTime := some time }.books

section Kept

variable {meets : ProcessedFill → Prop}
  {property : List ProcessedFill → Books → Prop}
  (kept : Kept meets property) (done : List ProcessedFill)

include kept

theorem routeOrder_kept (broker : SimulatedBroker) (order : SimulatedOrder)
    (leverage : Option ℤ) (chaos : ChaosOutcome)
    (met : ∀ processed ∈ broker.routedFills order leverage chaos,
      meets processed)
    (before : property done broker.books) :
    property (done ++ broker.routedFills order leverage chaos)
      (broker.routeOrder order leverage chaos).2.books := by
  unfold routeOrder routedFills at *
  by_cases market : order.type = .market
  · simp only [if_pos market] at met ⊢
    by_cases refused : (applyChaosToOrder order chaos).1.status = .rejected
    · simp only [if_pos refused, List.append_nil]
      exact before
    · simp only [if_neg refused, executeMarketOrder] at met ⊢
      rcases tried : broker.marketFill (applyChaosToOrder order chaos).1
          (applyChaosToOrder order chaos).2 with error | _ | fill
      · simpa only [List.append_nil] using before
      · simpa only [List.append_nil] using before
      · simp only [tried] at met
        exact kept.fills done ⟨broker, _, fill, leverage⟩
          (met _ (List.mem_singleton.mpr rfl)) before
  · simp only [if_neg market] at met ⊢
    by_cases ioc : order.type = .limit ∧ order.tif = .ioc
    · simp only [if_pos ioc, executeIocLimitOrder] at met ⊢
      rcases tried : broker.iocFill order with error | _ | fill
      · simpa only [List.append_nil] using before
      · simpa only [List.append_nil] using before
      · simp only [tried] at met ⊢
        by_cases filled : fill.filled = true
        · simp only [if_pos filled] at met ⊢
          exact kept.fills done ⟨broker, order, fill, leverage⟩
            (met _ (List.mem_singleton.mpr rfl)) before
        · simp only [if_neg filled, List.append_nil]
          exact before
    · simp only [if_neg ioc, List.append_nil]
      exact before

theorem placeOrder_kept (broker : SimulatedBroker) (args : SimulatedOrderArgs)
    (chaos : ChaosOutcome)
    (met : ∀ processed ∈ broker.placedFills args chaos, meets processed)
    (before : property done broker.books) :
    property (done ++ broker.placedFills args chaos)
      (broker.placeOrder args chaos).2.books := by
  unfold placeOrder placedFills at *
  cases given : args.quantity with
  | none =>
      dsimp only
      rw [List.append_nil]
      exact before
  | some quantity =>
      simp only [given] at met ⊢
      rcases validated : (if args.reduceOnly then .ok ()
        else broker.validateMargin (broker.newOrder args quantity)
          args.leverage : Except SimulationError Unit) with error | ⟨⟩
      · simpa only [List.append_nil] using before
      · simp only [validated] at met
        exact routeOrder_kept kept done broker _ args.leverage chaos met before

theorem checkPendingOrder_kept (broker : SimulatedBroker) (bar : PriceBar)
    (quote : MarketQuote) (chaos : String → ChaosOutcome)
    (entry : String × SimulatedOrder)
    (met : ∀ processed ∈ broker.pendingOrderFills bar quote chaos entry,
      meets processed)
    (before : property done broker.books) :
    property (done ++ broker.pendingOrderFills bar quote chaos entry)
      (broker.checkPendingOrder bar quote chaos entry).2.books := by
  unfold checkPendingOrder pendingOrderFills at *
  dsimp only at met ⊢
  by_cases refused : chaos entry.1 ≠ .disabled ∧
      (applyChaosToOrder entry.2 (chaos entry.1)).1.status = .rejected
  · rw [if_pos refused, if_pos refused, List.append_nil]
    exact before
  · simp only [if_neg refused] at met ⊢
    rcases tried : (broker.setOpenOrder entry.1
        (applyChaosToOrder entry.2 (chaos entry.1)).1).pendingFill
          (applyChaosToOrder entry.2 (chaos entry.1)).1 bar quote
          (applyChaosToOrder entry.2 (chaos entry.1)).2 with error | _ | fill
    · dsimp only
      rw [List.append_nil]
      exact before
    · dsimp only
      rw [List.append_nil]
      exact before
    · simp only [tried] at met
      exact kept.fills done ⟨_, _, fill, none⟩
        (met _ (List.mem_singleton.mpr rfl)) before

theorem checkOrders_kept (bar : PriceBar) (quote : MarketQuote)
    (chaos : String → ChaosOutcome) (entries : List (String × SimulatedOrder))
    (broker : SimulatedBroker)
    (met : ∀ processed ∈ pendingFills bar quote chaos broker entries,
      meets processed)
    (before : property done broker.books) :
    property (done ++ pendingFills bar quote chaos broker entries)
      (checkOrders bar quote chaos broker entries).2.books := by
  induction entries generalizing broker done with
  | nil =>
      unfold pendingFills checkOrders
      rw [List.append_nil]
      exact before
  | cons entry rest induction =>
      unfold pendingFills at met ⊢
      unfold checkOrders
      have first := checkPendingOrder_kept kept done broker bar quote chaos entry
        (fun processed member => met processed (List.mem_append_left _ member))
        before
      rcases checked : broker.checkPendingOrder bar quote chaos entry with
        ⟨error | ⟨⟩, after⟩
      · rw [checked] at first
        simpa only [List.append_nil] using first
      · rw [checked] at met first
        rw [← List.append_assoc]
        apply induction
        · intro processed member
          exact met processed (List.mem_append_right _ member)
        · exact first

theorem perform_kept (broker : SimulatedBroker) (call : BrokerCall)
    (met : ∀ processed ∈ broker.fillsOf call, meets processed)
    (before : property done broker.books) :
    property (done ++ broker.fillsOf call) (broker.perform call).books := by
  cases call with
  | place args chaos => exact placeOrder_kept kept done broker args chaos met before
  | cancel orderId =>
      change property (done ++ []) (broker.cancelOrder orderId).2.books
      unfold cancelOrder
      rw [List.append_nil]
      split
      · exact before
      · exact before
  | bar symbol bar chaos =>
      have marked : property done (broker.markBar symbol bar).books :=
        kept.marks done _ symbol bar.close before
      have checked := checkOrders_kept kept done bar (synthesizedQuote bar) chaos
        _ _ met marked
      unfold perform updateBar
      dsimp only
      split
      · next error after refused =>
          rw [refused] at checked
          exact checked
      · next after passed =>
          rw [passed] at checked
          exact kept.time _ after bar.ts checked

theorem run_kept (broker : SimulatedBroker) (calls : List BrokerCall)
    (met : ∀ processed ∈ broker.runFills calls, meets processed)
    (before : property done broker.books) :
    property (done ++ broker.runFills calls) (broker.run calls).books := by
  induction calls generalizing broker done with
  | nil =>
      unfold runFills
      rw [List.append_nil]
      exact before
  | cons call calls induction =>
      unfold runFills at met ⊢
      rw [← List.append_assoc]
      apply induction
      · intro processed member
        exact met processed (List.mem_append_right _ member)
      · apply perform_kept kept done broker call _ before
        intro processed member
        exact met processed (List.mem_append_left _ member)

end Kept

end SimulatedBroker

end GptTrader
