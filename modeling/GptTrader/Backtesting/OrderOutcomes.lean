import GptTrader.Backtesting.Holdings
import GptTrader.Library.Outcome

/-!
# What becomes of an order

Everything that placing an order, checking a pending order and processing a fill can
do, said once: which state is left, which fill was processed, and how the fill model
came to its price.
-/

namespace GptTrader

/-- The chaos engine changes the status and the filled quantity of an order alone. -/
structure SimulatedOrder.SameTerms (order other : SimulatedOrder) : Prop where
  id : order.id = other.id
  symbol : order.symbol = other.symbol
  side : order.side = other.side
  type : order.type = other.type
  quantity : order.quantity = other.quantity
  price : order.price = other.price
  stopPrice : order.stopPrice = other.stopPrice

theorem SimulatedOrder.SameTerms.refl (order : SimulatedOrder) :
    order.SameTerms order :=
  ⟨rfl, rfl, rfl, rfl, rfl, rfl, rfl⟩

/-! ## Prices of the fill model -/

namespace OrderFillModel

variable (model : OrderFillModel)

def takerPrice (order : SimulatedOrder) (bar : PriceBar) (bid ask : ℚ) : ℚ :=
  let cost := (ask - bid) * model.spreadImpactPct / 2 +
    bar.close * model.getSlippage order.symbol / 10000
  match order.side with
  | .buy => bar.close + cost
  | .sell => bar.close - cost

/-- How an order came to the price of its fill. -/
inductive Priced (order : SimulatedOrder) (bar : PriceBar) (bid ask price : ℚ) :
    Prop
  | market (type : order.type = .market)
      (taken : price = model.takerPrice order bar bid ask)
  | limit (type : order.type = .limit) (given : order.price = some price)
      (touched : isPriceTouched price order.side bar = true)
  | stop (type : order.type = .stop ∨ order.type = .stopLimit) (stop : ℚ)
      (given : order.stopPrice = some stop)
      (triggered : isStopTriggered stop order.side bar = true)
      (taken : price = model.takerPrice order bar bid ask)

theorem fillMarketOrder_eq_ok {order : SimulatedOrder} {bar : PriceBar}
    {bid ask : ℚ} {fill : FillResult}
    (done : model.fillMarketOrder order bar bid ask = .ok fill) :
    fill.filled = true ∧
      fill.fillPrice = some (model.takerPrice order bar bid ask) := by
  unfold fillMarketOrder at done
  obtain ⟨moved, -, rfl⟩ := Outcome.map_eq_ok.mp done
  refine ⟨rfl, congrArg some ?_⟩
  unfold takerPrice
  cases order.side with
  | buy => exact add_assoc _ _ _
  | sell => exact (sub_add_eq_sub_sub _ _ _).symm

theorem tryFillLimitOrder_eq_ok {order : SimulatedOrder} {bar : PriceBar}
    {fill : FillResult} (done : model.tryFillLimitOrder order bar = .ok fill)
    (filled : fill.filled = true) :
    ∃ price, order.price = some price ∧ fill.fillPrice = some price ∧
      isPriceTouched price order.side bar = true := by
  unfold tryFillLimitOrder at done
  cases given : order.price with
  | none =>
      rw [given] at done
      cases done
  | some price =>
      rw [given] at done
      dsimp only at done
      split at done
      · cases done
        cases filled
      · next touched =>
          split at done
          · cases done
            cases filled
          · obtain ⟨part, -, rfl⟩ := Outcome.map_eq_ok.mp done
            split at filled
            · cases filled
            · next enough =>
                rw [if_neg enough]
                exact ⟨price, rfl, rfl, not_not.mp touched⟩

theorem tryFillStopOrder_eq_ok {order : SimulatedOrder} {bar : PriceBar}
    {bid ask : ℚ} {fill : FillResult}
    (done : model.tryFillStopOrder order bar bid ask = .ok fill)
    (filled : fill.filled = true) :
    ∃ stop, order.stopPrice = some stop ∧
      isStopTriggered stop order.side bar = true ∧
      fill.fillPrice = some (model.takerPrice order bar bid ask) := by
  unfold tryFillStopOrder at done
  cases given : order.stopPrice with
  | none =>
      rw [given] at done
      cases done
  | some stop =>
      rw [given] at done
      dsimp only at done
      split at done
      · cases done
        cases filled
      · next triggered =>
          exact ⟨stop, rfl, not_not.mp triggered,
            (model.fillMarketOrder_eq_ok done).2⟩

end OrderFillModel

namespace SimulatedBroker

/-! ## Processing a fill -/

/-- What a fill is processed against, and no fill changes. -/
structure Market where
  bars : Dict String PriceBar
  quotes : Dict String MarketQuote
  fillModel : OrderFillModel

def market (broker : SimulatedBroker) : Market :=
  { bars := broker.currentBar
    quotes := broker.currentQuote
    fillModel := broker.fillModel }

/-- The order as `_process_fill` leaves it. -/
def bookedOrder (order : SimulatedOrder) (fill : FillResult) (price : ℚ) :
    SimulatedOrder :=
  { order with
    filledQuantity := filledQuantityOf order fill
    status := if filledQuantityOf order fill < order.quantity then
      .partiallyFilled else .filled
    avgFillPrice := some price
    updatedAt := fill.fillTime }

def ordersWith (orders : BrokerOrders) (booked : SimulatedOrder) : BrokerOrders :=
  { orders with
    filledOrders := orders.filledOrders.set booked.id booked
    orderHistory := orders.orderHistory ++ [booked] }

def Averages (broker : SimulatedBroker) (order : SimulatedOrder)
    (fill : FillResult) : Prop :=
  ∀ old ∈ broker.holding order.symbol, openedSide order.side = old.side →
    |old.quantity| + filledQuantityOf order fill ≠ 0

theorem updatePosition_market (broker : SimulatedBroker) (symbol : String)
    (side : OrderSide) (quantity price : ℚ) (leverage : Option ℤ) :
    (broker.updatePosition symbol side quantity price leverage).2.market =
      broker.market := by
  unfold updatePosition
  split
  · rfl
  · split
    · unfold addToPosition
      dsimp only
      split
      · rfl
      · rfl
    · unfold reducePosition
      dsimp only
      split
      · rfl
      · split
        · rfl
        · rfl

/-- What a fill leaves of the holdings and of the orders. -/
structure FillProcessed (broker : SimulatedBroker) (order : SimulatedOrder)
    (fill : FillResult) (price : ℚ)
    (result : Except SimulationError SimulatedOrder × SimulatedBroker) :
    Prop where
  held : result.2.holding order.symbol =
    Holding.after (broker.holding order.symbol) (openedSide order.side)
      (filledQuantityOf order fill)
  others : ∀ other ≠ order.symbol,
    result.2.holding other = broker.holding other
  market : result.2.market = broker.market
  orders : (broker.Averages order fill ∧
      result.1 = .ok (bookedOrder order fill price) ∧
      result.2.orders = ordersWith broker.orders (bookedOrder order fill price)) ∨
    (¬broker.Averages order fill ∧ (∃ error, result.1 = .error error) ∧
      result.2.orders = broker.orders)

theorem processFill_processed (broker : SimulatedBroker) (order : SimulatedOrder)
    {fill : FillResult} {price : ℚ} (leverage : Option ℤ)
    (filled : fill.filled = true) (priced : fill.fillPrice = some price) :
    FillProcessed broker order fill price
      (broker.processFill order fill leverage) := by
  set charged := broker.chargeFee order.symbol (broker.feeOf order fill price)
  obtain ⟨held, others, orders, done⟩ := charged.updatePosition_holding
    order.symbol order.side (filledQuantityOf order fill) price leverage
  have market := charged.updatePosition_market order.symbol order.side
    (filledQuantityOf order fill) price leverage
  unfold processFill
  rw [filled, priced]
  dsimp only
  rcases updated : charged.updatePosition order.symbol order.side
      (filledQuantityOf order fill) price leverage with ⟨error | ⟨⟩, after⟩
  · rw [updated] at held others market orders done
    refine ⟨held, others, market, .inr ⟨fun averages => ?_, ⟨error, rfl⟩, orders⟩⟩
    cases done.mpr averages
  · rw [updated] at held others market orders done
    refine ⟨held, others, market, .inl ⟨done.mp rfl, rfl, ?_⟩⟩
    unfold recordFill ordersWith
    dsimp only
    rw [orders]
    rfl

/-! ## Placing an order -/

/-- Everything that placing an order can do. -/
inductive Placed (broker : SimulatedBroker) (args : SimulatedOrderArgs)
    (chaos : ChaosOutcome) :
    Except SimulationError SimulatedOrder × SimulatedBroker →
      List ProcessedFill → Prop
  | refused (error : SimulationError) :
      Placed broker args chaos (.error error, broker) []
  | rejected {quantity : ℚ} (order : SimulatedOrder)
      (given : args.quantity = some quantity)
      (terms : order.SameTerms (broker.newOrder args quantity))
      (status : order.status = .rejected) (unfilled : order.filledQuantity = 0) :
      Placed broker args chaos
        (.ok (broker.rejectInto order broker.simulationTime).1,
          (broker.rejectInto order broker.simulationTime).2) []
  | unpriced {quantity : ℚ} (order : SimulatedOrder)
      (given : args.quantity = some quantity)
      (terms : order.SameTerms (broker.newOrder args quantity))
      (atOnce : args.type = .market ∧ chaos ≠ .rejected ∨
        args.type = .limit ∧ args.tif = .ioc)
      (admitted : args.reduceOnly = true ∨
        broker.validateMargin (broker.newOrder args quantity) args.leverage = .ok ())
      (unseen : broker.marketView args.symbol = none) :
      Placed broker args chaos
        (.ok { order with status := .rejected }, broker) []
  | cancelled {quantity : ℚ} (given : args.quantity = some quantity) :
      Placed broker args chaos
        (.ok (broker.cancelInto (broker.newOrder args quantity)).1,
          (broker.cancelInto (broker.newOrder args quantity)).2) []
  | submitted {quantity : ℚ} (given : args.quantity = some quantity) :
      Placed broker args chaos
        (.ok { broker.newOrder args quantity with status := .submitted },
          broker.setOpenOrder args.id
            { broker.newOrder args quantity with status := .submitted }) []
  | processed {quantity bid ask price : ℚ} (order : SimulatedOrder)
      (fill : FillResult) (bar : PriceBar) (given : args.quantity = some quantity)
      (terms : order.SameTerms (broker.newOrder args quantity))
      (view : broker.marketView order.symbol = some (bar, bid, ask))
      (filled : fill.filled = true) (priced : fill.fillPrice = some price)
      (source : broker.fillModel.Priced order bar bid ask price) :
      Placed broker args chaos (broker.processFill order fill args.leverage)
        [⟨broker, order, fill, args.leverage⟩]

theorem applyChaosToOrder_terms (order : SimulatedOrder) (chaos : ChaosOutcome) :
    (applyChaosToOrder order chaos).1.SameTerms order := by
  unfold applyChaosToOrder
  cases chaos with
  | disabled => exact .refl order
  | passed =>
      dsimp only
      split
      · exact ⟨rfl, rfl, rfl, rfl, rfl, rfl, rfl⟩
      · exact .refl order
  | rejected =>
      dsimp only
      split
      · exact ⟨rfl, rfl, rfl, rfl, rfl, rfl, rfl⟩
      · exact ⟨rfl, rfl, rfl, rfl, rfl, rfl, rfl⟩
  | partialFill percent =>
      dsimp only
      split
      · exact ⟨rfl, rfl, rfl, rfl, rfl, rfl, rfl⟩
      · exact ⟨rfl, rfl, rfl, rfl, rfl, rfl, rfl⟩

theorem applyChaosToOrder_quantity_pos {order : SimulatedOrder}
    {chaos : ChaosOutcome} {quantity : ℚ}
    (partly : (applyChaosToOrder order chaos).2 = some quantity) :
    0 < quantity := by
  unfold applyChaosToOrder at partly
  cases chaos with
  | disabled => cases partly
  | passed =>
      dsimp only at partly
      split at partly
      · next some =>
          cases partly
          exact some.2
      · cases partly
  | rejected =>
      dsimp only at partly
      split at partly
      · next some =>
          cases partly
          exact some.2
      · cases partly
  | partialFill percent =>
      dsimp only at partly
      split at partly
      · next some =>
          cases partly
          exact some.2
      · cases partly

theorem applyChaosToOrder_rejected {order : SimulatedOrder}
    {chaos : ChaosOutcome} (unfilled : order.filledQuantity = 0)
    (rejected : (applyChaosToOrder order chaos).1.status = .rejected) :
    (applyChaosToOrder order chaos).1.filledQuantity = 0 := by
  unfold applyChaosToOrder at rejected ⊢
  cases chaos with
  | disabled => exact unfilled
  | passed =>
      dsimp only at rejected ⊢
      split
      · rfl
      · exact unfilled
  | rejected =>
      dsimp only
      split
      · rfl
      · exact unfilled
  | partialFill percent =>
      dsimp only at rejected ⊢
      split at rejected
      · cases rejected
      · cases rejected

section

variable {broker : SimulatedBroker} {order : SimulatedOrder}

include broker order

theorem marketFill_eq_ok {part : Option ℚ} {fill : FillResult}
    (partly : ∀ quantity ∈ part, 0 < quantity)
    (tried : broker.marketFill order part = .ok (some fill)) :
    ∃ bar bid ask, broker.marketView order.symbol = some (bar, bid, ask) ∧
      fill.filled = true ∧
      fill.fillPrice = some (broker.fillModel.takerPrice order bar bid ask) := by
  unfold marketFill at tried
  split at tried
  · cases tried
  · next bar bid ask view =>
      obtain ⟨full, done, cut⟩ := Outcome.map_eq_ok.mp tried
      obtain ⟨filled, priced⟩ := broker.fillModel.fillMarketOrder_eq_ok done
      refine ⟨bar, bid, ask, view, ?_⟩
      cases part with
      | none =>
          cases cut
          exact ⟨filled, priced⟩
      | some quantity =>
          dsimp only at cut
          rw [if_neg (not_le.mpr (partly quantity rfl))] at cut
          cases cut
          exact ⟨filled, priced⟩

theorem marketFill_eq_none {part : Option ℚ}
    (tried : broker.marketFill order part = .ok none) :
    broker.marketView order.symbol = none := by
  unfold marketFill at tried
  split at tried
  · next unseen => exact unseen
  · obtain ⟨full, -, cut⟩ := Outcome.map_eq_ok.mp tried
    split at cut
    · cases cut
    · split at cut
      · cases cut
      · cases cut

theorem iocFill_eq_ok {fill : FillResult}
    (tried : broker.iocFill order = .ok (some fill)) (filled : fill.filled = true) :
    ∃ bar bid ask price, broker.marketView order.symbol = some (bar, bid, ask) ∧
      order.price = some price ∧ fill.fillPrice = some price ∧
      OrderFillModel.isPriceTouched price order.side bar = true := by
  unfold iocFill at tried
  split at tried
  · cases tried
  · next bar bid ask view =>
      obtain ⟨full, done, same⟩ := Outcome.map_eq_ok.mp tried
      cases same
      obtain ⟨price, given, priced, touched⟩ :=
        broker.fillModel.tryFillLimitOrder_eq_ok done filled
      exact ⟨bar, bid, ask, price, view, given, priced, touched⟩

theorem iocFill_eq_none (tried : broker.iocFill order = .ok none) :
    broker.marketView order.symbol = none := by
  unfold iocFill at tried
  split at tried
  · next unseen => exact unseen
  · obtain ⟨full, -, same⟩ := Outcome.map_eq_ok.mp tried
    cases same

end

/-- What placing an order leaves behind. -/
theorem placeOrder_placed (broker : SimulatedBroker) (args : SimulatedOrderArgs)
    (chaos : ChaosOutcome) :
    Placed broker args chaos (broker.placeOrder args chaos)
      (broker.placedFills args chaos) := by
  unfold placeOrder placedFills
  cases given : args.quantity with
  | none => exact .refused _
  | some quantity =>
      dsimp only
      rcases validated : (if args.reduceOnly then .ok ()
        else broker.validateMargin (broker.newOrder args quantity)
          args.leverage : Except SimulationError Unit) with error | ⟨⟩
      · exact .refused error
      · have admitted : args.reduceOnly = true ∨ broker.validateMargin
            (broker.newOrder args quantity) args.leverage = .ok () := by
          split at validated
          · next reduceOnly => exact .inl reduceOnly
          · exact .inr validated
        dsimp only
        unfold routeOrder routedFills
        by_cases market : (broker.newOrder args quantity).type = .market
        · simp only [if_pos market]
          have terms := applyChaosToOrder_terms (broker.newOrder args quantity) chaos
          by_cases refused : (applyChaosToOrder (broker.newOrder args quantity)
              chaos).1.status = .rejected
          · simp only [if_pos refused]
            exact .rejected _ given terms refused
              (applyChaosToOrder_rejected rfl refused)
          · simp only [if_neg refused, executeMarketOrder]
            have part : ∀ some ∈ (applyChaosToOrder
                (broker.newOrder args quantity) chaos).2, 0 < some :=
              fun _ partly => applyChaosToOrder_quantity_pos partly
            rcases tried : broker.marketFill
                (applyChaosToOrder (broker.newOrder args quantity) chaos).1
                (applyChaosToOrder (broker.newOrder args quantity) chaos).2 with
              error | _ | fill
            · exact .refused error
            · have passed : chaos ≠ .rejected := by
                rintro rfl
                exact refused rfl
              refine .unpriced _ given terms (.inl ⟨market, passed⟩) admitted ?_
              exact (congrArg broker.marketView terms.symbol).symm.trans
                (marketFill_eq_none tried)
            · obtain ⟨bar, bid, ask, view, filled, priced⟩ :=
                marketFill_eq_ok part tried
              exact .processed _ fill bar given terms view filled priced
                (.market (terms.type.trans market) rfl)
        · simp only [if_neg market]
          by_cases ioc : (broker.newOrder args quantity).type = .limit ∧
              (broker.newOrder args quantity).tif = .ioc
          · simp only [if_pos ioc, executeIocLimitOrder]
            rcases tried : broker.iocFill (broker.newOrder args quantity) with
              error | _ | fill
            · exact .refused error
            · exact .unpriced _ given (.refl _) (.inr ioc) admitted
                (iocFill_eq_none tried)
            · dsimp only
              by_cases filled : fill.filled = true
              · rw [if_pos filled, if_pos filled]
                obtain ⟨bar, bid, ask, price, view, limit, priced, touched⟩ :=
                  iocFill_eq_ok tried filled
                exact .processed _ fill bar given (.refl _) view filled priced
                  (.limit ioc.1 limit touched)
              · rw [if_neg filled, if_neg filled]
                exact .cancelled given
          · simp only [if_neg ioc]
            exact .submitted given

/-! ## Checking a pending order -/

/-- Everything that checking a pending order at a bar can do. -/
inductive Checked (broker : SimulatedBroker) (bar : PriceBar) (quote : MarketQuote)
    (chaos : ChaosOutcome) (entry : String × SimulatedOrder) :
    Except SimulationError Unit × SimulatedBroker → List ProcessedFill → Prop
  | rejected (status : (applyChaosToOrder entry.2 chaos).1.status = .rejected) :
      Checked broker bar quote chaos entry
        (.ok (), ((broker.dropOpenOrder entry.1).rejectInto
          (applyChaosToOrder entry.2 chaos).1 (some bar.ts)).2) []
  | kept (result : Except SimulationError Unit) :
      Checked broker bar quote chaos entry
        (result, broker.setOpenOrder entry.1 (applyChaosToOrder entry.2 chaos).1) []
  | processed {price : ℚ} (fill : FillResult) (filled : fill.filled = true)
      (priced : fill.fillPrice = some price)
      (source : broker.fillModel.Priced (applyChaosToOrder entry.2 chaos).1 bar
        quote.bid quote.ask price) :
      Checked broker bar quote chaos entry
        ((((broker.setOpenOrder entry.1 (applyChaosToOrder entry.2 chaos).1)
            |>.dropOpenOrder entry.1).processFill
              (applyChaosToOrder entry.2 chaos).1 fill none).map
          (fun result => result.map fun _ => ()) id)
        [⟨(broker.setOpenOrder entry.1 (applyChaosToOrder entry.2 chaos).1)
            |>.dropOpenOrder entry.1, (applyChaosToOrder entry.2 chaos).1, fill,
          none⟩]

theorem pendingFill_eq_ok {broker : SimulatedBroker} {order : SimulatedOrder}
    {bar : PriceBar} {quote : MarketQuote} {part : Option ℚ} {fill : FillResult}
    (tried : broker.pendingFill order bar quote part = .ok (some fill)) :
    fill.filled = true ∧ ∃ price, fill.fillPrice = some price ∧
      broker.fillModel.Priced order bar quote.bid quote.ask price := by
  unfold pendingFill at tried
  obtain ⟨maybe, source, cut⟩ := Outcome.map_eq_ok.mp tried
  obtain ⟨full, kept, cut⟩ := Option.map_eq_some_iff.mp cut
  obtain ⟨found, filled⟩ := Option.filter_eq_some_iff.mp kept
  have same : fill.filled = full.filled ∧ fill.fillPrice = full.fillPrice := by
    cases part with
    | none =>
        cases cut
        exact ⟨rfl, rfl⟩
    | some quantity =>
        cases cut
        exact ⟨rfl, rfl⟩
  rw [same.1, same.2]
  refine ⟨filled, ?_⟩
  rw [found] at source
  split at source
  · cases source
  · next limited =>
      obtain ⟨full', done, same⟩ := Outcome.map_eq_ok.mp source
      cases same
      obtain ⟨price, given, priced, touched⟩ :=
        broker.fillModel.tryFillLimitOrder_eq_ok done filled
      exact ⟨price, priced, .limit limited given touched⟩
  · next stopped =>
      obtain ⟨full', done, same⟩ := Outcome.map_eq_ok.mp source
      cases same
      obtain ⟨stop, given, triggered, priced⟩ :=
        broker.fillModel.tryFillStopOrder_eq_ok done filled
      exact ⟨_, priced, .stop (.inl stopped) stop given triggered rfl⟩
  · next stopped =>
      obtain ⟨full', done, same⟩ := Outcome.map_eq_ok.mp source
      cases same
      obtain ⟨stop, given, triggered, priced⟩ :=
        broker.fillModel.tryFillStopOrder_eq_ok done filled
      exact ⟨_, priced, .stop (.inr stopped) stop given triggered rfl⟩

theorem checkPendingOrder_checked (broker : SimulatedBroker) (bar : PriceBar)
    (quote : MarketQuote) (chaos : String → ChaosOutcome)
    (entry : String × SimulatedOrder) :
    Checked broker bar quote (chaos entry.1) entry
      (broker.checkPendingOrder bar quote chaos entry)
      (broker.pendingOrderFills bar quote chaos entry) := by
  unfold checkPendingOrder pendingOrderFills
  dsimp only
  by_cases refused : chaos entry.1 ≠ .disabled ∧
      (applyChaosToOrder entry.2 (chaos entry.1)).1.status = .rejected
  · rw [if_pos refused, if_pos refused]
    exact .rejected refused.2
  · rw [if_neg refused, if_neg refused]
    rcases tried : (broker.setOpenOrder entry.1
        (applyChaosToOrder entry.2 (chaos entry.1)).1).pendingFill
          (applyChaosToOrder entry.2 (chaos entry.1)).1 bar quote
          (applyChaosToOrder entry.2 (chaos entry.1)).2 with error | _ | fill
    · exact .kept _
    · exact .kept _
    · obtain ⟨filled, price, priced, source⟩ := pendingFill_eq_ok tried
      exact .processed fill filled priced source

theorem Checked.market {broker : SimulatedBroker} {bar : PriceBar}
    {quote : MarketQuote} {chaos : ChaosOutcome} {entry : String × SimulatedOrder}
    {result : Except SimulationError Unit × SimulatedBroker}
    {fills : List ProcessedFill}
    (checked : Checked broker bar quote chaos entry result fills) :
    result.2.market = broker.market := by
  cases checked with
  | rejected status => rfl
  | kept result => rfl
  | processed fill filled priced source =>
      exact (processFill_processed _ _ none filled priced).market

end SimulatedBroker

/-! ## The fills of a run -/

namespace ProcessedFill

/-- The fill is filled, at a price that the fill model made of the bar and the quote
the broker had. -/
def Made (processed : ProcessedFill) : Prop :=
  ∃ bar bid ask price,
    processed.broker.marketView processed.order.symbol = some (bar, bid, ask) ∧
      processed.fill.filled = true ∧ processed.fill.fillPrice = some price ∧
      processed.broker.fillModel.Priced processed.order bar bid ask price

end ProcessedFill

namespace SimulatedBroker

theorem markBar_market (broker : SimulatedBroker) (symbol : String)
    (bar : PriceBar) :
    (broker.markBar symbol bar).market =
      { bars := broker.currentBar.set symbol bar
        quotes := broker.currentQuote.set symbol (synthesizedQuote bar)
        fillModel := broker.fillModel } := by
  unfold markBar updatePositionMarks
  dsimp only
  split
  · rfl
  · rfl

theorem pendingFills_made {symbol : String} (bar : PriceBar) (quote : MarketQuote)
    (chaos : String → ChaosOutcome) (entries : List (String × SimulatedOrder))
    (own : ∀ entry ∈ entries, entry.2.symbol = symbol) (broker : SimulatedBroker)
    (barred : broker.currentBar.get? symbol = some bar)
    (quoted : broker.currentQuote.get? symbol = some quote) :
    ∀ processed ∈ pendingFills bar quote chaos broker entries,
      processed.Made := by
  induction entries generalizing broker with
  | nil =>
      intro processed member
      cases member
  | cons entry rest induction =>
      intro processed member
      have checked := checkPendingOrder_checked broker bar quote chaos entry
      unfold pendingFills at member
      rcases List.mem_append.mp member with first | later
      · generalize broker.checkPendingOrder bar quote chaos entry = result at checked
        generalize broker.pendingOrderFills bar quote chaos entry = fills
          at checked first
        cases checked with
        | rejected status => cases first
        | kept result => cases first
        | @processed price fill filled priced source =>
            obtain rfl := List.mem_singleton.mp first
            have symbol_eq := (applyChaosToOrder_terms entry.2
              (chaos entry.1)).symbol.trans (own entry (by simp))
            refine ⟨bar, quote.bid, quote.ask, price, ?_, filled, priced, source⟩
            dsimp only
            rw [symbol_eq]
            unfold marketView setOpenOrder dropOpenOrder
            dsimp only
            rw [barred, quoted]
      · have market := checked.market
        rcases result : broker.checkPendingOrder bar quote chaos entry with
          ⟨error | ⟨⟩, after⟩
        · rw [result] at later
          cases later
        · rw [result] at later market
          have barsKept := congrArg Market.bars market
          have quotesKept := congrArg Market.quotes market
          refine induction ?_ after ?_ ?_ processed later
          · intro other listed
            exact own other (by simp [listed])
          · exact (congrArg (Dict.get? · symbol) barsKept).trans barred
          · exact (congrArg (Dict.get? · symbol) quotesKept).trans quoted

theorem fillsOf_made (broker : SimulatedBroker) (call : BrokerCall) :
    ∀ processed ∈ broker.fillsOf call, processed.Made := by
  cases call with
  | place args chaos =>
      intro processed member
      have placed := placeOrder_placed broker args chaos
      change processed ∈ broker.placedFills args chaos at member
      generalize broker.placeOrder args chaos = result at placed
      generalize broker.placedFills args chaos = fills at placed member
      cases placed with
      | refused error => cases member
      | rejected order given terms status unfilled => cases member
      | unpriced order given terms atOnce admitted unseen => cases member
      | cancelled given => cases member
      | submitted given => cases member
      | processed order fill bar given terms view filled priced source =>
          obtain rfl := List.mem_singleton.mp member
          exact ⟨bar, _, _, _, view, filled, priced, source⟩
  | cancel orderId =>
      intro processed member
      cases member
  | bar symbol bar chaos =>
      have market := markBar_market broker symbol bar
      have bars := congrArg Market.bars market
      have quotes := congrArg Market.quotes market
      have own : ∀ entry ∈ (broker.markBar symbol bar).ordersToProcess symbol,
          entry.2.symbol = symbol := by
        intro entry listed
        exact of_decide_eq_true (List.mem_filter.mp listed).2
      apply pendingFills_made _ _ _ _ own
      · exact (congrArg (Dict.get? · symbol) bars).trans (Dict.get?_set_self _ _ _)
      · exact (congrArg (Dict.get? · symbol) quotes).trans (Dict.get?_set_self _ _ _)

theorem runFills_made (broker : SimulatedBroker) (calls : List BrokerCall) :
    ∀ processed ∈ broker.runFills calls, processed.Made := by
  induction calls generalizing broker with
  | nil =>
      intro processed member
      cases member
  | cons call calls induction =>
      intro processed member
      unfold runFills at member
      rcases List.mem_append.mp member with first | later
      · exact fillsOf_made broker call processed first
      · exact induction _ processed later

end SimulatedBroker

/-! ## Reduce-only orders

`place_order` reads the reduce-only flag to leave out the margin check, and no order
keeps it.  Such an order fills as any other: it reduces where the position it meets is
on the other side and no smaller than the fill. -/

namespace ProcessedFill

variable (processed : ProcessedFill)

def heldBefore : Option Holding :=
  processed.broker.holding processed.order.symbol

def heldAfter : Option Holding :=
  processed.after.holding processed.order.symbol

/-- The fill reduces the position it meets. -/
def ReducesPosition : Prop :=
  Holding.Reduces processed.heldBefore processed.heldAfter

/-- The fill does not turn the position around. -/
def FitsPosition : Prop :=
  Holding.Fits processed.heldBefore processed.side processed.quantity

theorem Made.reducesPosition_iff {processed : ProcessedFill}
    (made : processed.Made) :
    processed.ReducesPosition ↔ processed.FitsPosition := by
  obtain ⟨bar, bid, ask, price, -, filled, priced, -⟩ := made
  have held := (SimulatedBroker.processFill_processed processed.broker
    processed.order processed.leverage filled priced).held
  change processed.heldAfter = Holding.after processed.heldBefore processed.side
    processed.quantity at held
  unfold ReducesPosition
  rw [held]
  exact Holding.reduces_after_iff _ _ _

end ProcessedFill

/-- The order was placed as reduce-only. -/
def PlacedReduceOnly (calls : List BrokerCall) (id : String) : Prop :=
  ∃ args chaos, BrokerCall.place args chaos ∈ calls ∧
    args.reduceOnly = true ∧ args.id = id

/-- In any run the reduce-only orders only reduce exactly when each of their fills goes
against a position that is no smaller. -/
theorem reduce_only_orders_reduce_iff (broker : SimulatedBroker)
    (reduceOnly : String → Prop) (calls : List BrokerCall) :
    (∀ processed ∈ broker.runFills calls,
        reduceOnly processed.order.id ∨
          PlacedReduceOnly calls processed.order.id →
        processed.ReducesPosition) ↔
      ∀ processed ∈ broker.runFills calls,
        reduceOnly processed.order.id ∨
          PlacedReduceOnly calls processed.order.id →
        processed.FitsPosition := by
  have made := SimulatedBroker.runFills_made broker calls
  constructor
  · intro reduces processed member placed
    exact (made processed member).reducesPosition_iff.mp
      (reduces processed member placed)
  · intro fits processed member placed
    exact (made processed member).reducesPosition_iff.mpr
      (fits processed member placed)

def reduceOnlySale : SimulatedOrderArgs :=
  { id := "exit"
    symbol := "COIN"
    side := .sell
    type := .market
    quantity := some 1
    price := none
    stopPrice := none
    clientId := none
    reduceOnly := true
    leverage := none
    tif := .gtc }

/-- A reduce-only sale without a position opens a short one, and a second one makes
it larger. -/
theorem reduce_only_sale_opens :
    let start := SimulatedBroker.fresh 1000 .tier7 plainFills
    let calls := [coinBar, .place reduceOnlySale .disabled,
      .place { reduceOnlySale with id := "again" } .disabled]
    (start.run calls).holding "COIN" = some ⟨.short, -2⟩ ∧
      ¬∀ processed ∈ start.runFills calls,
        PlacedReduceOnly calls processed.order.id →
          processed.ReducesPosition := by
  intro start calls
  refine ⟨by decide +kernel, ?_⟩
  intro reduces
  have placed : PlacedReduceOnly calls "exit" :=
    ⟨reduceOnlySale, .disabled, by simp [calls], rfl, rfl⟩
  have opening : ∃ processed ∈ start.runFills calls,
      processed.order.id = "exit" ∧ processed.heldBefore = none ∧
        processed.heldAfter = some ⟨.short, -1⟩ := by
    decide +kernel
  obtain ⟨processed, member, id, before, after⟩ := opening
  have reduced := reduces processed member (id ▸ placed)
  unfold ProcessedFill.ReducesPosition at reduced
  rw [before, after] at reduced
  obtain ⟨old, held, -⟩ := reduced _ rfl
  cases held

end GptTrader
