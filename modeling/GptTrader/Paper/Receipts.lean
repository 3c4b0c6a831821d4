import GptTrader.LiveTrade.SubmissionSessions
import GptTrader.Paper.HybridBroker
import GptTrader.Persistence.OrderRuns

/-!
# Paper orders as receipts of their intents

The paper broker builds its orders by hand: rejected ones with a client
identifier and a type of their own, reduced ones with what was left to sell.
An order passes the receipt check of its intent exactly when it was filled as
asked for, at a positive price, or when its identity happens to be that of the
rejection.
-/

namespace GptTrader

namespace OrderIntent

variable (intent : OrderIntent)

theorem quantityAgrees_finite (quantity : ℚ) (value : Unit) :
    intent.quantityAgrees (some (.finite quantity)) = .ok value ↔
      quantity = intent.quantity := by
  unfold quantityAgrees
  simp [Decimal.eq, agrees]

theorem fillAgrees_finite (isFilled : Bool) (filled : ℚ) (value : Unit) :
    intent.fillAgrees isFilled (some (.finite filled)) = .ok value ↔
      0 ≤ filled ∧ filled ≤ intent.quantity ∧
        (isFilled = true → filled = intent.quantity) := by
  unfold fillAgrees
  simp [not_or]

theorem fillPriceAgrees_finite (price : Option ℚ) :
    fillPriceAgrees (price.map .finite) = .ok () ↔
      ∀ value ∈ price, 0 < value := by
  cases price <;> simp [fillPriceAgrees]

variable {formats : TextFormats} {order : PaperOrder} {clientId : String}

theorem validateReceipt_paper (maps : formats.MapsAscii)
    (named : order.clientId = some clientId) :
    intent.validateReceipt formats order.observed = .ok () ↔
      (clientId = "" ∨ clientId = intent.clientOrderId) ∧
        order.symbol = intent.symbol ∧
        order.side = intent.side ∧
        order.type = intent.orderType ∧
        order.quantity = intent.quantity ∧
        (0 ≤ order.filledQuantity ∧ order.filledQuantity ≤ intent.quantity ∧
          (order.status = .filled → order.filledQuantity = intent.quantity)) ∧
        ∀ price ∈ order.avgFillPrice, 0 < price := by
  have side : formats.upper order.side.value = intent.side.value ↔
      order.side = intent.side := by
    rw [maps.upper_side]
    exact OrderSide.value_injective.eq_iff
  have type : formats.upper order.type.value = intent.orderType.value ↔
      order.type = intent.orderType := by
    rw [maps.upper_type]
    exact OrderType.value_injective.eq_iff
  have filled : formats.upper order.status.value = "FILLED" ↔
      order.status = .filled := by
    rw [maps.upper_status]
    cases order.status <;> decide
  unfold validateReceipt PaperOrder.observed
  simp only [Outcome.bind_eq_ok, agrees_eq_ok, named, Option.all_some,
    Option.all_none, Option.any_some, decide_eq_true_eq, side, type,
    quantityAgrees_finite, fillAgrees_finite, fillPriceAgrees_finite, filled,
    exists_const, true_and]

end OrderIntent

namespace HybridPaperBroker

variable (context : DecimalContext) (formats : TextFormats)
variable (broker : HybridPaperBroker) (intent : OrderIntent)

/-- The last price, else the quote. -/
def priceOf (symbol : String) (quoted : Option ℚ) : Option ℚ :=
  (broker.lastPrices.get? symbol).or quoted

/-- The balance covers the order. -/
def Covers (price : ℚ) : Prop :=
  match intent.side with
  | .buy =>
      let notional := context.mul price intent.quantity
      context.add notional (broker.commission context notional) ≤
        (broker.balanceOf (quoteAsset formats intent.symbol)).available
  | .sell =>
      intent.quantity ≤
        (broker.balanceOf (baseAsset formats intent.symbol)).available

def Refuses (price : ℚ) : Prop :=
  match intent.side with
  | .buy => ¬broker.Covers context formats intent price
  | .sell =>
      let available :=
        (broker.balanceOf (baseAsset formats intent.symbol)).available
      available ≤ 0 ∨ (available < intent.quantity ∧ intent.reduceOnly = false)

/-- The intent is that of a rejection: a market order under the identifier the
broker gives next. -/
def Anonymous : Prop :=
  intent.clientOrderId = broker.orderId (broker.orderCounter + 1) ∧
    intent.orderType = .market

/-- The call returns a receipt of the intent. -/
def ReturnsReceipt (quoted : Option ℚ) (now : DateTime) : Prop :=
  ∃ order,
    (broker.placeOrder context formats intent.brokerKwargs quoted now).1 =
      .ok order ∧
    intent.validateReceipt formats order.observed = .ok ()

/-- The order is filled as asked. -/
def FillsAsAsked (quoted : Option ℚ) : Prop :=
  match broker.priceOf intent.symbol quoted with
  | none => broker.Anonymous intent
  | some current =>
      ∃ price, broker.fillPrice context intent.side intent.orderType
          intent.price current = .ok price ∧
        ((0 < price ∧ broker.Covers context formats intent price) ∨
          (broker.Refuses context formats intent price ∧
            broker.Anonymous intent))

section Receipts

variable {context : DecimalContext} {formats : TextFormats}
variable {broker : HybridPaperBroker} {intent : OrderIntent}

theorem orderId_ne_empty (counter : ℕ) : broker.orderId counter ≠ "" := by
  intro empty
  have letters := congrArg String.toList empty
  unfold orderId at letters
  rw [String.toList_append, String.toList_append, String.toList_append]
    at letters
  simp at letters

theorem rejected_receipt (intent : OrderIntent) (maps : formats.MapsAscii)
    (counter : ℕ) (now : DateTime) :
    intent.validateReceipt formats
        (rejectedOrder (broker.orderId counter) intent.symbol intent.side
          intent.quantity now).observed = .ok () ↔
      intent.clientOrderId = broker.orderId counter ∧
        intent.orderType = .market := by
  rw [intent.validateReceipt_paper maps rfl]
  unfold rejectedOrder
  have named := broker.orderId_ne_empty counter
  have positive := intent.positive.le
  constructor
  · rintro ⟨client, _, _, type, _⟩
    exact ⟨(client.resolve_left named).symm, type.symm⟩
  · rintro ⟨client, type⟩
    exact ⟨.inr client.symm, rfl, rfl, type.symm, rfl,
      ⟨le_rfl, positive, by rintro ⟨⟩⟩, by rintro _ ⟨⟩⟩

theorem filled_receipt (maps : formats.MapsAscii) (orderId : String)
    (quantity price : ℚ) (now : DateTime) :
    intent.validateReceipt formats
        (broker.fillOrder context formats orderId intent.brokerKwargs
          intent.symbol intent.side intent.orderType quantity price
          now).1.observed = .ok () ↔
      quantity = intent.quantity ∧ 0 < price := by
  rw [intent.validateReceipt_paper maps rfl]
  unfold fillOrder
  constructor
  · rintro ⟨_, _, _, _, whole, _, priced⟩
    exact ⟨whole, priced price rfl⟩
  · rintro ⟨rfl, priced⟩
    exact ⟨.inr rfl, rfl, rfl, rfl, rfl,
      ⟨intent.positive.le, le_rfl, fun _ => rfl⟩, by
        rintro _ ⟨⟩
        exact priced⟩

theorem acceptedQuantity_cases (context : DecimalContext)
    (formats : TextFormats) (intent : OrderIntent) (price : ℚ) :
    (broker.acceptedQuantity context formats intent.symbol intent.side
        intent.quantity price intent.reduceOnly = some intent.quantity ∧
      broker.Covers context formats intent price ∧
      ¬broker.Refuses context formats intent price) ∨
    (broker.acceptedQuantity context formats intent.symbol intent.side
        intent.quantity price intent.reduceOnly = none ∧
      ¬broker.Covers context formats intent price ∧
      broker.Refuses context formats intent price) ∨
    ∃ reduced, broker.acceptedQuantity context formats intent.symbol intent.side
        intent.quantity price intent.reduceOnly = some reduced ∧
      reduced < intent.quantity ∧
      ¬broker.Covers context formats intent price ∧
      ¬broker.Refuses context formats intent price := by
  have positive := intent.positive
  unfold acceptedQuantity Refuses Covers
  cases intent.side with
  | buy =>
      dsimp only
      split
      · next less => exact .inr (.inl ⟨rfl, less.not_ge, less.not_ge⟩)
      · next covered =>
          exact .inl ⟨rfl, not_lt.mp covered, not_not.mpr (not_lt.mp covered)⟩
  | sell =>
      dsimp only
      generalize (broker.balanceOf
        (baseAsset formats intent.symbol)).available = available
      split
      · next empty =>
          exact .inr (.inl ⟨rfl, (empty.trans_lt positive).not_ge, .inl empty⟩)
      · next held =>
          split
          · next less =>
              cases intent.reduceOnly with
              | true =>
                  refine .inr (.inr ⟨available, rfl, less, less.not_ge, ?_⟩)
                  rintro (empty | ⟨_, ⟨⟩⟩)
                  exact held empty
              | false => exact .inr (.inl ⟨rfl, less.not_ge, .inr ⟨less, rfl⟩⟩)
          · next covered =>
              refine .inl ⟨rfl, not_lt.mp covered, ?_⟩
              rintro (empty | ⟨less, _⟩)
              · exact held empty
              · exact covered less

theorem getCurrentPrice_eq (symbol : String) (quoted : Option ℚ) :
    ∃ lastPrices, broker.getCurrentPrice symbol quoted =
      (broker.priceOf symbol quoted,
        { broker with lastPrices := lastPrices }) := by
  unfold getCurrentPrice priceOf getQuote
  cases broker.lastPrices.get? symbol with
  | some price => exact ⟨_, rfl⟩
  | none =>
      cases quoted with
      | none => exact ⟨_, rfl⟩
      | some price => exact ⟨_, rfl⟩

/-- What is left of the order of an intent once its price is known. -/
def placedIntent (context : DecimalContext) (formats : TextFormats)
    (broker : HybridPaperBroker) (intent : OrderIntent) (orderId : String)
    (quoted : Option ℚ) (now : DateTime) : Except PaperBrokerError PaperOrder :=
  match broker.priceOf intent.symbol quoted with
  | none =>
      .ok (rejectedOrder orderId intent.symbol intent.side intent.quantity
        now)
  | some current =>
      match broker.fillPrice context intent.side intent.orderType
          intent.price current with
      | .error error => .error error
      | .ok price =>
          match broker.acceptedQuantity context formats intent.symbol
              intent.side intent.quantity price intent.reduceOnly with
          | none =>
              .ok (rejectedOrder orderId intent.symbol intent.side
                intent.quantity now)
          | some accepted =>
              .ok (broker.fillOrder context formats orderId
                intent.brokerKwargs intent.symbol intent.side
                intent.orderType accepted price now).1

theorem placeParsed_fst (orderId : String) (quoted : Option ℚ)
    (now : DateTime) :
    (broker.placeParsed context formats orderId intent.brokerKwargs
        intent.symbol intent.side intent.orderType (some intent.quantity)
        intent.price quoted now).1 =
      broker.placedIntent context formats intent orderId quoted now := by
  unfold placeParsed placedIntent
  obtain ⟨lastPrices, priced⟩ :=
    broker.getCurrentPrice_eq intent.symbol quoted
  rw [priced]
  have positive := intent.positive
  cases broker.priceOf intent.symbol quoted with
  | none => rfl
  | some current =>
      dsimp only
      have samePrice : { broker with lastPrices := lastPrices }.fillPrice
          context intent.side intent.orderType intent.price current =
        broker.fillPrice context intent.side intent.orderType intent.price
          current := rfl
      have asked : orMinimum (some intent.quantity) = intent.quantity :=
        if_neg positive.ne'
      rw [samePrice, asked]
      cases broker.fillPrice context intent.side intent.orderType intent.price
        current with
      | error error => rfl
      | ok price =>
          dsimp only
          have sameChecks :
              { broker with lastPrices := lastPrices }.acceptedQuantity context
                formats intent.symbol intent.side intent.quantity price
                intent.brokerKwargs.reduceOnly =
              broker.acceptedQuantity context formats intent.symbol intent.side
                intent.quantity price intent.reduceOnly := rfl
          rw [if_neg positive.not_ge, sameChecks]
          cases broker.acceptedQuantity context formats intent.symbol
            intent.side intent.quantity price intent.reduceOnly <;> rfl

theorem placeOrder_fst (quoted : Option ℚ) (now : DateTime) :
    (broker.placeOrder context formats intent.brokerKwargs quoted now).1 =
      broker.placedIntent context formats intent
        (broker.orderId (broker.orderCounter + 1)) quoted now :=
  { broker with orderCounter := broker.orderCounter + 1 }.placeParsed_fst _
    quoted now

/-- A receipt is returned exactly when the fill is as asked. -/
theorem returnsReceipt_iff (context : DecimalContext)
    (broker : HybridPaperBroker) (intent : OrderIntent)
    (maps : formats.MapsAscii) (quoted : Option ℚ) (now : DateTime) :
    broker.ReturnsReceipt context formats intent quoted now ↔
      broker.FillsAsAsked context formats intent quoted := by
  have rejected := broker.rejected_receipt intent maps
    (broker.orderCounter + 1) now
  unfold ReturnsReceipt FillsAsAsked
  rw [placeOrder_fst]
  unfold placedIntent
  cases broker.priceOf intent.symbol quoted with
  | none =>
      simp only [Except.ok.injEq, exists_eq_left']
      exact rejected
  | some current =>
      dsimp only
      cases broker.fillPrice context intent.side intent.orderType intent.price
        current with
      | error error => simp
      | ok price =>
          simp only [Except.ok.injEq, exists_eq_left']
          rcases broker.acceptedQuantity_cases context formats intent price with
            ⟨accepted, covered, notRefused⟩ |
            ⟨accepted, notCovered, refused⟩ |
            ⟨reduced, accepted, less, notCovered, notRefused⟩
          · rw [accepted]
            simp only [Except.ok.injEq, exists_eq_left']
            rw [filled_receipt maps]
            simp [covered, notRefused]
          · rw [accepted]
            simp only [Except.ok.injEq, exists_eq_left']
            rw [rejected]
            simp [notCovered, refused, Anonymous]
          · rw [accepted]
            simp only [Except.ok.injEq, exists_eq_left']
            rw [filled_receipt maps]
            simp [notCovered, notRefused, less.ne]

end Receipts

end HybridPaperBroker

/-! ## What the submission makes of them -/

namespace OrderSubmitter

variable (context : OrdersContext) (submitter : OrderSubmitter)
variable (request : SubmissionRequest) (moment : DateTime) (submitId : String)
variable (intent : OrderIntent)

def Performs {α : Type} : SubmissionTx α → Prop
  | .done _ => False
  | .perform _ _ => True

/-- The attempt that placed the order ends the submission as uncertain on this
reply; nothing is written of the order and its row is left as reserved. -/
def LeavesPending (left : ℕ) (reported : BrokerOrder) : Prop :=
  ∃ next message,
    submitter.attempts context request moment submitId intent (left + 1) =
      .perform (.place intent) next ∧
    next (.returned (some reported)) = .done (.ok (.uncertain message))

variable {context submitter request moment submitId intent}

theorem performs_getExistingRecord (stored : submitter.storeInitialized = true) :
    Performs (submitter.getExistingRecord context submitId) := by
  unfold getExistingRecord
  rw [if_pos stored]
  trivial

theorem performs_andThen {α β : Type} {body : SubmissionTx α}
    (performs : Performs body)
    (next : Except SubmissionError α → SubmissionTx β) :
    Performs (body.andThen next) := by
  cases body with
  | done outcome => exact performs.elim
  | perform op rest => trivial

theorem performs_bind {α β : Type} {body : SubmissionTx α}
    (performs : Performs body) (next : α → SubmissionTx β) :
    Performs (body >>= next) :=
  performs_andThen performs _

theorem performs_handleOrderResult (maps : context.formats.MapsAscii)
    (stored : submitter.storeInitialized = true) (order : BrokerOrder) :
    Performs (submitter.handleOrderResult context request moment submitId
      (some order)) := by
  have existing : Performs (submitter.getExistingRecord context submitId) :=
    performs_getExistingRecord stored
  unfold handleOrderResult
  split
  · exact performs_bind (performs_bind existing _) _
  · next placed _ =>
      rw [maps.store_status]
      change Performs (if _ then _ else _)
      split
      · exact performs_bind (performs_bind existing _) _
      · exact performs_bind (performs_bind existing _) _

def afterReply (context : OrdersContext) (submitter : OrderSubmitter)
    (request : SubmissionRequest) (moment : DateTime) (submitId : String)
    (intent : OrderIntent) (reported : BrokerOrder) :
    SubmissionTx SubmissionOutcome := do
  validateReceipt context (some reported) intent
  let result ← submitter.handleOrderResult context request moment submitId
    (some reported)
  match result with
  | some orderId => pure (.success orderId)
  | none => pure .brokerRejected

/-- An attempt goes on with the reply, and then with a handler that reports a
receipt conflict as an uncertain outcome. -/
theorem attempts_succ (context : OrdersContext) (submitter : OrderSubmitter)
    (request : SubmissionRequest) (moment : DateTime) (submitId : String)
    (intent : OrderIntent) (left : ℕ) :
    ∃ next handler,
      submitter.attempts context request moment submitId intent (left + 1) =
        .perform (.place intent) next ∧
      (∀ reported, next (.returned (some reported)) =
        (afterReply context submitter request moment submitId intent
          reported).handle handler) ∧
      ∀ message, handler (.receiptConflict message) =
        .done (.ok (.uncertain message)) :=
  ⟨_, _, rfl, fun _ => rfl, fun _ => rfl⟩

theorem leavesPending_iff (maps : context.formats.MapsAscii)
    (stored : submitter.storeInitialized = true) (left : ℕ)
    (reported : BrokerOrder) :
    LeavesPending context submitter request moment submitId intent left
        reported ↔
      intent.validateReceipt context.formats reported.observed ≠ .ok () := by
  obtain ⟨next, handler, placed, continues, conflict⟩ :=
    attempts_succ context submitter request moment submitId intent left
  unfold LeavesPending
  rw [placed]
  constructor
  · rintro ⟨_, message, ⟨⟩, ended⟩ receipt
    rw [continues] at ended
    have performs : Performs ((afterReply context submitter request moment
        submitId intent reported).handle handler) := by
      refine performs_andThen ?_ _
      unfold afterReply validateReceipt
      dsimp only
      rw [receipt]
      exact performs_bind (performs_handleOrderResult maps stored reported) _
    rw [ended] at performs
    exact performs
  · intro refused
    cases checked : intent.validateReceipt context.formats
      reported.observed with
    | ok value => exact absurd checked refused
    | error error =>
        refine ⟨next, error.message, rfl, ?_⟩
        rw [continues]
        unfold afterReply validateReceipt
        dsimp only
        rw [checked]
        exact conflict _

end OrderSubmitter

/-- The broker returns a receipt of an intent exactly when it fills it as asked
for, or rejects an intent that looks like the rejection. -/
theorem paper_receipts_iff (context : DecimalContext) (orders : OrdersContext)
    (maps : orders.formats.MapsAscii) (broker : HybridPaperBroker)
    (intent : OrderIntent) (quoted : Option ℚ) (now : DateTime) :
    (broker.ReturnsReceipt context orders.formats intent quoted now ↔
      broker.FillsAsAsked context orders.formats intent quoted) ∧
    ∀ order,
      (broker.placeOrder context orders.formats intent.brokerKwargs quoted
        now).1 = .ok order →
      ∀ reported : BrokerOrder, reported.observed = order.observed →
        ∀ submitter : OrderSubmitter, submitter.storeInitialized = true →
          ∀ request moment submitId left,
            OrderSubmitter.LeavesPending orders submitter request moment
                submitId intent left reported ↔
              ¬broker.FillsAsAsked context orders.formats intent quoted := by
  have receipts := HybridPaperBroker.returnsReceipt_iff context broker intent
    maps quoted now
  refine ⟨receipts, ?_⟩
  intro order placed reported observed submitter stored request moment submitId
    left
  rw [OrderSubmitter.leavesPending_iff maps stored, ← receipts, observed]
  unfold HybridPaperBroker.ReturnsReceipt
  rw [placed]
  simp

section Examples

def coinPurchase : OrderIntent :=
  { clientOrderId := "c-1"
    symbol := "BTC-USD"
    side := .buy
    orderType := .market
    quantity := 1
    price := none
    stopPrice := none
    tif := .str "GTC"
    reduceOnly := false
    leverage := .null
    positionOperation := none
    identified := by decide +kernel
    positive := by norm_num
    reducing := OrderIntent.unreduced
    pricesPositive := OrderIntent.unpriced }

def thousandDollars : HybridPaperBroker :=
  .fresh "1a2b3c4d" 1000 5 5

/-- A purchase at the quote returns its receipt. -/
theorem coin_purchase_is_receipt :
    thousandDollars.ReturnsReceipt .defaultContext plainContext.formats
      coinPurchase (some 100) (.utc 0) := by
  refine (paper_receipts_iff .defaultContext plainContext
    ⟨fun _ _ => rfl, fun _ _ => rfl⟩ thousandDollars coinPurchase (some 100)
    (.utc 0)).1.mpr ?_
  have covered : (0 : ℚ) < 100.05 ∧
      thousandDollars.Covers .defaultContext plainContext.formats coinPurchase
        100.05 := by
    unfold HybridPaperBroker.Covers
    dsimp only [coinPurchase]
    decide +kernel
  exact ⟨100.05, by decide +kernel, .inl covered⟩

/-- Without a price the purchase is rejected under the broker's own
identifier. -/
theorem unpriced_purchase_is_no_receipt :
    ¬thousandDollars.ReturnsReceipt .defaultContext plainContext.formats
      coinPurchase none (.utc 0) := by
  rintro ⟨order, placed, receipt⟩
  cases placed
  exact absurd receipt (by decide +kernel)

end Examples

end GptTrader
