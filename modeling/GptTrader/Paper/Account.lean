import GptTrader.Paper.HybridBroker
import GptTrader.Python.DecimalRounding

/-!
# The paper account over a run

Placing, cancelling and price requests from a fresh account.  A filled order
moves its base and its quote, and adds to or takes from the position of its
symbol; nothing else moves either.
-/

namespace GptTrader

/-- A call of the broker; what a quote request would answer is given. -/
inductive PaperCall where
  | place (args : PlaceOrderArgs) (quoted : Option ℚ) (now : DateTime)
  | cancel (orderId : String)
  | quote (symbol : String) (quoted : Option ℚ)

/-! ## What a filled order moves -/

/-- The quantity held after a fill. -/
def heldAfterFill (side : OrderSide) (quantity held : ℚ) : ℚ :=
  match side with
  | .buy => held + quantity
  | .sell => held - min held quantity

namespace PaperOrder

variable (context : DecimalContext) (formats : TextFormats) (bps : ℚ)
variable (order : PaperOrder)

def notional : ℚ :=
  context.mul (order.avgFillPrice.getD 0) order.filledQuantity

def fee : ℚ :=
  context.div (context.mul (order.notional context) bps) 10000

/-- The assets a fill moves, with the amounts. -/
def movements : List (String × ℚ) :=
  let base := HybridPaperBroker.baseAsset formats order.symbol
  let quote := HybridPaperBroker.quoteAsset formats order.symbol
  match order.side with
  | .buy =>
      [(quote, context.neg (context.add (order.notional context)
          (order.fee context bps))),
        (base, order.filledQuantity)]
  | .sell =>
      [(base, context.neg order.filledQuantity),
        (quote, context.sub (order.notional context) (order.fee context bps))]

/-- What the order moves of an asset, exactly: its signed base and quote
amounts, less the commission. -/
def signedAmount (asset : String) : ℚ :=
  let base := HybridPaperBroker.baseAsset formats order.symbol
  let quote := HybridPaperBroker.quoteAsset formats order.symbol
  let sign : ℚ := match order.side with | .buy => 1 | .sell => -1
  (if base = asset then sign * order.filledQuantity else 0) +
    (if quote = asset then
      -sign * order.notional .exact - order.fee .exact bps
    else 0)

def heldAfter (symbol : String) (held : ℚ) : ℚ :=
  if order.symbol = symbol then
    heldAfterFill order.side order.filledQuantity held
  else held

end PaperOrder

def movementsOf (asset : String) (movements : List (String × ℚ)) : List ℚ :=
  (movements.filter fun movement => decide (movement.1 = asset)).map Prod.snd

/-- The quantity the fills leave. -/
def heldOf (symbol : String) (fills : List PaperOrder) : ℚ :=
  fills.foldl (fun held order => order.heldAfter symbol held) 0

/-- Nothing is sold that is not held. -/
def SalesCovered (fills : List PaperOrder) : Prop :=
  ∀ earlier order later, fills = earlier ++ order :: later →
    order.side = .sell → order.filledQuantity ≤ heldOf order.symbol earlier

namespace HybridPaperBroker

variable (context : DecimalContext) (formats : TextFormats)

def perform (broker : HybridPaperBroker) :
    PaperCall → Option PaperOrder × HybridPaperBroker
  | .place args quoted now =>
      let (result, broker) := broker.placeOrder context formats args quoted now
      (result.toOption, broker)
  | .cancel orderId => (none, (broker.cancelOrder orderId).2)
  | .quote symbol quoted => (none, broker.getQuote symbol quoted)

def run : HybridPaperBroker → List PaperCall →
    List PaperOrder × HybridPaperBroker
  | broker, [] => ([], broker)
  | broker, call :: calls =>
      let (returned, broker) := broker.perform context formats call
      let (orders, broker) := broker.run calls
      (returned.toList ++ orders, broker)

def filledOf (orders : List PaperOrder) : List PaperOrder :=
  orders.filter fun order => decide (order.status = .filled)

/-- The open quantity of an asset. -/
def openQuantity (broker : HybridPaperBroker) (asset : String) : ℚ :=
  broker.positions.sumBy fun symbol position =>
    if baseAsset formats symbol = asset then position.quantity else 0

/-! ## The cases of an order -/

/-- The order is affordable. -/
def Accepts (broker : HybridPaperBroker) (symbol : String) (side : OrderSide)
    (quantity price : ℚ) : Prop :=
  0 < quantity ∧
    match side with
    | .buy =>
        context.add (context.mul price quantity)
            (broker.commission context (context.mul price quantity)) ≤
          (broker.balanceOf (quoteAsset formats symbol)).available
    | .sell =>
        quantity ≤ (broker.balanceOf (baseAsset formats symbol)).available

variable {context : DecimalContext} {formats : TextFormats}
variable {broker : HybridPaperBroker}

theorem accepts_of_acceptedQuantity {symbol : String} {side : OrderSide}
    {quantity price accepted : ℚ} {reduceOnly : Bool}
    (positive : 0 < quantity)
    (checked : broker.acceptedQuantity context formats symbol side quantity
      price reduceOnly = some accepted) :
    broker.Accepts context formats symbol side accepted price := by
  unfold acceptedQuantity at checked
  cases side with
  | buy =>
      dsimp only at checked
      split at checked
      · cases checked
      · next covered =>
          cases checked
          exact ⟨positive, not_lt.mp covered⟩
  | sell =>
      dsimp only at checked
      split at checked
      · cases checked
      · next held =>
          split at checked
          · split at checked
            · cases checked
              exact ⟨not_le.mp held, le_rfl⟩
            · cases checked
          · next covered =>
              cases checked
              exact ⟨positive, not_lt.mp covered⟩

theorem getCurrentPrice_requoted (symbol : String) (quoted : Option ℚ) :
    ∃ lastPrices, (broker.getCurrentPrice symbol quoted).2 =
      { broker with lastPrices := lastPrices } := by
  unfold getCurrentPrice getQuote
  cases broker.lastPrices.get? symbol with
  | some price => exact ⟨_, rfl⟩
  | none => cases quoted <;> exact ⟨_, rfl⟩

/-- The order the account answers with. -/
def Placed (context : DecimalContext) (formats : TextFormats)
    (broker : HybridPaperBroker) (orderId : String)
    (outcome : Except PaperBrokerError PaperOrder × HybridPaperBroker) : Prop :=
  (∃ lastPrices, outcome.2 = { broker with lastPrices := lastPrices } ∧
      ∀ order, outcome.1 = .ok order → order.status = .rejected) ∨
    ∃ lastPrices args symbol side type quantity price now,
      let priced := { broker with lastPrices := lastPrices }
      priced.Accepts context formats symbol side quantity price ∧
        outcome =
          (.ok (priced.fillOrder context formats orderId args symbol side type
              quantity price now).1,
            (priced.fillOrder context formats orderId args symbol side type
              quantity price now).2)

theorem placeParsed_placed (orderId : String) (args : PlaceOrderArgs)
    (symbol : String) (side : OrderSide) (type : OrderType)
    (quantity limit quoted : Option ℚ) (now : DateTime) :
    Placed context formats broker orderId
      (broker.placeParsed context formats orderId args symbol side type quantity
        limit quoted now) := by
  obtain ⟨lastPrices, priced⟩ :=
    broker.getCurrentPrice_requoted symbol quoted
  unfold placeParsed
  generalize broker.getCurrentPrice symbol quoted = current at priced ⊢
  obtain ⟨price, after⟩ := current
  dsimp only at priced ⊢
  subst priced
  cases price with
  | none =>
      refine .inl ⟨lastPrices, rfl, ?_⟩
      rintro order ⟨⟩
      rfl
  | some current =>
      dsimp only
      split
      · refine .inl ⟨lastPrices, rfl, ?_⟩
        rintro order ⟨⟩
      · next price _ =>
          generalize orMinimum quantity = fillQuantity
          split
          · refine .inl ⟨lastPrices, rfl, ?_⟩
            rintro order ⟨⟩
            rfl
          · next positive =>
              split
              · refine .inl ⟨lastPrices, rfl, ?_⟩
                rintro order ⟨⟩
                rfl
              · next accepted checked =>
                  exact .inr ⟨lastPrices, args, symbol, side, type, accepted,
                    price, now,
                    accepts_of_acceptedQuantity (not_le.mp positive) checked,
                    rfl⟩

theorem payloadQuantity_requoted (context : DecimalContext)
    (broker : HybridPaperBroker) (payload : PaperPayload) (symbol : String)
    (quantity quoted : Option ℚ) :
    ∃ lastPrices,
      (broker.payloadQuantity context payload symbol quantity quoted).2 =
        { broker with lastPrices := lastPrices } := by
  unfold payloadQuantity
  split
  · exact ⟨_, rfl⟩
  · obtain ⟨lastPrices, priced⟩ :=
      broker.getCurrentPrice_requoted symbol quoted
    dsimp only
    split <;> exact ⟨lastPrices, priced⟩
  · exact ⟨_, rfl⟩

theorem placeOrder_placed (context : DecimalContext) (formats : TextFormats)
    (broker : HybridPaperBroker) (args : PlaceOrderArgs) (quoted : Option ℚ)
    (now : DateTime) :
    Placed context formats
      { broker with orderCounter := broker.orderCounter + 1 }
      (broker.orderId (broker.orderCounter + 1))
      (broker.placeOrder context formats args quoted now) := by
  unfold placeOrder
  dsimp only
  split
  · next payload _ =>
      obtain ⟨lastPrices, priced⟩ := payloadQuantity_requoted context
        { broker with orderCounter := broker.orderCounter + 1 } payload
        (orText payload.productId (orText payload.symbol "")) args.quantity
        quoted
      change Placed context formats
        { broker with
          orderCounter := broker.orderCounter + 1
          lastPrices := lastPrices } _ _
      change _ = { broker with
        orderCounter := broker.orderCounter + 1
        lastPrices := lastPrices } at priced
      rw [← priced]
      exact placeParsed_placed _ _ _ _ _ _ _ _ _
  · exact placeParsed_placed _ _ _ _ _ _ _ _ _
  · exact placeParsed_placed _ _ _ _ _ _ _ _ _

/-! ## The cases of a call -/

/-- The balances, positions and rates of a broker are those of another. -/
structure SameFunds (broker other : HybridPaperBroker) : Prop where
  commissionBps : other.commissionBps = broker.commissionBps
  balances : other.balances = broker.balances
  positions : other.positions = broker.positions

theorem SameFunds.balanceOf {other : HybridPaperBroker}
    (same : broker.SameFunds other) (asset : String) :
    other.balanceOf asset = broker.balanceOf asset := by
  unfold HybridPaperBroker.balanceOf
  rw [same.balances]

/-- What a filled order changes. -/
def Fills (context : DecimalContext) (formats : TextFormats)
    (broker : HybridPaperBroker)
    (outcome : Option PaperOrder × HybridPaperBroker) : Prop :=
  ∃ priced orderId args symbol side type quantity price now,
    broker.SameFunds priced ∧
      broker.Accepts context formats symbol side quantity price ∧
      outcome =
        (some (priced.fillOrder context formats orderId args symbol side type
            quantity price now).1,
          (priced.fillOrder context formats orderId args symbol side type
            quantity price now).2)

/-- A call fills an order or leaves the funds. -/
theorem perform_cases (context : DecimalContext) (formats : TextFormats)
    (broker : HybridPaperBroker) (call : PaperCall) :
    (broker.SameFunds (broker.perform context formats call).2 ∧
        filledOf (broker.perform context formats call).1.toList = []) ∨
      broker.Fills context formats (broker.perform context formats call) := by
  cases call with
  | place args quoted now =>
      rcases placeOrder_placed context formats broker args quoted now with
        ⟨lastPrices, after, rejected⟩ |
        ⟨lastPrices, placed, symbol, side, type, quantity, price, moment,
          accepts, outcome⟩
      · left
        unfold perform
        dsimp only
        rw [after]
        refine ⟨⟨rfl, rfl, rfl⟩, ?_⟩
        cases result : (broker.placeOrder context formats args quoted now).1 with
        | error error => rfl
        | ok order =>
            have status := rejected order result
            change filledOf [order] = []
            simp [filledOf, status]
      · right
        unfold perform
        dsimp only
        rw [outcome]
        refine ⟨_, _, placed, symbol, side, type, quantity, price, moment, ?_,
          accepts, rfl⟩
        exact ⟨rfl, rfl, rfl⟩
  | cancel orderId =>
      left
      unfold perform cancelOrder
      dsimp only
      cases broker.orders.get? orderId <;> exact ⟨⟨rfl, rfl, rfl⟩, rfl⟩
  | quote symbol quoted =>
      left
      unfold perform getQuote
      dsimp only
      cases quoted <;> exact ⟨⟨rfl, rfl, rfl⟩, rfl⟩

theorem run_induction (context : DecimalContext) (formats : TextFormats)
    (Kept : List PaperOrder → HybridPaperBroker → Prop)
    (step : ∀ fills broker call, Kept fills broker →
      Kept (fills ++ filledOf (broker.perform context formats call).1.toList)
        (broker.perform context formats call).2)
    (calls : List PaperCall) (fills : List PaperOrder)
    (broker : HybridPaperBroker) (kept : Kept fills broker) :
    Kept (fills ++ filledOf (broker.run context formats calls).1)
      (broker.run context formats calls).2 := by
  induction calls generalizing fills broker with
  | nil =>
      rw [run]
      simpa [filledOf] using kept
  | cons call calls induction =>
      have next := induction _ _ (step fills broker call kept)
      rw [run]
      dsimp only
      unfold filledOf at next ⊢
      rwa [List.filter_append, ← List.append_assoc]

end HybridPaperBroker

end GptTrader
