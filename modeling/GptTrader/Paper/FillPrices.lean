import GptTrader.Paper.Receipts
import GptTrader.Python.DecimalAccuracy

/-!
# Prices of paper fills

Every accepted order of the paper broker is filled at once.  A market order pays
the slippage; an order with a limit takes the limit where that is better, however
far it is from the market.
-/

namespace GptTrader

/-- The limit that `place_order` looks at: a limit of zero is none. -/
def PlaceOrderArgs.limit (formats : TextFormats) (args : PlaceOrderArgs) :
    Option ℚ :=
  if HybridPaperBroker.typeOf formats args.orderType = .limit then
    (args.limitPrice.or args.priceKeyword).filter (· ≠ 0)
  else none

/-- A price is never worse than the limit, never better than the market while the
limit is not, and the limit itself where that is better than the market. -/
def WithinLimit (side : OrderSide) (limit : Option ℚ) (market price : ℚ) :
    Prop :=
  match side with
  | .buy =>
      (∀ bound ∈ limit, price ≤ bound) ∧
        ((∀ bound ∈ limit, market ≤ bound) → market ≤ price) ∧
        ∀ bound ∈ limit, bound < market → price = bound
  | .sell =>
      (∀ bound ∈ limit, bound ≤ price) ∧
        ((∀ bound ∈ limit, bound ≤ market) → price ≤ market) ∧
        ∀ bound ∈ limit, market < bound → price = bound

namespace HybridPaperBroker

def betterPrice (side : OrderSide) (limit : Option ℚ) (price : ℚ) : ℚ :=
  limit.elim price fun bound =>
    match side with
    | .buy => min bound price
    | .sell => max bound price

theorem limitedPrice_eq (formats : TextFormats) (args : PlaceOrderArgs)
    (side : OrderSide) (price : ℚ) :
    limitedPrice side (typeOf formats args.orderType)
        (args.limitPrice.or args.priceKeyword) price =
      betterPrice side (args.limit formats) price := by
  unfold limitedPrice betterPrice PlaceOrderArgs.limit
  cases args.limitPrice.or args.priceKeyword with
  | none =>
      rw [Option.filter_none, ite_self]
      rfl
  | some bound =>
      by_cases limited : typeOf formats args.orderType = .limit
      · by_cases zero : bound = 0
        · simp [limited, zero, Option.filter_some]
        · cases side with
          | buy => simp [limited, zero, Option.filter_some, min_def_lt]
          | sell =>
              have better : max bound price =
                  if price < bound then bound else price := by
                rw [max_comm]
                exact max_def_lt price bound
              simp [limited, zero, Option.filter_some, better]
      · simp [limited]

/-- A price that is no better than the market is limited to one that is not,
except by a limit that is better. -/
theorem withinLimit_betterPrice (side : OrderSide) (limit : Option ℚ)
    {market price : ℚ}
    (worse : match side with
      | .buy => market ≤ price
      | .sell => price ≤ market) :
    WithinLimit side limit market (betterPrice side limit price) := by
  unfold WithinLimit betterPrice
  cases limit with
  | none => cases side <;> simpa using worse
  | some bound =>
      cases side with
      | buy =>
          dsimp only at worse
          simp only [Option.elim_some, Option.mem_some_iff, forall_eq']
          refine ⟨min_le_left _ _, fun above => le_min above worse, ?_⟩
          intro below
          exact min_eq_left (below.le.trans worse)
      | sell =>
          dsimp only at worse
          simp only [Option.elim_some, Option.mem_some_iff, forall_eq']
          refine ⟨le_max_left _ _, fun below => max_le below worse, ?_⟩
          intro above
          exact max_eq_left (worse.trans above.le)

/-! ## The price of a fill -/

theorem one_le_slippageMultiplier {broker : HybridPaperBroker}
    (slips : 0 ≤ broker.slippageBps) :
    1 ≤ broker.slippageMultiplier .defaultContext := by
  have sound := DecimalContext.defaultContext_sound
  have one := DecimalContext.defaultContext_accurate.one
  have part : 0 ≤ DecimalContext.defaultContext.div broker.slippageBps 10000 :=
    sound.round_nonneg (div_nonneg (by exact_mod_cast slips) (by norm_num))
  unfold slippageMultiplier
  rw [← one]
  exact sound.monotone (by rw [one]; linarith)

theorem fillPrice_withinLimit {broker : HybridPaperBroker}
    (formats : TextFormats) (args : PlaceOrderArgs) {side : OrderSide}
    {current price : ℚ} (slips : 0 ≤ broker.slippageBps)
    (nonneg : 0 ≤ current)
    (filled : broker.fillPrice .defaultContext side
      (typeOf formats args.orderType) (args.limitPrice.or args.priceKeyword)
      current = .ok price) :
    WithinLimit side (args.limit formats)
      (DecimalContext.defaultContext.round current) price := by
  have sound := DecimalContext.defaultContext_sound
  have slipped := one_le_slippageMultiplier slips
  unfold fillPrice at filled
  cases side with
  | buy =>
      dsimp only at filled
      rw [limitedPrice_eq, Except.ok.injEq] at filled
      rw [← filled]
      apply withinLimit_betterPrice
      exact sound.monotone (le_mul_of_one_le_right nonneg slipped)
  | sell =>
      dsimp only at filled
      rw [if_neg (zero_lt_one.trans_le slipped).ne', limitedPrice_eq,
        Except.ok.injEq] at filled
      rw [← filled]
      apply withinLimit_betterPrice
      exact sound.monotone (div_le_self nonneg slipped)

section Placed

variable {context : DecimalContext} {formats : TextFormats}
variable {broker : HybridPaperBroker}

theorem priceOf_getCurrentPrice (symbol : String) (quoted : Option ℚ) :
    (broker.getCurrentPrice symbol quoted).2.priceOf symbol quoted =
      broker.priceOf symbol quoted := by
  unfold getCurrentPrice priceOf getQuote
  cases cached : broker.lastPrices.get? symbol with
  | some price =>
      dsimp only
      rw [cached]
  | none =>
      cases quoted with
      | none =>
          dsimp only
          rw [cached]
      | some price =>
          dsimp only
          rw [Dict.get?_set_self]
          rfl

theorem payloadQuantity_keeps (context : DecimalContext)
    (broker : HybridPaperBroker) (payload : PaperPayload) (symbol : String)
    (quantity quoted : Option ℚ) :
    (broker.payloadQuantity context payload symbol quantity
        quoted).2.slippageBps = broker.slippageBps ∧
      (broker.payloadQuantity context payload symbol quantity
        quoted).2.priceOf symbol quoted = broker.priceOf symbol quoted := by
  have requested : (broker.getCurrentPrice symbol quoted).2.priceOf symbol
      quoted = broker.priceOf symbol quoted :=
    priceOf_getCurrentPrice symbol quoted
  obtain ⟨lastPrices, same⟩ := broker.getCurrentPrice_eq symbol quoted
  rw [same] at requested
  unfold payloadQuantity
  split
  · exact ⟨rfl, rfl⟩
  · rw [same]
    dsimp only
    split
    · exact ⟨rfl, requested⟩
    · exact ⟨rfl, requested⟩
  · exact ⟨rfl, rfl⟩

theorem placeParsed_filled {orderId symbol : String} {args : PlaceOrderArgs}
    {side : OrderSide} {type : OrderType} {quantity limit quoted : Option ℚ}
    {now : DateTime} {order : PaperOrder}
    (placed : (broker.placeParsed context formats orderId args symbol side type
      quantity limit quoted now).1 = .ok order)
    (filled : order.status = .filled) :
    order.symbol = symbol ∧ order.side = side ∧
      ∃ current price, broker.priceOf symbol quoted = some current ∧
        broker.fillPrice context side type limit current = .ok price ∧
        order.avgFillPrice = some price := by
  unfold placeParsed at placed
  obtain ⟨lastPrices, requested⟩ := broker.getCurrentPrice_eq symbol quoted
  rw [requested] at placed
  dsimp only at placed
  cases priced : broker.priceOf symbol quoted with
  | none =>
      rw [priced] at placed
      cases placed
      cases filled
  | some current =>
      rw [priced] at placed
      dsimp only at placed
      split at placed
      · cases placed
      · next price slipped =>
          split at placed
          · cases placed
            cases filled
          · split at placed
            · cases placed
              cases filled
            · cases placed
              exact ⟨rfl, rfl, current, price, rfl, slipped, rfl⟩

theorem placeOrder_filled {args : PlaceOrderArgs} {quoted : Option ℚ}
    {now : DateTime} {order : PaperOrder}
    (placed : (broker.placeOrder context formats args quoted now).1 = .ok order)
    (filled : order.status = .filled) :
    ∃ current price, broker.priceOf order.symbol quoted = some current ∧
      broker.fillPrice context order.side (typeOf formats args.orderType)
        (args.limitPrice.or args.priceKeyword) current = .ok price ∧
      order.avgFillPrice = some price := by
  unfold placeOrder at placed
  dsimp only at placed
  split at placed
  · next payload _ =>
      set symbol := orText payload.productId (orText payload.symbol "")
      set counted : HybridPaperBroker :=
        { broker with orderCounter := broker.orderCounter + 1 }
      obtain ⟨sameSlippage, samePrice⟩ := payloadQuantity_keeps context counted
        payload symbol args.quantity quoted
      obtain ⟨named, sided, current, price, priced, slipped, average⟩ :=
        placeParsed_filled placed filled
      refine ⟨current, price, ?_, ?_, average⟩
      · rw [named]
        exact samePrice.symm.trans priced
      · rw [sided, ← slipped]
        unfold fillPrice slippageMultiplier
        rw [sameSlippage]
  · obtain ⟨named, sided, found⟩ := placeParsed_filled placed filled
    rw [named, sided]
    exact found
  · obtain ⟨named, sided, found⟩ := placeParsed_filled placed filled
    rw [named, sided]
    exact found

end Placed

end HybridPaperBroker

/-- A filled order has a current price, and with slippage that is not negative it
is filled within its limit. -/
theorem paper_fills_within_limit (formats : TextFormats)
    (broker : HybridPaperBroker) (slips : 0 ≤ broker.slippageBps)
    (args : PlaceOrderArgs) (quoted : Option ℚ) (now : DateTime)
    (order : PaperOrder)
    (placed : (broker.placeOrder .defaultContext formats args quoted now).1 =
      .ok order)
    (filled : order.status = .filled) :
    ∃ current price, broker.priceOf order.symbol quoted = some current ∧
      order.avgFillPrice = some price ∧
      (0 ≤ current →
        WithinLimit order.side (args.limit formats)
          (DecimalContext.defaultContext.round current) price) := by
  obtain ⟨current, price, priced, slipped, average⟩ :=
    HybridPaperBroker.placeOrder_filled placed filled
  refine ⟨current, price, priced, average, ?_⟩
  intro nonneg
  exact HybridPaperBroker.fillPrice_withinLimit formats args slips nonneg slipped

def limitedCoin (side : OrderSide) (limit : ℚ) : PlaceOrderArgs :=
  { coinPurchase.brokerKwargs with
    side := some (.side side)
    orderType := .type .limit
    priceKeyword := some limit }

def HybridPaperBroker.coinOrder (broker : HybridPaperBroker)
    (args : PlaceOrderArgs) : PaperOrder :=
  ((broker.placeOrder .defaultContext plainContext.formats args (some 100)
    (.utc 0)).1).toOption.getD
      (HybridPaperBroker.rejectedOrder "" "" .buy 0 (.utc 0))

theorem HybridPaperBroker.coinOrder_placed {broker : HybridPaperBroker}
    {args : PlaceOrderArgs}
    (filled : (broker.coinOrder args).status = .filled) :
    (broker.placeOrder .defaultContext plainContext.formats args (some 100)
      (.utc 0)).1 = .ok (broker.coinOrder args) := by
  unfold HybridPaperBroker.coinOrder at filled ⊢
  cases placed : (broker.placeOrder .defaultContext plainContext.formats args
      (some 100) (.utc 0)).1 with
  | ok order => rfl
  | error error =>
      rw [placed] at filled
      cases filled

/-- A purchase limited to a hundred and one pays the slippage. -/
theorem limited_coin_within_limit :
    let order := thousandDollars.coinOrder (limitedCoin .buy 101)
    order.avgFillPrice = some 100.05 ∧
      ∃ current price,
        thousandDollars.priceOf order.symbol (some 100) = some current ∧
        order.avgFillPrice = some price ∧
        (0 ≤ current →
          WithinLimit order.side
            ((limitedCoin .buy 101).limit plainContext.formats)
            (DecimalContext.defaultContext.round current) price) := by
  have filled : (thousandDollars.coinOrder (limitedCoin .buy 101)).status =
      .filled := by decide +kernel
  refine ⟨by decide +kernel, ?_⟩
  exact paper_fills_within_limit plainContext.formats thousandDollars
    (by decide) (limitedCoin .buy 101) (some 100) (.utc 0) _
    (HybridPaperBroker.coinOrder_placed filled) filled

/-- A limit below the market is filled at the limit, and so is one above it when
selling; negative slippage fills below the market without any limit. -/
theorem coins_beat_the_market :
    let bought := thousandDollars.coinOrder (limitedCoin .buy 99)
    let held := (thousandDollars.placeOrder .defaultContext plainContext.formats
      (limitedCoin .buy 101) (some 100) (.utc 0)).2
    let sold := held.coinOrder (limitedCoin .sell 102)
    let gifted := (HybridPaperBroker.fresh "1a2b3c4d" 1000 (-5) 5).coinOrder
      coinPurchase.brokerKwargs
    (bought.status = .filled ∧ bought.avgFillPrice = some 99) ∧
      (sold.status = .filled ∧ sold.avgFillPrice = some 102) ∧
      gifted.status = .filled ∧ gifted.avgFillPrice = some 99.95 := by
  decide +kernel

end GptTrader
