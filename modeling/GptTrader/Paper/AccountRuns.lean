import GptTrader.Paper.AccountPositions
import GptTrader.Persistence.OrderRuns

/-!
# Runs of the paper account

Orders have identifiers of their own, so a filled one stays as it was returned
until it is cancelled.  With what balances and positions keep, this is what any
run of the paper account conserves.
-/

namespace GptTrader

/-! ## Identifiers -/

def spelledNumber (text : String) : ℕ :=
  Nat.ofDigits 10 (text.toList.reverse.map fun char => char.toNat - 48)

theorem toNat_digitChar {digit : ℕ} (small : digit < 10) :
    digit.digitChar.toNat - 48 = digit := by
  interval_cases digit <;> rfl

theorem spelledNumber_counterText (counter : ℕ) :
    spelledNumber (counterText counter) = counter := by
  have digits : ((Nat.digits 10 counter).map Nat.digitChar).map
      (fun char => char.toNat - 48) = Nat.digits 10 counter := by
    rw [List.map_map]
    apply (List.map_congr_left _).trans (List.map_id _)
    intro digit member
    exact toNat_digitChar (Nat.digits_lt_base (by norm_num) member)
  unfold spelledNumber counterText
  dsimp only
  rw [String.toList_ofList, List.reverse_append, List.map_append,
    List.reverse_replicate, List.map_replicate, ← List.map_reverse,
    List.reverse_reverse, digits, Nat.ofDigits_append, Nat.ofDigits_digits]
  have zeros : ∀ count, Nat.ofDigits 10 (List.replicate count 0) = 0 := by
    intro count
    induction count with
    | zero => rfl
    | succ count induction =>
        rw [List.replicate_succ, Nat.ofDigits_cons, induction]
  change counter + _ * Nat.ofDigits 10 (List.replicate _ 0) = counter
  rw [zeros, mul_zero, add_zero]

theorem counterText_injective : Function.Injective counterText :=
  Function.LeftInverse.injective spelledNumber_counterText

namespace HybridPaperBroker

theorem orderId_injective (broker : HybridPaperBroker) :
    Function.Injective broker.orderId := by
  intro left right same
  unfold orderId at same
  exact counterText_injective (String.append_right_inj _ |>.mp same)

/-! ## Filled orders -/

variable {context : DecimalContext} {formats : TextFormats}
variable {broker : HybridPaperBroker}

def cancels (orderId : String) : PaperCall → Bool
  | .cancel cancelled => decide (cancelled = orderId)
  | _ => false

def afterCancels (order : PaperOrder) (cancelled : Bool) : PaperOrder :=
  if cancelled then { order with status := .cancelled } else order

theorem fillOrder_eq (context : DecimalContext) (formats : TextFormats)
    (broker : HybridPaperBroker) (orderId : String) (args : PlaceOrderArgs)
    (symbol : String) (side : OrderSide) (type : OrderType)
    (quantity price : ℚ) (now : DateTime) :
    ∃ balances positions,
      (broker.fillOrder context formats orderId args symbol side type quantity
        price now).2 =
        { broker with
          balances := balances
          positions := positions
          orders := broker.orders.set orderId
            (broker.fillOrder context formats orderId args symbol side type
              quantity price now).1 } := by
  obtain ⟨positions, updated⟩ := updatePositionFromFill_eq context
    (broker.updateBalancesFromFill context formats symbol side quantity
      price (broker.commission context (context.mul price quantity)))
    symbol side quantity price
  unfold fillOrder
  dsimp only
  rw [updated]
  cases side <;> exact ⟨_, _, rfl⟩

/-- Placing an order counts it and stores it under its identifier when it is
filled; nothing is stored otherwise. -/
theorem placeOrder_orders (context : DecimalContext) (formats : TextFormats)
    (broker : HybridPaperBroker) (args : PlaceOrderArgs) (quoted : Option ℚ)
    (now : DateTime) :
    let outcome := broker.placeOrder context formats args quoted now
    let orderId := broker.orderId (broker.orderCounter + 1)
    outcome.2.orderIdPrefix = broker.orderIdPrefix ∧
      outcome.2.orderCounter = broker.orderCounter + 1 ∧
      ((outcome.2.orders = broker.orders ∧
          ∀ order, outcome.1 = .ok order → order.status = .rejected) ∨
        ∃ order, outcome.1 = .ok order ∧ order.id = orderId ∧
          outcome.2.orders = broker.orders.set orderId order) := by
  intro outcome orderId
  rcases placeOrder_placed context formats broker args quoted now with
    ⟨lastPrices, after, rejected⟩ |
    ⟨lastPrices, placed, symbol, side, type, quantity, price, moment, _,
      result⟩
  · have after : outcome.2 = _ := after
    rw [after]
    exact ⟨rfl, rfl, .inl ⟨rfl, rejected⟩⟩
  · have result : outcome = _ := result
    obtain ⟨balances, positions, filled⟩ := fillOrder_eq context formats
      { broker with
        orderCounter := broker.orderCounter + 1
        lastPrices := lastPrices }
      orderId placed symbol side type quantity price moment
    rw [result]
    dsimp only
    rw [filled]
    exact ⟨rfl, rfl, .inr ⟨_, rfl, rfl, rfl⟩⟩

theorem afterCancels_or (order : PaperOrder) (first second : Bool) :
    afterCancels (afterCancels order first) second =
      afterCancels order (first || second) := by
  cases first <;> cases second <;> rfl

theorem perform_keeps_order (context : DecimalContext) (formats : TextFormats)
    {orderId : String} {counter : ℕ} {order : PaperOrder} (named : orderId = broker.orderId counter)
    (counted : counter ≤ broker.orderCounter)
    (stored : broker.getOrder orderId = some order) (call : PaperCall) :
    let after := (broker.perform context formats call).2
    orderId = after.orderId counter ∧ counter ≤ after.orderCounter ∧
      after.getOrder orderId =
        some (afterCancels order (cancels orderId call)) := by
  unfold getOrder at stored ⊢
  cases call with
  | place args quoted now =>
      obtain ⟨samePrefix, next, orders⟩ :=
        placeOrder_orders context formats broker args quoted now
      unfold perform
      dsimp only
      refine ⟨?_, by omega, ?_⟩
      · rw [named]
        unfold HybridPaperBroker.orderId
        rw [samePrefix]
      · rcases orders with ⟨orders, _⟩ | ⟨placed, _, _, orders⟩
        · rw [orders]
          exact stored
        · have other : orderId ≠ broker.orderId (broker.orderCounter + 1) := by
            rw [named]
            exact broker.orderId_injective.ne (by omega)
          rw [orders, Dict.get?_set_of_ne _ _ other]
          exact stored
  | cancel cancelled =>
      unfold perform cancelOrder cancels
      dsimp only
      cases found : broker.orders.get? cancelled with
      | none =>
          have other : cancelled ≠ orderId := by
            rintro rfl
            rw [stored] at found
            cases found
          refine ⟨named, counted, ?_⟩
          rw [decide_eq_false other]
          exact stored
      | some old =>
          refine ⟨named, counted, ?_⟩
          dsimp only
          rw [Dict.get?_set]
          by_cases same : cancelled = orderId
          · subst same
            rw [stored] at found
            cases found
            rw [if_pos rfl, decide_eq_true rfl]
            rfl
          · rw [if_neg (Ne.symm same), decide_eq_false same]
            exact stored
  | quote symbol quoted =>
      cases quoted <;> exact ⟨named, counted, stored⟩

theorem run_keeps_order {orderId : String} {counter : ℕ} {order : PaperOrder}
    (named : orderId = broker.orderId counter)
    (counted : counter ≤ broker.orderCounter)
    (stored : broker.getOrder orderId = some order) (calls : List PaperCall) :
    (broker.run context formats calls).2.getOrder orderId =
      some (afterCancels order (calls.any (cancels orderId))) := by
  induction calls generalizing broker order with
  | nil => exact stored
  | cons call calls induction =>
      obtain ⟨named', counted', stored'⟩ :=
        perform_keeps_order context formats named counted stored call
      have final := induction named' counted' stored'
      rw [run]
      dsimp only
      rw [final, afterCancels_or, List.any_cons]

theorem perform_stores_filled {call : PaperCall} {order : PaperOrder}
    (returned : (broker.perform context formats call).1 = some order)
    (filled : order.status = .filled) :
    let after := (broker.perform context formats call).2
    order.id = after.orderId after.orderCounter ∧
      after.getOrder order.id = some order := by
  cases call with
  | place args quoted now =>
      obtain ⟨samePrefix, next, orders⟩ :=
        placeOrder_orders context formats broker args quoted now
      unfold perform at returned ⊢
      dsimp only at returned ⊢
      rcases orders with ⟨_, rejected⟩ | ⟨placed, result, named, orders⟩
      · cases outcome :
            (broker.placeOrder context formats args quoted now).1 with
        | error error =>
            rw [outcome] at returned
            cases returned
        | ok other =>
            rw [outcome] at returned
            cases returned
            rw [rejected order outcome] at filled
            cases filled
      · rw [result] at returned
        cases returned
        unfold getOrder
        rw [orders, next, named, Dict.get?_set_self]
        unfold HybridPaperBroker.orderId
        rw [samePrefix]
        exact ⟨rfl, rfl⟩
  | cancel cancelled => cases returned
  | quote symbol quoted => cases returned

theorem run_append (broker : HybridPaperBroker)
    (earlier later : List PaperCall) :
    (broker.run context formats (earlier ++ later)).2 =
      ((broker.run context formats earlier).2.run context formats later).2 := by
  induction earlier generalizing broker with
  | nil => rfl
  | cons call calls induction => exact induction _

theorem run_keeps_filled (earlier : List PaperCall) (call : PaperCall)
    (later : List PaperCall) {order : PaperOrder}
    (returned : ((broker.run context formats earlier).2.perform context formats
      call).1 = some order)
    (filled : order.status = .filled) :
    (broker.run context formats (earlier ++ call :: later)).2.getOrder
        order.id =
      some (afterCancels order (later.any (cancels order.id))) := by
  obtain ⟨named, stored⟩ := perform_stores_filled returned filled
  rw [run_append]
  exact run_keeps_order named le_rfl stored later

/-! ## What a run conserves -/

/-- What the funds after a run owe to its filled orders. -/
structure FundsFollow (context : DecimalContext) (formats : TextFormats)
    (initialEquity bps : ℚ) (fills : List PaperOrder)
    (broker : HybridPaperBroker) : Prop where
  balances : ∀ asset, broker.balanceOf asset =
    (startBalance initialEquity asset).credit context
      (movementsOf asset (fills.flatMap (·.movements context formats bps)))
  solvent : ∀ asset, 0 ≤ (broker.balanceOf asset).total ∧
    0 ≤ (broker.balanceOf asset).available

/-- What they do in exact arithmetic. -/
structure FundsExact (formats : TextFormats) (initialEquity bps : ℚ)
    (fills : List PaperOrder) (broker : HybridPaperBroker) : Prop where
  balances : ∀ asset, (broker.balanceOf asset).total =
    (startBalance initialEquity asset).total +
      (fills.map fun order => order.signedAmount formats bps asset).sum
  positions : ∀ asset, asset ≠ "USD" →
    (∀ order ∈ fills, quoteAsset formats order.symbol ≠ asset) →
      (broker.balanceOf asset).total ≤ broker.openQuantity formats asset ∧
        (SalesCovered fills →
          (broker.balanceOf asset).total = broker.openQuantity formats asset)

theorem sum_movements (formats : TextFormats) (bps : ℚ) (asset : String)
    (order : PaperOrder) :
    (movementsOf asset (order.movements .exact formats bps)).sum =
      order.signedAmount formats bps asset := by
  unfold movementsOf PaperOrder.movements PaperOrder.signedAmount
  cases order.side <;>
    by_cases base : baseAsset formats order.symbol = asset <;>
      by_cases quote : quoteAsset formats order.symbol = asset <;>
        simp [base, quote, DecimalContext.add, DecimalContext.neg,
          DecimalContext.sub, DecimalContext.exact] <;> ring

theorem total_credit (formats : TextFormats) (bps : ℚ) (asset : String)
    (fills : List PaperOrder) (balance : PaperBalance) :
    (balance.credit .exact (movementsOf asset
        (fills.flatMap (·.movements .exact formats bps)))).total =
      balance.total +
        (fills.map fun order => order.signedAmount formats bps asset).sum := by
  induction fills generalizing balance with
  | nil => exact (add_zero _).symm
  | cons order fills induction =>
      have first : ∀ amounts (balance : PaperBalance),
          (balance.credit .exact amounts).total =
            balance.total + amounts.sum := by
        intro amounts
        induction amounts with
        | nil => exact fun balance => (add_zero balance.total).symm
        | cons amount amounts rest =>
            intro balance
            have next := rest (balance.credit .exact [amount])
            rw [List.sum_cons, ← add_assoc]
            exact next
      rw [List.flatMap_cons, movementsOf_append, PaperBalance.credit_append,
        induction, first, sum_movements, List.map_cons, List.sum_cons,
        add_assoc]

theorem run_balanced (context : DecimalContext) (formats : TextFormats)
    (orderIdPrefix : String) (initialEquity : ℚ) (slippageBps : ℤ) (bps : ℚ)
    (calls : List PaperCall) :
    let outcome :=
      (fresh orderIdPrefix initialEquity slippageBps bps).run context formats
        calls
    Balanced context formats initialEquity bps (filledOf outcome.1)
      outcome.2 :=
  run_induction context formats
    (Balanced context formats initialEquity bps)
    (fun _ _ call balanced => balanced.perform call) calls [] _
    ⟨rfl, balanceOf_fresh orderIdPrefix initialEquity slippageBps bps⟩

theorem run_solvent (context : DecimalContext) (formats : TextFormats)
    (sound : context.Sound) (orderIdPrefix : String) (initialEquity : ℚ)
    (slippageBps : ℤ) (bps : ℚ) (calls : List PaperCall)
    (nonneg : 0 ≤ initialEquity)
    (allowed : ∀ order ∈ filledOf
      ((fresh orderIdPrefix initialEquity slippageBps bps).run context formats
        calls).1,
      SaleAllowed context formats initialEquity bps order) :
    Solvent context initialEquity
      ((fresh orderIdPrefix initialEquity slippageBps bps).run context formats
        calls).2 := by
  -- The account is solvent as long as the sales so far were allowed.
  have kept := run_induction context formats
    (fun fills broker =>
      Balanced context formats initialEquity bps fills broker ∧
        ((∀ order ∈ fills,
            SaleAllowed context formats initialEquity bps order) →
          Solvent context initialEquity broker))
    (fun fills broker call kept =>
      ⟨kept.1.perform call, fun allowed =>
        (kept.2 fun order member =>
          allowed order (List.mem_append_left _ member)).perform sound kept.1.1
            call fun order member =>
              allowed order (List.mem_append_right _ member)⟩)
    calls [] _
    ⟨⟨rfl, balanceOf_fresh orderIdPrefix initialEquity slippageBps bps⟩,
      fun _ => solvent_fresh orderIdPrefix slippageBps bps sound nonneg⟩
  exact kept.2 allowed

theorem run_positioned (formats : TextFormats) (orderIdPrefix : String)
    (initialEquity : ℚ) (slippageBps : ℤ) (bps : ℚ) (calls : List PaperCall) :
    let outcome :=
      (fresh orderIdPrefix initialEquity slippageBps bps).run .exact formats
        calls
    Positioned formats (filledOf outcome.1) outcome.2 :=
  run_induction .exact formats (Positioned formats)
    (fun _ _ call positioned => positioned.perform call) calls [] _
    (positioned_fresh orderIdPrefix initialEquity slippageBps bps)

end HybridPaperBroker

open HybridPaperBroker in
/-- Every run of the paper account: no balance is negative, each is its start
and what the filled orders moved, rounded in turn, and a filled order stays as it
was returned until it is cancelled. -/
theorem paper_account_conserved (context : DecimalContext)
    (sound : context.Sound) (formats : TextFormats) (orderIdPrefix : String)
    (initialEquity : ℚ) (nonneg : 0 ≤ initialEquity) (slippageBps : ℤ)
    (commissionBps : ℚ) (calls : List PaperCall) :
    let broker := fresh orderIdPrefix initialEquity slippageBps commissionBps
    let rounded := broker.run context formats calls
    let plain := broker.run .exact formats calls
    ((∀ order ∈ HybridPaperBroker.filledOf rounded.1,
        SaleAllowed context formats initialEquity commissionBps order) →
      FundsFollow context formats initialEquity commissionBps
        (HybridPaperBroker.filledOf rounded.1) rounded.2) ∧
    FundsExact formats initialEquity commissionBps (HybridPaperBroker.filledOf plain.1)
      plain.2 ∧
    ∀ earlier call later order, calls = earlier ++ call :: later →
      ((broker.run context formats earlier).2.perform context formats call).1 =
        some order →
      order.status = .filled →
        rounded.2.getOrder order.id =
          some (afterCancels order (later.any (cancels order.id))) := by
  intro broker rounded plain
  refine ⟨?_, ?_, ?_⟩
  · intro allowed
    have solvent := run_solvent context formats sound orderIdPrefix
      initialEquity slippageBps commissionBps calls nonneg allowed
    refine ⟨(run_balanced context formats orderIdPrefix initialEquity
      slippageBps commissionBps calls).2, ?_⟩
    intro asset
    obtain ⟨same, nonneg, _⟩ := solvent asset
    exact ⟨same.symm ▸ nonneg, nonneg⟩
  · refine ⟨?_, (run_positioned formats orderIdPrefix initialEquity slippageBps
      commissionBps calls).covers⟩
    intro asset
    rw [(run_balanced .exact formats orderIdPrefix initialEquity slippageBps
      commissionBps calls).2 asset]
    exact total_credit formats commissionBps asset _ _
  · rintro earlier call later order rfl returned filled
    exact run_keeps_filled earlier call later returned filled

section Examples

def quotedOrder (side : OrderSide) (symbol : String) (quantity price : ℚ) :
    PaperCall :=
  .place
    { target := .symbol symbol
      side := some (.side side)
      orderType := .type .market
      quantity := some quantity
      limitPrice := none
      symbolKeyword := none
      priceKeyword := none
      stopPrice := none
      tif := none
      reduceOnly := false
      clientId := none }
    (some price) (.utc 0)

def dollarCoinRun : List PaperCall :=
  [quotedOrder .buy "BTC-USD" 1 100, quotedOrder .sell "BTC-USDC" 1 100,
    .cancel "PAPER_1a2b_000001"]

def longRun : List PaperCall :=
  [quotedOrder .buy "BTC-USD" (1 + 1 / 10 ^ 30) 100]

def smallAccount : HybridPaperBroker :=
  .fresh "1a2b" 1000 0 5

/-- Dollars and stable coins share one asset. -/
theorem dollar_coin_run_conserved :
    HybridPaperBroker.FundsFollow .defaultContext plainContext.formats 1000 5
      (HybridPaperBroker.filledOf (smallAccount.run .defaultContext
        plainContext.formats dollarCoinRun).1)
      (smallAccount.run .defaultContext plainContext.formats
        dollarCoinRun).2 := by
  refine (paper_account_conserved .defaultContext
    DecimalContext.defaultContext_sound plainContext.formats "1a2b" 1000
    (by norm_num) 0 5 dollarCoinRun).1 ?_
  unfold HybridPaperBroker.SaleAllowed
  decide +kernel

/-- An order returned as filled is cancelled later, a sale for another quote
leaves a position without coins, and a purchase is not credited in full. -/
theorem paper_account_drifts :
    let traded :=
      smallAccount.run .defaultContext plainContext.formats dollarCoinRun
    let long := smallAccount.run .defaultContext plainContext.formats longRun
    (traded.1.map fun order => (order.id, order.status)) =
        [("PAPER_1a2b_000001", .filled), ("PAPER_1a2b_000002", .filled)] ∧
      (traded.2.getOrder "PAPER_1a2b_000001").map (·.status) =
        some .cancelled ∧
      (traded.2.balanceOf "BTC").total = 0 ∧
      traded.2.openQuantity plainContext.formats "BTC" = 1 ∧
      (long.2.balanceOf "BTC").total <
        (long.1.map (·.filledQuantity)).sum := by
  decide +kernel

end Examples

end GptTrader
