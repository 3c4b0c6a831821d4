import GptTrader.Paper.Account

/-!
# Balances and positions of the paper account

Each balance is the running sum of what the filled orders moved, and none goes
below zero.  The open quantity of a symbol follows its own filled orders, so it
lags behind the balance of its base where a sale under another quote took more.
-/

namespace GptTrader

def PaperBalance.credit (context : DecimalContext) (balance : PaperBalance)
    (amounts : List ℚ) : PaperBalance :=
  { total := amounts.foldl context.add balance.total
    available := amounts.foldl context.add balance.available
    hold := balance.hold }

theorem PaperBalance.credit_append (context : DecimalContext)
    (balance : PaperBalance) (earlier later : List ℚ) :
    balance.credit context (earlier ++ later) =
      (balance.credit context earlier).credit context later := by
  unfold credit
  rw [List.foldl_append, List.foldl_append]

theorem movementsOf_append (asset : String) (earlier later : List (String × ℚ)) :
    movementsOf asset (earlier ++ later) =
      movementsOf asset earlier ++ movementsOf asset later := by
  unfold movementsOf
  rw [List.filter_append, List.map_append]

def startBalance (initialEquity : ℚ) (asset : String) : PaperBalance :=
  if asset = "USD" then
    { total := initialEquity, available := initialEquity, hold := 0 }
  else { total := 0, available := 0, hold := 0 }

namespace HybridPaperBroker

variable {context : DecimalContext} {formats : TextFormats}
variable {broker : HybridPaperBroker}

theorem balanceOf_fresh (orderIdPrefix : String) (initialEquity : ℚ)
    (slippageBps : ℤ) (commissionBps : ℚ) (asset : String) :
    (fresh orderIdPrefix initialEquity slippageBps commissionBps).balanceOf
        asset =
      startBalance initialEquity asset := by
  unfold balanceOf fresh startBalance
  dsimp only
  rw [Dict.get?_set]
  split <;> rfl

/-! ## Balances -/

theorem balanceOf_adjustBalance (asset other : String) (delta : ℚ) :
    (broker.adjustBalance context asset delta).balanceOf other =
      (broker.balanceOf other).credit context
        (movementsOf other [(asset, delta)]) := by
  unfold adjustBalance
  dsimp only
  rw [show HybridPaperBroker.balanceOf _ other =
    (((broker.balances.set asset _).get? other).getD _) from rfl,
    Dict.get?_set]
  by_cases same : asset = other
  · subst same
    simp [movementsOf, PaperBalance.credit]
  · rw [if_neg (Ne.symm same)]
    simp [movementsOf, same, PaperBalance.credit, balanceOf]

theorem updatePositionFromFill_eq (context : DecimalContext)
    (broker : HybridPaperBroker) (symbol : String) (side : OrderSide)
    (quantity price : ℚ) :
    ∃ positions,
      broker.updatePositionFromFill context symbol side quantity price =
        { broker with positions := positions } := by
  unfold updatePositionFromFill
  split
  · exact ⟨_, rfl⟩
  · split
    · exact ⟨_, rfl⟩
    · exact ⟨_, rfl⟩
    · dsimp only
      split <;> exact ⟨_, rfl⟩
    · dsimp only
      split <;> exact ⟨_, rfl⟩

theorem updateBalancesFromFill_positions (symbol : String) (side : OrderSide)
    (quantity price commission : ℚ) :
    (broker.updateBalancesFromFill context formats symbol side quantity price
      commission).positions = broker.positions := by
  cases side <;> rfl

theorem balanceOf_fillOrder (orderId : String) (args : PlaceOrderArgs)
    (symbol : String) (side : OrderSide) (type : OrderType)
    (quantity price : ℚ) (now : DateTime) (asset : String) :
    (broker.fillOrder context formats orderId args symbol side type quantity
        price now).2.balanceOf asset =
      (broker.balanceOf asset).credit context
        (movementsOf asset
          ((broker.fillOrder context formats orderId args symbol side type
            quantity price now).1.movements context formats
              broker.commissionBps)) := by
  have moved : (broker.fillOrder context formats orderId args symbol side type
      quantity price now).2.balanceOf asset =
      (broker.updateBalancesFromFill context formats symbol side quantity price
        (broker.commission context (context.mul price quantity))).balanceOf
          asset := by
    unfold fillOrder
    dsimp only
    obtain ⟨positions, updated⟩ := updatePositionFromFill_eq context
      (broker.updateBalancesFromFill context formats symbol side quantity price
        (broker.commission context (context.mul price quantity))) symbol side
      quantity price
    rw [updated]
    rfl
  have twice : ∀ first second : String × ℚ,
      ((broker.adjustBalance context first.1 first.2).adjustBalance context
          second.1 second.2).balanceOf asset =
        (broker.balanceOf asset).credit context
          (movementsOf asset [first, second]) := by
    intro first second
    rw [balanceOf_adjustBalance, balanceOf_adjustBalance,
      ← PaperBalance.credit_append, ← movementsOf_append]
    rfl
  rw [moved]
  cases side with
  | buy => exact twice (_, _) (_, _)
  | sell => exact twice (_, _) (_, _)

/-- Every balance is what the fills moved. -/
def Balanced (context : DecimalContext) (formats : TextFormats)
    (initialEquity bps : ℚ) (fills : List PaperOrder)
    (broker : HybridPaperBroker) : Prop :=
  broker.commissionBps = bps ∧
    ∀ asset, broker.balanceOf asset =
      (startBalance initialEquity asset).credit context
        (movementsOf asset (fills.flatMap (·.movements context formats bps)))

theorem Balanced.perform {initialEquity bps : ℚ} {fills : List PaperOrder}
    (balanced : Balanced context formats initialEquity bps fills broker)
    (call : PaperCall) :
    Balanced context formats initialEquity bps
      (fills ++ filledOf (broker.perform context formats call).1.toList)
      (broker.perform context formats call).2 := by
  obtain ⟨rate, balances⟩ := balanced
  rcases perform_cases context formats broker call with
    ⟨same, unfilled⟩ |
    ⟨priced, orderId, args, symbol, side, type, quantity, price, now, same, _,
      outcome⟩
  · rw [unfilled, List.append_nil]
    exact ⟨same.commissionBps.trans rate, fun asset =>
      (same.balanceOf asset).trans (balances asset)⟩
  · rw [outcome]
    have pricedRate := same.commissionBps.trans rate
    constructor
    · obtain ⟨positions, updated⟩ := updatePositionFromFill_eq context
        (priced.updateBalancesFromFill context formats symbol side quantity
          price (priced.commission context (context.mul price quantity)))
        symbol side quantity price
      unfold fillOrder
      dsimp only
      rw [updated]
      cases side <;> exact pricedRate
    · intro asset
      rw [balanceOf_fillOrder, same.balanceOf, balances, pricedRate]
      change _ = PaperBalance.credit context _ (movementsOf asset
        ((fills ++ [_]).flatMap _))
      rw [List.flatMap_append, movementsOf_append, PaperBalance.credit_append,
        List.flatMap_singleton]

/-! ## No balance is negative -/

/-- No balance is negative, and only that of a fresh account may have more
digits than the context keeps. -/
def Solvent (context : DecimalContext) (initialEquity : ℚ)
    (broker : HybridPaperBroker) : Prop :=
  ∀ asset,
    let balance := broker.balanceOf asset
    balance.total = balance.available ∧ 0 ≤ balance.available ∧
      (context.round balance.available = balance.available ∨
        (asset = "USD" ∧ balance.available = initialEquity))

/-- What the sales of a run must not do: cost more than they bring, or sell
dollars that have more digits than the context keeps. -/
def SaleAllowed (context : DecimalContext) (formats : TextFormats)
    (initialEquity bps : ℚ) (order : PaperOrder) : Prop :=
  order.side = .sell →
    order.fee context bps ≤ order.notional context ∧
      (baseAsset formats order.symbol = "USD" →
        context.round initialEquity = initialEquity)

theorem Solvent.adjustBalance {initialEquity : ℚ} (sound : context.Sound)
    (solvent : Solvent context initialEquity broker) (asset : String)
    (delta : ℚ)
    (covered : 0 ≤ context.add (broker.balanceOf asset).available delta) :
    Solvent context initialEquity
      (broker.adjustBalance context asset delta) := by
  intro other
  rw [balanceOf_adjustBalance]
  obtain ⟨same, nonneg, digits⟩ := solvent other
  by_cases equal : asset = other
  · subst equal
    have moved : movementsOf asset [(asset, delta)] = [delta] := by
      simp [movementsOf]
    rw [moved]
    unfold PaperBalance.credit
    dsimp only [List.foldl_cons, List.foldl_nil]
    exact ⟨by rw [same], covered, .inl (sound.idempotent _)⟩
  · have kept : movementsOf other [(asset, delta)] = [] := by
      simp [movementsOf, equal]
    rw [kept]
    exact ⟨same, nonneg, digits⟩

theorem Solvent.gain {initialEquity : ℚ} (sound : context.Sound)
    (solvent : Solvent context initialEquity broker) (asset : String)
    {delta : ℚ} (gained : 0 ≤ delta) :
    Solvent context initialEquity
      (broker.adjustBalance context asset delta) :=
  solvent.adjustBalance sound asset delta
    (sound.round_nonneg (add_nonneg (solvent asset).2.1 gained))

section

variable {initialEquity bps : ℚ} (sound : context.Sound)
variable (solvent : Solvent context initialEquity broker)
variable (rate : broker.commissionBps = bps)

include initialEquity bps sound solvent rate

theorem Solvent.updateBalancesFromFill {order : PaperOrder} {price : ℚ}
    (priced : order.avgFillPrice = some price)
    (accepts : broker.Accepts context formats order.symbol order.side
      order.filledQuantity price)
    (allowed : SaleAllowed context formats initialEquity bps order) :
    Solvent context initialEquity
      (broker.updateBalancesFromFill context formats order.symbol order.side
        order.filledQuantity price
        (broker.commission context (context.mul price order.filledQuantity))) := by
  obtain ⟨positive, accepts⟩ := accepts
  have notional : order.notional context =
      context.mul price order.filledQuantity := by
    unfold PaperOrder.notional
    rw [priced]
    rfl
  have fee : order.fee context bps =
      broker.commission context (context.mul price order.filledQuantity) := by
    unfold PaperOrder.fee commission
    rw [notional, rate]
  unfold HybridPaperBroker.updateBalancesFromFill SaleAllowed at *
  rw [notional, fee] at allowed
  dsimp only
  cases side : order.side with
  | buy =>
      rw [side] at accepts
      dsimp only at accepts ⊢
      refine (solvent.adjustBalance sound _ _ ?_).gain sound _ positive.le
      -- The required amount is rounded already, so its negation is exact.
      apply sound.round_nonneg
      unfold DecimalContext.neg
      rw [sound.odd]
      unfold DecimalContext.add at accepts ⊢
      rw [sound.idempotent]
      linarith
  | sell =>
      rw [side] at accepts
      dsimp only at accepts ⊢
      obtain ⟨cheap, dollars⟩ := allowed side
      refine (solvent.adjustBalance sound _ _ ?_).gain sound _
        (sound.round_nonneg (sub_nonneg.mpr cheap))
      refine sound.add_neg_nonneg ?_ accepts
      rcases (solvent (baseAsset formats order.symbol)).2.2 with
        rounded | ⟨usd, fresh⟩
      · exact rounded
      · rw [fresh]
        exact dollars usd

/-- A call that sells only what is held keeps the account solvent. -/
theorem Solvent.perform (call : PaperCall)
    (allowed : ∀ order ∈
      filledOf (broker.perform context formats call).1.toList,
        SaleAllowed context formats initialEquity bps order) :
    Solvent context initialEquity (broker.perform context formats call).2 := by
  rcases perform_cases context formats broker call with
    ⟨same, _⟩ |
    ⟨priced, orderId, args, symbol, side, type, quantity, price, now, same,
      accepts, outcome⟩
  · intro asset
    rw [same.balanceOf]
    exact solvent asset
  · rw [outcome] at allowed ⊢
    have pricedSolvent : Solvent context initialEquity priced := by
      intro asset
      rw [same.balanceOf]
      exact solvent asset
    have pricedAccepts :
        priced.Accepts context formats symbol side quantity price := by
      unfold Accepts commission at accepts ⊢
      simp only [same.balanceOf, same.commissionBps]
      exact accepts
    obtain ⟨positions, updated⟩ := updatePositionFromFill_eq context
      (priced.updateBalancesFromFill context formats symbol side quantity
        price (priced.commission context (context.mul price quantity)))
      symbol side quantity price
    have moved := pricedSolvent.updateBalancesFromFill sound
      (same.commissionBps.trans rate) rfl pricedAccepts
      (allowed (priced.fillOrder context formats orderId args symbol side type
        quantity price now).1 (List.mem_singleton.mpr rfl))
    intro asset
    unfold fillOrder
    dsimp only
    rw [updated]
    exact moved asset

end

theorem solvent_fresh (orderIdPrefix : String) {initialEquity : ℚ}
    (slippageBps : ℤ) (commissionBps : ℚ) (sound : context.Sound)
    (nonneg : 0 ≤ initialEquity) :
    Solvent context initialEquity
      (fresh orderIdPrefix initialEquity slippageBps commissionBps) := by
  intro asset
  rw [balanceOf_fresh]
  unfold startBalance
  split
  · next usd => exact ⟨rfl, nonneg, .inr ⟨usd, rfl⟩⟩
  · exact ⟨rfl, le_rfl, .inl sound.round_zero⟩

end HybridPaperBroker

end GptTrader
