import GptTrader.Paper.AccountFunds

/-!
# Positions of the paper account

In exact arithmetic the open quantity of a symbol is the floored running sum of
its own filled orders.  For an asset that is only ever a base, the open
quantities never add up to less than the balance, and to exactly the balance
while each sale is covered by its own symbol.
-/

namespace GptTrader

theorem heldOf_append_singleton (symbol : String) (fills : List PaperOrder)
    (order : PaperOrder) :
    heldOf symbol (fills ++ [order]) =
      order.heldAfter symbol (heldOf symbol fills) := by
  unfold heldOf
  rw [List.foldl_append]
  rfl

theorem SalesCovered.of_append {fills : List PaperOrder} {order : PaperOrder}
    (covered : SalesCovered (fills ++ [order])) :
    SalesCovered fills ∧
      (order.side = .sell →
        order.filledQuantity ≤ heldOf order.symbol fills) := by
  constructor
  · rintro earlier sale later rfl side
    exact covered earlier sale (later ++ [order]) (by simp) side
  · exact covered fills order [] rfl

namespace HybridPaperBroker

variable {formats : TextFormats} {broker : HybridPaperBroker}

def heldIn (broker : HybridPaperBroker) (symbol : String) : ℚ :=
  (broker.positions.get? symbol).elim 0 (·.quantity)

/-- No position on record is empty. -/
def OpenPositions (broker : HybridPaperBroker) : Prop :=
  ∀ symbol position, broker.positions.get? symbol = some position →
    0 < position.quantity

theorem updatePositionFromFill_cases (opened : broker.OpenPositions)
    (symbol : String) (side : OrderSide) {quantity : ℚ} (price : ℚ)
    (positive : 0 < quantity) :
    let held := heldAfterFill side quantity (broker.heldIn symbol)
    let updated :=
      broker.updatePositionFromFill .exact symbol side quantity price
    (held = 0 ∧ broker.heldIn symbol = 0 ∧
        updated.positions = broker.positions) ∨
      (held = 0 ∧ updated.positions = broker.positions.erase symbol) ∨
      0 < held ∧ ∃ position : HybridPosition, position.quantity = held ∧
        updated.positions = broker.positions.set symbol position := by
  unfold updatePositionFromFill heldAfterFill heldIn
  rw [if_neg positive.not_ge]
  cases found : broker.positions.get? symbol with
  | none =>
      cases side with
      | buy =>
          exact .inr (.inr ⟨by simpa using positive, _, by simp, rfl⟩)
      | sell => exact .inl ⟨by simp [positive.le], rfl, rfl⟩
  | some position =>
      have held := opened symbol position found
      cases side with
      | buy =>
          have more : 0 < position.quantity + quantity := add_pos held positive
          refine .inr (.inr ⟨more, ?_⟩)
          dsimp only
          rw [if_neg (show ¬DecimalContext.exact.add position.quantity
            quantity ≤ 0 from more.not_ge)]
          exact ⟨_, rfl, rfl⟩
      | sell =>
          right
          dsimp only [Option.elim]
          have rest : DecimalContext.exact.sub position.quantity
              (min position.quantity quantity) =
            position.quantity - min position.quantity quantity := rfl
          have least : min position.quantity quantity ≤ position.quantity :=
            min_le_left _ _
          rw [rest]
          split
          · next gone => exact .inl ⟨by linarith, rfl⟩
          · next left => exact .inr ⟨not_le.mp left, _, rfl, rfl⟩

/-- What a fill does to open quantities. -/
theorem updatePositionFromFill_held (formats : TextFormats)
    (opened : broker.OpenPositions) (symbol : String) (side : OrderSide)
    {quantity : ℚ} (price : ℚ) (positive : 0 < quantity) :
    let held := heldAfterFill side quantity (broker.heldIn symbol)
    let updated :=
      broker.updatePositionFromFill .exact symbol side quantity price
    updated.OpenPositions ∧
      (∀ other, updated.heldIn other =
        if other = symbol then held else broker.heldIn other) ∧
      ∀ asset, updated.openQuantity formats asset =
        broker.openQuantity formats asset +
          if baseAsset formats symbol = asset then
            held - broker.heldIn symbol
          else 0 := by
  intro held updated
  have weight : ∀ asset, broker.positions.weightAt
      (fun symbol position =>
        if baseAsset formats symbol = asset then position.quantity else 0)
      symbol =
        if baseAsset formats symbol = asset then broker.heldIn symbol
        else 0 := by
    intro asset
    unfold Dict.weightAt heldIn
    cases broker.positions.get? symbol <;> simp
  rcases updatePositionFromFill_cases opened symbol side price positive with
    ⟨empty, before, same⟩ | ⟨empty, erased⟩ | ⟨left, position, size, set⟩
  · refine ⟨?_, ?_, ?_⟩
    · unfold OpenPositions
      rw [same]
      exact opened
    · intro other
      have kept : updated.heldIn other = broker.heldIn other := by
        unfold heldIn
        rw [same]
      split
      · next equal => rw [kept, equal, before, ← empty]
      · exact kept
    · intro asset
      have kept : updated.openQuantity formats asset =
          broker.openQuantity formats asset := by
        unfold openQuantity
        rw [same]
      rw [kept, show held = 0 from empty, before]
      simp
  · refine ⟨?_, ?_, ?_⟩
    · intro other position found
      rw [erased, Dict.get?_erase] at found
      split at found
      · cases found
      · exact opened other position found
    · intro other
      unfold heldIn
      rw [erased, Dict.get?_erase]
      split
      · exact empty.symm
      · rfl
    · intro asset
      unfold openQuantity
      rw [erased, Dict.sumBy_erase, weight, show held = 0 from empty]
      split <;> ring
  · refine ⟨?_, ?_, ?_⟩
    · intro other found located
      rw [set, Dict.get?_set] at located
      split at located
      · cases located
        rw [size]
        exact left
      · exact opened other found located
    · intro other
      unfold heldIn
      rw [set, Dict.get?_set]
      split
      · exact size
      · rfl
    · intro asset
      unfold openQuantity
      rw [set, Dict.sumBy_set, weight, size]
      change _ = _ + if _ then held - _ else 0
      split <;> ring

/-! ## Positions and balances -/

/-- The open quantities are those of the filled orders, and cover balances. -/
structure Positioned (formats : TextFormats) (fills : List PaperOrder)
    (broker : HybridPaperBroker) : Prop where
  opened : broker.OpenPositions
  held : ∀ symbol, broker.heldIn symbol = heldOf symbol fills
  covers : ∀ asset, asset ≠ "USD" →
    (∀ order ∈ fills, quoteAsset formats order.symbol ≠ asset) →
      (broker.balanceOf asset).total ≤ broker.openQuantity formats asset ∧
        (SalesCovered fills →
          (broker.balanceOf asset).total = broker.openQuantity formats asset)

theorem positioned_fresh (orderIdPrefix : String) (initialEquity : ℚ)
    (slippageBps : ℤ) (commissionBps : ℚ) :
    Positioned formats []
      (fresh orderIdPrefix initialEquity slippageBps commissionBps) := by
  refine ⟨?_, fun _ => rfl, ?_⟩
  · rintro symbol position ⟨⟩
  · intro asset other _
    rw [balanceOf_fresh]
    unfold startBalance
    rw [if_neg other]
    exact ⟨le_rfl, fun _ => rfl⟩

theorem movementsOf_base (order : PaperOrder) (bps : ℚ) {asset : String}
    (notQuote : quoteAsset formats order.symbol ≠ asset) (balance : PaperBalance) :
    (balance.credit .exact
      (movementsOf asset (order.movements .exact formats bps))).total =
      balance.total +
        if baseAsset formats order.symbol = asset then
          match order.side with
          | .buy => order.filledQuantity
          | .sell => -order.filledQuantity
        else 0 := by
  unfold PaperOrder.movements movementsOf PaperBalance.credit
  cases order.side <;> by_cases base : baseAsset formats order.symbol = asset <;>
    simp [notQuote, base, DecimalContext.add, DecimalContext.neg,
      DecimalContext.exact]

theorem Positioned.fill {fills : List PaperOrder} {bps : ℚ}
    {after : HybridPaperBroker} {order : PaperOrder}
    (positioned : Positioned formats fills broker)
    (opened' : after.OpenPositions)
    (held' : ∀ other, after.heldIn other =
      if other = order.symbol then
        heldAfterFill order.side order.filledQuantity
          (broker.heldIn order.symbol)
      else broker.heldIn other)
    (sums' : ∀ asset, after.openQuantity formats asset =
      broker.openQuantity formats asset +
        if baseAsset formats order.symbol = asset then
          heldAfterFill order.side order.filledQuantity
            (broker.heldIn order.symbol) - broker.heldIn order.symbol
        else 0)
    (balances : ∀ asset, after.balanceOf asset =
      (broker.balanceOf asset).credit .exact
        (movementsOf asset (order.movements .exact formats bps))) :
    Positioned formats (fills ++ [order]) after := by
  obtain ⟨opened, held, covers⟩ := positioned
  refine ⟨opened', ?_, ?_⟩
  · intro other
    rw [held', heldOf_append_singleton, ← held]
    unfold PaperOrder.heldAfter
    by_cases same : order.symbol = other
    · rw [if_pos same, if_pos same.symm, same]
    · rw [if_neg same, if_neg (Ne.symm same)]
  · intro asset dollars notQuote
    obtain ⟨atMost, equal⟩ := covers asset dollars fun order member =>
      notQuote order (List.mem_append_left _ member)
    have least := min_le_right (broker.heldIn order.symbol) order.filledQuantity
    rw [balances, sums', movementsOf_base order bps
      (notQuote _ (List.mem_append_right _ (List.mem_singleton.mpr rfl)))]
    unfold heldAfterFill
    by_cases base : baseAsset formats order.symbol = asset
    · rw [if_pos base, if_pos base]
      cases side : order.side with
      | buy =>
          dsimp only
          refine ⟨by linarith, ?_⟩
          intro covered
          rw [equal covered.of_append.1]
          ring
      | sell =>
          dsimp only
          refine ⟨by linarith, ?_⟩
          intro covered
          obtain ⟨earlier, last⟩ := covered.of_append
          rw [equal earlier, held, min_eq_right (last side)]
          ring
    · rw [if_neg base, if_neg base, add_zero, add_zero]
      exact ⟨atMost, fun covered => equal covered.of_append.1⟩

theorem Positioned.fillOrder {fills : List PaperOrder}
    (positioned : Positioned formats fills broker) (orderId : String)
    (args : PlaceOrderArgs) (symbol : String) (side : OrderSide)
    (type : OrderType) {quantity : ℚ} (price : ℚ) (now : DateTime)
    (positive : 0 < quantity) :
    Positioned formats
      (fills ++ [(broker.fillOrder .exact formats orderId args symbol side type
        quantity price now).1])
      (broker.fillOrder .exact formats orderId args symbol side type quantity
        price now).2 := by
  have positions : (broker.updateBalancesFromFill .exact formats symbol side
      quantity price (broker.commission .exact
        (DecimalContext.exact.mul price quantity))).positions =
      broker.positions := updateBalancesFromFill_positions _ _ _ _ _
  have balances : ∀ asset, (broker.fillOrder .exact formats orderId args symbol
      side type quantity price now).2.balanceOf asset = _ :=
    balanceOf_fillOrder orderId args symbol side type quantity price now
  unfold HybridPaperBroker.fillOrder at balances ⊢
  dsimp only at balances ⊢
  generalize broker.updateBalancesFromFill .exact formats symbol side quantity
    price (broker.commission .exact (DecimalContext.exact.mul price quantity)) =
      moved at positions balances ⊢
  have same : moved.heldIn = broker.heldIn ∧
      moved.openQuantity formats = broker.openQuantity formats := by
    unfold heldIn openQuantity
    rw [positions]
    exact ⟨rfl, rfl⟩
  have opened : moved.OpenPositions := by
    unfold OpenPositions
    rw [positions]
    exact positioned.opened
  obtain ⟨opened', held', sums'⟩ := updatePositionFromFill_held formats opened
    symbol side price positive
  rw [same.1] at held' sums'
  rw [same.2] at sums'
  exact positioned.fill opened' held' sums' balances

theorem SameFunds.positioned {other : HybridPaperBroker}
    {fills : List PaperOrder} (same : broker.SameFunds other)
    (positioned : Positioned formats fills broker) :
    Positioned formats fills other := by
  obtain ⟨opened, held, covers⟩ := positioned
  refine ⟨?_, ?_, ?_⟩
  · unfold OpenPositions
    rw [same.positions]
    exact opened
  · intro symbol
    unfold heldIn
    rw [same.positions]
    exact held symbol
  · intro asset dollars notQuote
    unfold openQuantity
    rw [same.positions, same.balanceOf]
    exact covers asset dollars notQuote

theorem Positioned.perform {fills : List PaperOrder}
    (positioned : Positioned formats fills broker) (call : PaperCall) :
    Positioned formats
      (fills ++ filledOf (broker.perform .exact formats call).1.toList)
      (broker.perform .exact formats call).2 := by
  rcases perform_cases .exact formats broker call with
    ⟨same, unfilled⟩ |
    ⟨priced, orderId, args, symbol, side, type, quantity, price, now, same,
      ⟨positive, _⟩, outcome⟩
  · rw [unfilled, List.append_nil]
    exact same.positioned positioned
  · rw [outcome]
    exact (same.positioned positioned).fillOrder orderId args symbol side type
      price now positive

end HybridPaperBroker

end GptTrader
