import GptTrader.Backtesting.ConservedMoney

/-!
# Equity read between bars

A bar marks every position of its symbol to the close, and the equity adds up what
the positions show as unrealized.  A fill that opens a position shows nothing
unrealized, which is right at its own price; a fill that adds to a position or
closes a part of it shows nothing either, which is right only at the entry price.
-/

namespace GptTrader

/-- What the position shows as unrealized is its worth at the mark. -/
structure SimulatedPosition.Marked (position : SimulatedPosition) : Prop where
  signed : position.quantity =
    SimulatedBroker.signedQuantity position.side |position.quantity|
  worth : position.unrealizedPnl =
    (position.markPrice - position.entryPrice) * position.quantity

namespace ProcessedFill

variable (processed : ProcessedFill)

def price : Option ℚ :=
  if processed.fill.filled then processed.fill.fillPrice else none

/-- The broker after the fill. -/
def after : SimulatedBroker :=
  (processed.broker.processFill processed.order processed.fill
    processed.leverage).2

/-- The fill opens no negative quantity, and adds to a position or closes a part
of it at its entry price alone. -/
structure AtEntry : Prop where
  opens : ∀ price ∈ processed.price, processed.position = none →
    0 ≤ processed.quantity
  adds : ∀ price ∈ processed.price, ∀ position ∈ processed.position,
    processed.side = position.side →
      |position.quantity| + processed.quantity ≠ 0 →
        0 ≤ |position.quantity| + processed.quantity ∧
          (position.quantity = 0 ∨ price = position.entryPrice)
  closes : ∀ price ∈ processed.price, ∀ position ∈ processed.position,
    processed.side ≠ position.side →
      processed.quantity < |position.quantity| →
        price = position.entryPrice

end ProcessedFill

instance (processed : ProcessedFill) : Decidable processed.AtEntry :=
  decidable_of_iff
    ((∀ price ∈ processed.price, processed.position.isNone = true →
        0 ≤ processed.quantity) ∧
      (∀ price ∈ processed.price, ∀ position ∈ processed.position,
        processed.side = position.side →
          |position.quantity| + processed.quantity ≠ 0 →
            0 ≤ |position.quantity| + processed.quantity ∧
              (position.quantity = 0 ∨ price = position.entryPrice)) ∧
      ∀ price ∈ processed.price, ∀ position ∈ processed.position,
        processed.side ≠ position.side →
          processed.quantity < |position.quantity| →
            price = position.entryPrice)
    (by
      simp only [Option.isNone_iff_eq_none]
      exact ⟨fun ⟨opens, adds, closes⟩ => ⟨opens, adds, closes⟩,
        fun even => ⟨even.opens, even.adds, even.closes⟩⟩)

namespace SimulatedBroker

/-- `get_equity`. -/
def equity (broker : SimulatedBroker) : ℚ :=
  broker.usdc.total +
    broker.positions.sumBy fun _ position => position.unrealizedPnl

/-- `process_funding`, when the tracker settles an amount. -/
def settleFunding (broker : SimulatedBroker) (settled : ℚ) : SimulatedBroker :=
  { broker with usdc := creditPnl broker.usdc (-settled) }

def reset (broker : SimulatedBroker) : SimulatedBroker :=
  fresh broker.initialEquity broker.feeTier broker.fillModel

def AllMarked (positions : Dict String SimulatedPosition) : Prop :=
  ∀ symbol position, positions.get? symbol = some position → position.Marked

/-! ## What a fill keeps -/

theorem gain_eq (side : TradeSide) (entry mark quantity : ℚ) :
    side.gain entry mark quantity =
      (mark - entry) * signedQuantity side quantity := by
  cases side with
  | long => rfl
  | short =>
      unfold TradeSide.gain signedQuantity
      dsimp only
      ring

theorem signedQuantity_abs (side : TradeSide) {quantity : ℚ}
    (nonneg : 0 ≤ quantity) :
    signedQuantity side quantity =
      signedQuantity side |signedQuantity side quantity| := by
  have magnitude : |signedQuantity side quantity| = quantity := by
    cases side with
    | long => exact abs_of_nonneg nonneg
    | short => exact (abs_neg _).trans (abs_of_nonneg nonneg)
  rw [magnitude]

theorem AllMarked.set {positions : Dict String SimulatedPosition}
    (marked : AllMarked positions) (symbol : String)
    {position : SimulatedPosition} (own : position.Marked) :
    AllMarked (positions.set symbol position) := by
  intro name other listed
  rw [Dict.get?_set] at listed
  split at listed
  · cases listed
    exact own
  · exact marked name other listed

theorem AllMarked.erase {positions : Dict String SimulatedPosition}
    (marked : AllMarked positions) (symbol : String) :
    AllMarked (positions.erase symbol) := by
  intro name other listed
  rw [Dict.get?_erase] at listed
  split at listed
  · cases listed
  · exact marked name other listed

/-- A position with nothing unrealized is marked where its quantity is signed and
its mark is its entry. -/
theorem marked_at_entry (side : TradeSide) {quantity mark entry : ℚ}
    (nonneg : 0 ≤ quantity) (level : mark = entry) (realized : ℚ)
    (leverage : Option ℤ) :
    ({ quantity := signedQuantity side quantity
       entryPrice := entry
       markPrice := mark
       unrealizedPnl := 0
       realizedPnl := realized
       side := side
       leverage := leverage } : SimulatedPosition).Marked := by
  refine ⟨signedQuantity_abs side nonneg, ?_⟩
  dsimp only
  rw [level, sub_self, zero_mul]

section Fills

variable {broker : SimulatedBroker} (marked : AllMarked broker.positions)
  (symbol : String)

include marked

theorem AllMarked.openPosition (side : TradeSide) {quantity : ℚ} (price : ℚ)
    (leverage : Option ℤ) (nonneg : 0 ≤ quantity) :
    AllMarked
      (broker.openPosition symbol side quantity price leverage).positions :=
  marked.set symbol (marked_at_entry side nonneg rfl 0 leverage)

theorem AllMarked.addToPosition {position : SimulatedPosition}
    {quantity price : ℚ} (leverage : Option ℤ)
    (even : |position.quantity| + quantity ≠ 0 →
      0 ≤ |position.quantity| + quantity ∧
        (position.quantity = 0 ∨ price = position.entryPrice)) :
    AllMarked (broker.addToPosition symbol position quantity price
      leverage).2.positions := by
  unfold SimulatedBroker.addToPosition simulatedQuotient
  dsimp only
  by_cases zero : |position.quantity| + quantity = 0
  · rw [if_pos zero]
    exact marked
  · obtain ⟨nonneg, level⟩ := even zero
    rw [if_neg zero]
    apply marked.set symbol
    apply marked_at_entry _ nonneg
    -- The average entry is the price of the fill.
    rw [eq_div_iff zero]
    rcases level with flat | level
    · rw [flat, abs_zero]
      ring
    · rw [level]
      ring

theorem AllMarked.reducePosition {position : SimulatedPosition}
    (side : TradeSide) {quantity price : ℚ} (leverage : Option ℤ)
    (even : quantity < |position.quantity| → price = position.entryPrice) :
    AllMarked (broker.reducePosition symbol position side quantity price
      leverage).positions := by
  unfold SimulatedBroker.reducePosition
  dsimp only
  split
  · next remains =>
      have part : quantity < |position.quantity| := by
        by_contra whole
        rw [min_eq_right (not_lt.mp whole), sub_self] at remains
        exact remains.false
      apply marked.set symbol
      exact marked_at_entry _ remains.le (even part) _ _
  · split
    · next flips =>
        apply AllMarked.set (marked.erase symbol) symbol
        exact marked_at_entry side flips.le rfl 0 leverage
    · exact marked.erase symbol

end Fills

theorem AllMarked.processFill {processed : ProcessedFill}
    (even : processed.AtEntry)
    (marked : AllMarked processed.broker.positions) :
    AllMarked processed.after.positions := by
  obtain ⟨broker, order, fill, leverage⟩ := processed
  unfold ProcessedFill.after SimulatedBroker.processFill
  dsimp only at marked ⊢
  split
  · next price filled priced =>
      have own : price ∈ ProcessedFill.price ⟨broker, order, fill, leverage⟩ := by
        unfold ProcessedFill.price
        dsimp only
        rw [if_pos filled]
        exact priced
      set charged := broker.chargeFee order.symbol (broker.feeOf order fill price)
      have updated : AllMarked (charged.updatePosition order.symbol order.side
          (filledQuantityOf order fill) price leverage).2.positions := by
        have chargedMarked : AllMarked charged.positions := marked
        unfold updatePosition
        cases found : charged.positions.get? order.symbol with
        | none =>
            exact chargedMarked.openPosition _ _ _ _ (even.opens price own found)
        | some position =>
            dsimp only
            split
            · next same =>
                exact chargedMarked.addToPosition _ leverage
                  (even.adds price own position found same)
            · next against =>
                exact chargedMarked.reducePosition _ _ leverage
                  (even.closes price own position found against)
      split
      · next error after failed =>
          rw [failed] at updated
          exact updated
      · next after done =>
          rw [done] at updated
          exact updated
  · exact marked

theorem AllMarked.updatePositionMarks {broker : SimulatedBroker}
    (marked : AllMarked broker.positions) (symbol : String) (mark : ℚ) :
    AllMarked (broker.updatePositionMarks symbol mark).positions := by
  unfold SimulatedBroker.updatePositionMarks
  cases found : broker.positions.get? symbol with
  | none => exact marked
  | some position =>
      have signed := (marked symbol position found).signed
      apply marked.set symbol
      refine ⟨signed, ?_⟩
      dsimp only
      rw [gain_eq, ← signed]

theorem allMarked_kept :
    Kept ProcessedFill.AtEntry fun done books =>
      AllMarked books.positions ∧
        ∀ processed ∈ done, AllMarked processed.after.positions := by
  constructor
  · rintro done processed even ⟨marked, earlier⟩
    have after := AllMarked.processFill even marked
    refine ⟨after, ?_⟩
    intro other member
    rcases List.mem_append.mp member with before | last
    · exact earlier other before
    · rw [List.mem_singleton.mp last]
      exact after
  · rintro done broker symbol mark ⟨marked, earlier⟩
    exact ⟨marked.updatePositionMarks symbol mark, earlier⟩
  · rintro done broker time marked
    exact marked

/-! ## Equity at the marks -/

theorem equity_markBar {broker : SimulatedBroker}
    (marked : AllMarked broker.positions) (symbol : String) (bar : PriceBar)
    (level : ∀ position, broker.positions.get? symbol = some position →
      bar.close = position.markPrice) :
    (broker.markBar symbol bar).equity = broker.equity := by
  unfold markBar updatePositionMarks
  dsimp only
  cases found : broker.positions.get? symbol with
  | none => rfl
  | some position =>
      obtain ⟨signed, worth⟩ := marked symbol position found
      have same : position.side.gain position.entryPrice bar.close
          |position.quantity| = position.unrealizedPnl := by
        rw [gain_eq, ← signed, worth, level position found]
      unfold equity
      dsimp only
      rw [Dict.sumBy_set]
      unfold Dict.weightAt
      rw [found, Option.elim_some, same, sub_add_cancel]

theorem checkPendingOrder_unfilled (broker : SimulatedBroker) (bar : PriceBar)
    (quote : MarketQuote) (chaos : String → ChaosOutcome)
    (entry : String × SimulatedOrder)
    (unfilled : broker.pendingOrderFills bar quote chaos entry = []) :
    (broker.checkPendingOrder bar quote chaos entry).2.equity =
      broker.equity := by
  unfold pendingOrderFills at unfilled
  unfold checkPendingOrder
  dsimp only at unfilled ⊢
  by_cases refused : chaos entry.1 ≠ .disabled ∧
      (applyChaosToOrder entry.2 (chaos entry.1)).1.status = .rejected
  · rw [if_pos refused]
    rfl
  · simp only [if_neg refused] at unfilled ⊢
    rcases tried : (broker.setOpenOrder entry.1
        (applyChaosToOrder entry.2 (chaos entry.1)).1).pendingFill
          (applyChaosToOrder entry.2 (chaos entry.1)).1 bar quote
          (applyChaosToOrder entry.2 (chaos entry.1)).2 with error | _ | fill
    · rfl
    · rfl
    · simp [tried] at unfilled

theorem checkOrders_unfilled (bar : PriceBar) (quote : MarketQuote)
    (chaos : String → ChaosOutcome) (entries : List (String × SimulatedOrder))
    (broker : SimulatedBroker)
    (unfilled : pendingFills bar quote chaos broker entries = []) :
    (checkOrders bar quote chaos broker entries).2.equity = broker.equity := by
  induction entries generalizing broker with
  | nil => rfl
  | cons entry rest induction =>
      unfold pendingFills at unfilled
      obtain ⟨first, others⟩ := List.append_eq_nil_iff.mp unfilled
      have same := checkPendingOrder_unfilled broker bar quote chaos entry first
      unfold checkOrders
      rcases checked : broker.checkPendingOrder bar quote chaos entry with
        ⟨error | ⟨⟩, after⟩
      · rw [checked] at same
        exact same
      · rw [checked] at same others
        exact (induction after others).trans same

/-- Every position shows its worth at the mark, and a bar at the marks which fills
no pending order leaves the equity what it was. -/
structure ReadsAnytime (broker : SimulatedBroker) : Prop where
  worth : ∀ symbol position, broker.positions.get? symbol = some position →
    position.unrealizedPnl =
      (position.markPrice - position.entryPrice) * position.quantity
  unread : ∀ symbol bar chaos,
    (∀ position, broker.positions.get? symbol = some position →
      bar.close = position.markPrice) →
    broker.fillsOf (.bar symbol bar chaos) = [] →
      (broker.updateBar symbol bar chaos).2.equity = broker.equity

theorem AllMarked.readsAnytime {broker : SimulatedBroker}
    (marked : AllMarked broker.positions) : broker.ReadsAnytime := by
  refine ⟨fun symbol position found => (marked symbol position found).worth, ?_⟩
  intro symbol bar chaos level unfilled
  have checked := checkOrders_unfilled bar (synthesizedQuote bar) chaos
    ((broker.markBar symbol bar).ordersToProcess symbol)
    (broker.markBar symbol bar) unfilled
  have same := checked.trans (equity_markBar marked symbol bar level)
  unfold updateBar
  dsimp only
  split
  · next error after failed =>
      rw [failed] at same
      exact same
  · next after done =>
      rw [done] at same
      exact same

/-! ## Reachable states -/

/-- The states of a broker whose fills all meet a condition: calls, settled funding
and resets in any order. -/
inductive Reached (meets : ProcessedFill → Prop) : SimulatedBroker → Prop
  | fresh (initialEquity : ℚ) (feeTier : FeeTier)
      (fillModel : OrderFillModel) :
      Reached meets (fresh initialEquity feeTier fillModel)
  | call {broker : SimulatedBroker} (before : Reached meets broker)
      (call : BrokerCall)
      (met : ∀ processed ∈ broker.fillsOf call, meets processed) :
      Reached meets (broker.perform call)
  | settled {broker : SimulatedBroker} (before : Reached meets broker)
      (settled : ℚ) : Reached meets (broker.settleFunding settled)
  | reset {broker : SimulatedBroker} (before : Reached meets broker) :
      Reached meets broker.reset

theorem Reached.run {meets : ProcessedFill → Prop} {broker : SimulatedBroker}
    (before : Reached meets broker) (calls : List BrokerCall)
    (met : ∀ processed ∈ broker.runFills calls, meets processed) :
    Reached meets (broker.run calls) := by
  induction calls generalizing broker with
  | nil => exact before
  | cons call calls induction =>
      unfold runFills at met
      apply induction (before.call call _)
      · intro processed member
        exact met processed (List.mem_append_right _ member)
      · intro processed member
        exact met processed (List.mem_append_left _ member)

theorem Reached.allMarked {broker : SimulatedBroker}
    (reached : Reached ProcessedFill.AtEntry broker) :
    AllMarked broker.positions := by
  induction reached with
  | fresh => exact fun _ _ listed => nomatch listed
  | @call broker before call met marked =>
      exact (perform_kept allMarked_kept [] broker call met
        ⟨marked, fun _ member => nomatch member⟩).1
  | settled before amount marked => exact marked
  | reset before marked => exact fun _ _ listed => nomatch listed

end SimulatedBroker

/-- In exact arithmetic, in every state reached by fills at entry the equity may be
read at any time, and right after every further fill at entry too. -/
theorem equity_reads_anytime {broker : SimulatedBroker}
    (reached : SimulatedBroker.Reached ProcessedFill.AtEntry broker) :
    broker.ReadsAnytime ∧
      ∀ call, (∀ processed ∈ broker.fillsOf call, processed.AtEntry) →
        ∀ processed ∈ broker.fillsOf call, processed.after.ReadsAnytime := by
  refine ⟨reached.allMarked.readsAnytime, ?_⟩
  intro call met processed member
  have kept := SimulatedBroker.perform_kept SimulatedBroker.allMarked_kept []
    broker call met ⟨reached.allMarked, fun _ member => nomatch member⟩
  rw [List.nil_append] at kept
  exact (kept.2 processed member).readsAnytime

/-! ## A bar at another price -/

def dearBar : BrokerCall :=
  .bar "COIN"
    { hundredBar with
      ts := 60000000
      openPrice := 110
      high := 110
      low := 110
      close := 110 }
    fun _ => .disabled

/-- A coin bought at the entry price, and the rest sold at another. -/
theorem level_coins_read_anytime :
    let start := SimulatedBroker.fresh 1000 .tier7 plainFills
    let held := start.run [coinBar, coinOrder .buy .market 1 none,
      coinOrder .buy .market 1 none, dearBar]
    held.equity = 1000 - 1 / 10 + 20 ∧ held.ReadsAnytime ∧
      ∀ processed ∈ held.fillsOf (coinOrder .sell .market 3 none),
        processed.after.ReadsAnytime := by
  have reached : SimulatedBroker.Reached ProcessedFill.AtEntry
      ((SimulatedBroker.fresh 1000 .tier7 plainFills).run
        [coinBar, coinOrder .buy .market 1 none,
          coinOrder .buy .market 1 none, dearBar]) := by
    apply SimulatedBroker.Reached.run (.fresh 1000 .tier7 plainFills)
    decide +kernel
  refine ⟨by decide +kernel, (equity_reads_anytime reached).1, ?_⟩
  apply (equity_reads_anytime reached).2
  decide +kernel

/-- A coin is added to a position in profit, or sold out of it: nothing is shown
as unrealized, and the equity moves at a bar of the same price. -/
theorem coins_in_profit_show_nothing :
    let start := SimulatedBroker.fresh 1000 .tier7 plainFills
    let added := start.run [coinBar, coinOrder .buy .market 1 none, dearBar,
      coinOrder .buy .market 1 none]
    let reduced := start.run [coinBar, coinOrder .buy .market 2 none, dearBar,
      coinOrder .sell .market 1 none]
    ((added.positions.get? "COIN").map fun position =>
        (position.unrealizedPnl,
          (position.markPrice - position.entryPrice) * position.quantity)) =
        some (0, 10) ∧
      (added.perform dearBar).equity = added.equity + 10 ∧
      ((reduced.positions.get? "COIN").map fun position =>
        (position.unrealizedPnl,
          (position.markPrice - position.entryPrice) * position.quantity)) =
        some (0, 10) ∧
      (reduced.perform dearBar).equity = reduced.equity + 10 := by
  decide +kernel

end GptTrader
