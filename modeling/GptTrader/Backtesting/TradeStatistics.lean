import Mathlib.Tactic.FieldSimp
import GptTrader.Backtesting.SimulatedBroker

/-!
# The statistics of completed trades

`backtesting/metrics/statistics.py`: the counts, the profits and the factors.  A trade
is a win or a loss by its profit after fees, and is added to the gross sums by its
profit before fees.  The metrics of positions, executions, times and streaks, which
nothing here reads, are left out.
-/

namespace GptTrader

/-- What `_calculate_pnl_metrics_from_trades` returns. -/
structure PnlMetrics where
  totalPnl : ℚ
  grossProfit : ℚ
  grossLoss : ℚ
  largestWin : ℚ
  largestLoss : ℚ

namespace PnlMetrics

/-- The metrics of no trades, also what `_calculate_pnl_metrics` returns. -/
def zero : PnlMetrics :=
  { totalPnl := 0, grossProfit := 0, grossLoss := 0, largestWin := 0,
    largestLoss := 0 }

/-- One trade added to the sums, in exact arithmetic. -/
def add (metrics : PnlMetrics) (trade : CompletedTrade) : PnlMetrics :=
  let summed := { metrics with totalPnl := metrics.totalPnl + trade.netPnl }
  match trade.outcome with
  | .win =>
      { summed with
        grossProfit := metrics.grossProfit + trade.realizedPnl
        largestWin := if metrics.largestWin < trade.netPnl then trade.netPnl
          else metrics.largestWin }
  | .loss =>
      { summed with
        grossLoss := metrics.grossLoss + trade.realizedPnl
        largestLoss := if trade.netPnl < metrics.largestLoss then trade.netPnl
          else metrics.largestLoss }
  | .breakeven => summed

/-- `_calculate_pnl_metrics_from_trades`. -/
def ofTrades (trades : List CompletedTrade) : PnlMetrics :=
  trades.foldl add zero

end PnlMetrics

structure TradeStatistics where
  totalTrades : ℕ
  winningTrades : ℕ
  losingTrades : ℕ
  breakevenTrades : ℤ
  winRate : ℚ
  lossRate : ℚ
  profitFactor : ℚ
  netProfitFactor : ℚ
  feeDragPerTrade : ℚ
  totalPnl : ℚ
  grossProfit : ℚ
  grossLoss : ℚ
  avgProfitPerTrade : ℚ
  avgWin : ℚ
  avgLoss : ℚ
  largestWin : ℚ
  largestLoss : ℚ
  totalFeesPaid : ℚ

/-- `value / Decimal(count) if count > 0 else Decimal("0")`. -/
def perTrade (value : ℚ) (count : ℕ) : ℚ :=
  if 0 < count then value / count else 0

/-- The statistics of some counts and metrics. -/
def TradeStatistics.ofMetrics (total winning losing : ℕ) (breakeven : ℤ)
    (metrics : PnlMetrics) (fees : ℚ) : TradeStatistics :=
  let denominator := |metrics.grossLoss| + fees
  { totalTrades := total
    winningTrades := winning
    losingTrades := losing
    breakevenTrades := breakeven
    winRate := perTrade winning total * 100
    lossRate := perTrade losing total * 100
    profitFactor :=
      if metrics.grossLoss ≠ 0 then |metrics.grossProfit / metrics.grossLoss|
      else 999.99
    netProfitFactor :=
      if total = 0 then 0
      else if denominator ≠ 0 then metrics.grossProfit / denominator
      else 999.99
    feeDragPerTrade := perTrade fees total
    totalPnl := metrics.totalPnl
    grossProfit := metrics.grossProfit
    grossLoss := metrics.grossLoss
    avgProfitPerTrade := perTrade metrics.totalPnl total
    avgWin := perTrade metrics.grossProfit winning
    avgLoss := perTrade metrics.grossLoss losing
    largestWin := metrics.largestWin
    largestLoss := metrics.largestLoss
    totalFeesPaid := fees }

def countOutcome (outcome : TradeOutcome) (trades : List CompletedTrade) : ℕ :=
  (trades.filter fun trade => decide (trade.outcome = outcome)).length

/-- `calculate_trade_statistics`: without completed trades the counters of the broker
are used. -/
def calculateTradeStatistics (broker : SimulatedBroker) : TradeStatistics :=
  let trades := broker.completedTrades
  let counted := broker.statistics
  if trades = [] then
    .ofMetrics counted.totalTrades counted.winningTrades counted.losingTrades
      (counted.totalTrades - counted.winningTrades - counted.losingTrades)
      .zero counted.totalFeesPaid
  else
    .ofMetrics trades.length (countOutcome .win trades)
      (countOutcome .loss trades) (countOutcome .breakeven trades)
      (.ofTrades trades) counted.totalFeesPaid

/-! ## What the sums are -/

/-- A trade as closing a position builds it. -/
def CompletedTrade.Built (trade : CompletedTrade) : Prop :=
  0 ≤ trade.feesPaid ∧
    ∃ symbol side entryTime entryPrice exitTime exitPrice quantity,
      trade = .fromPositionClose symbol side entryTime entryPrice exitTime
        exitPrice quantity trade.feesPaid

/-- The profits before fees of the losing trades. -/
def lostBeforeFees (trades : List CompletedTrade) : ℚ :=
  ((trades.filter fun trade => decide (trade.realizedPnl < trade.feesPaid)).map
    CompletedTrade.realizedPnl).sum

def evenFees (trades : List CompletedTrade) : ℚ :=
  ((trades.filter fun trade => decide (trade.realizedPnl = trade.feesPaid)).map
    CompletedTrade.feesPaid).sum

section Sums

variable {trades : List CompletedTrade}

theorem CompletedTrade.Built.cases {trade : CompletedTrade} (built : trade.Built) :
    trade.netPnl = trade.realizedPnl - trade.feesPaid ∧
      (trade.outcome = .win ∧ trade.feesPaid < trade.realizedPnl ∨
        trade.outcome = .loss ∧ trade.realizedPnl < trade.feesPaid ∨
        trade.outcome = .breakeven ∧ trade.realizedPnl = trade.feesPaid) := by
  obtain ⟨_, symbol, side, entryTime, entryPrice, exitTime, exitPrice, quantity,
    same⟩ := built
  have realized : trade.realizedPnl = side.gain entryPrice exitPrice quantity :=
    congrArg CompletedTrade.realizedPnl same
  have net : trade.netPnl = trade.realizedPnl - trade.feesPaid := by
    rw [realized]
    exact congrArg CompletedTrade.netPnl same
  have outcome : trade.outcome = if 0 < trade.realizedPnl - trade.feesPaid then .win
      else if trade.realizedPnl - trade.feesPaid < 0 then .loss
      else .breakeven := by
    rw [realized]
    exact congrArg CompletedTrade.outcome same
  refine ⟨net, ?_⟩
  rcases lt_trichotomy trade.realizedPnl trade.feesPaid with less | equal | more
  · rw [if_neg (by linarith), if_pos (by linarith)] at outcome
    exact .inr (.inl ⟨outcome, less⟩)
  · rw [if_neg (by linarith), if_neg (by linarith)] at outcome
    exact .inr (.inr ⟨outcome, equal⟩)
  · rw [if_pos (by linarith)] at outcome
    exact .inl ⟨outcome, more⟩

/-- The sums after the trades: what lost is in the gross loss with its sign, and what
came out even is in neither gross sum. -/
theorem ofTrades_spec (built : ∀ trade ∈ trades, trade.Built) :
    (PnlMetrics.ofTrades trades).grossLoss = lostBeforeFees trades ∧
      0 ≤ (PnlMetrics.ofTrades trades).grossProfit ∧
      (PnlMetrics.ofTrades trades).totalPnl =
        (PnlMetrics.ofTrades trades).grossProfit +
          (PnlMetrics.ofTrades trades).grossLoss -
          (trades.map CompletedTrade.feesPaid).sum + evenFees trades := by
  unfold PnlMetrics.ofTrades lostBeforeFees evenFees
  induction trades using List.reverseRecOn with
  | nil => simp [PnlMetrics.zero]
  | append_singleton trades trade induction =>
      obtain ⟨lost, profit, total⟩ := induction fun other member =>
        built other (List.mem_append_left _ member)
      have last := built trade (by simp)
      obtain ⟨net, outcome⟩ := last.cases
      have paid := last.1
      simp only [List.foldl_append, List.foldl_cons, List.foldl_nil,
        List.filter_append, List.map_append, List.sum_append, List.map_cons,
        List.map_nil, List.sum_cons, List.sum_nil]
      generalize List.foldl PnlMetrics.add PnlMetrics.zero trades = metrics
        at lost profit total ⊢
      rw [← lost]
      rcases outcome with ⟨won, more⟩ | ⟨lostToo, less⟩ | ⟨even, equal⟩
      · unfold PnlMetrics.add
        rw [won, List.filter_singleton, List.filter_singleton,
          decide_eq_false more.not_gt, decide_eq_false more.ne']
        refine ⟨by simp, by dsimp only; linarith, ?_⟩
        simp only [cond_false, List.map_nil, List.sum_nil]
        linarith
      · unfold PnlMetrics.add
        rw [lostToo, List.filter_singleton, List.filter_singleton,
          decide_eq_true less, decide_eq_false less.ne]
        refine ⟨by simp, profit, ?_⟩
        simp only [cond_false, List.map_nil, List.sum_nil]
        linarith
      · unfold PnlMetrics.add
        rw [even, List.filter_singleton, List.filter_singleton,
          decide_eq_false equal.not_lt, decide_eq_true equal]
        refine ⟨by simp, profit, ?_⟩
        simp only [cond_true, List.map_cons, List.map_nil, List.sum_cons,
          List.sum_nil]
        linarith

theorem one_le_netProfitFactor {total winning losing : ℕ} {breakeven : ℤ}
    {metrics : PnlMetrics} {fees : ℚ} (some : total ≠ 0) (paid : 0 ≤ fees)
    (money : metrics.grossLoss ≠ 0 ∨ fees ≠ 0) :
    1 ≤ (TradeStatistics.ofMetrics total winning losing breakeven metrics
        fees).netProfitFactor ↔ |metrics.grossLoss| + fees ≤ metrics.grossProfit := by
  have positive : 0 < |metrics.grossLoss| + fees := by
    rcases money with loss | fee
    · have := abs_pos.mpr loss
      linarith
    · have := abs_nonneg metrics.grossLoss
      have := lt_of_le_of_ne paid fee.symm
      linarith
  unfold TradeStatistics.ofMetrics
  dsimp only
  rw [if_neg some, if_pos positive.ne', le_div_iff₀ positive, one_mul]

end Sums

/-- In exact arithmetic the statistics are right exactly when the trades that lose
after fees do not win together before fees, and no even trade paid a fee. -/
theorem statistics_mean_iff (broker : SimulatedBroker)
    (some : broker.completedTrades ≠ [])
    (built : ∀ trade ∈ broker.completedTrades, trade.Built)
    (fees : broker.statistics.totalFeesPaid =
      (broker.completedTrades.map CompletedTrade.feesPaid).sum) :
    let statistics := calculateTradeStatistics broker
    (statistics.grossLoss ≤ 0 ∧ 0 ≤ statistics.grossProfit ∧
        statistics.totalPnl = statistics.grossProfit + statistics.grossLoss -
          statistics.totalFeesPaid ∧
        (statistics.grossLoss ≠ 0 ∨ statistics.totalFeesPaid ≠ 0 →
          (1 ≤ statistics.netProfitFactor ↔ 0 ≤ statistics.totalPnl))) ↔
      lostBeforeFees broker.completedTrades ≤ 0 ∧
        ∀ trade ∈ broker.completedTrades,
          trade.realizedPnl = trade.feesPaid → trade.feesPaid = 0 := by
  obtain ⟨lost, profit, total⟩ := ofTrades_spec built
  have paid : 0 ≤ broker.statistics.totalFeesPaid := by
    rw [fees]
    refine List.sum_nonneg fun fee listed => ?_
    obtain ⟨trade, member, rfl⟩ := List.mem_map.mp listed
    exact (built trade member).1
  have even : evenFees broker.completedTrades = 0 ↔
      ∀ trade ∈ broker.completedTrades,
        trade.realizedPnl = trade.feesPaid → trade.feesPaid = 0 := by
    unfold evenFees
    constructor
    · intro none trade member equal
      refine List.all_zero_of_le_zero_le_of_sum_eq_zero ?_ none (List.mem_map.mpr
        ⟨trade, List.mem_filter.mpr ⟨member, decide_eq_true equal⟩, rfl⟩)
      intro fee listed
      obtain ⟨other, kept, rfl⟩ := List.mem_map.mp listed
      exact (built other (List.mem_filter.mp kept).1).1
    · intro none
      refine List.sum_eq_zero fun fee listed => ?_
      obtain ⟨trade, kept, rfl⟩ := List.mem_map.mp listed
      obtain ⟨member, equal⟩ := List.mem_filter.mp kept
      exact none trade member (of_decide_eq_true equal)
  have length : broker.completedTrades.length ≠ 0 :=
    fun none => some (List.length_eq_zero_iff.mp none)
  unfold calculateTradeStatistics
  dsimp only
  rw [if_neg some]
  rw [← fees] at total
  change (PnlMetrics.ofTrades _).grossLoss ≤ 0 ∧
    0 ≤ (PnlMetrics.ofTrades _).grossProfit ∧
    (PnlMetrics.ofTrades _).totalPnl = _ ∧
    ((PnlMetrics.ofTrades _).grossLoss ≠ 0 ∨
      broker.statistics.totalFeesPaid ≠ 0 →
        (_ ↔ 0 ≤ (PnlMetrics.ofTrades _).totalPnl)) ↔ _
  rw [lost, ← even]
  rw [lost] at total
  constructor
  · rintro ⟨below, _, equal, _⟩
    refine ⟨below, ?_⟩
    change _ = (PnlMetrics.ofTrades _).grossProfit +
      (PnlMetrics.ofTrades _).grossLoss - broker.statistics.totalFeesPaid at equal
    rw [lost] at equal
    linarith
  · rintro ⟨below, none⟩
    rw [none, add_zero] at total
    refine ⟨below, profit, ?_, fun money => ?_⟩
    · change _ = (PnlMetrics.ofTrades _).grossProfit +
        (PnlMetrics.ofTrades _).grossLoss - broker.statistics.totalFeesPaid
      rw [lost, total]
    · rw [one_le_netProfitFactor length paid (by rw [lost]; exact money), lost,
        abs_of_nonpos below, total]
      constructor <;> intro covered <;> linarith

def soldUnit (price fee : ℚ) : CompletedTrade :=
  .fromPositionClose "BTC-USD" .long 0 100 60000000 price 1 fee

theorem soldUnit_built {price fee : ℚ} (paid : 0 ≤ fee) :
    (soldUnit price fee).Built :=
  ⟨paid, "BTC-USD", .long, 0, 100, 60000000, price, 1, rfl⟩

def brokerAfter (trade : CompletedTrade) : SimulatedBroker :=
  { SimulatedBroker.fresh 1000 .tier2
      { slippageBps := .empty, spreadImpactPct := 0, limitVolumeThreshold := 1,
        enableQueuePriority := false } with
    completedTrades := [trade]
    statistics := ⟨trade.feesPaid, 1, 1, 0, 0⟩ }

/-- A unit that wins 12 and pays 2 for it. -/
theorem paying_trade_means :
    let statistics := calculateTradeStatistics (brokerAfter (soldUnit 112 2))
    statistics.grossLoss ≤ 0 ∧ 0 ≤ statistics.grossProfit ∧
      statistics.totalPnl = statistics.grossProfit + statistics.grossLoss -
        statistics.totalFeesPaid ∧
      (statistics.grossLoss ≠ 0 ∨ statistics.totalFeesPaid ≠ 0 →
        (1 ≤ statistics.netProfitFactor ↔ 0 ≤ statistics.totalPnl)) :=
  (statistics_mean_iff (brokerAfter (soldUnit 112 2)) (List.cons_ne_nil _ _)
    (List.forall_mem_singleton.mpr (soldUnit_built (by decide +kernel)))
    (by decide +kernel)).mpr (by decide +kernel)

/-- A unit that wins 10 and pays 12 for it is a gross loss above zero, and the money
does not add up when a unit wins what it pays. -/
theorem paid_trades_mislead :
    0 < (calculateTradeStatistics (brokerAfter (soldUnit 110 12))).grossLoss ∧
      let statistics := calculateTradeStatistics (brokerAfter (soldUnit 110 10))
      statistics.totalPnl ≠ statistics.grossProfit + statistics.grossLoss -
        statistics.totalFeesPaid := by
  decide +kernel

end GptTrader
