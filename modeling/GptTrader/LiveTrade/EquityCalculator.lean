import GptTrader.LiveTrade.RiskState
import Mathlib.Data.List.Basic
import Mathlib.Tactic.NormNum

/-!
# Account equity

`EquityCalculator.calculate_total_equity` values every balance of the account and
adds the unrealized profit of the open positions.  It starts from the total of a
balance in read-only mode and from the part available for trading otherwise, so a
resting order, which holds funds without spending them, is invisible in the first
mode and lowers the equity in the second.

Amounts and sums are exact; prices may be any decimal.
-/

namespace GptTrader

/-- `core.account.Balance`. -/
structure Balance where
  asset : String
  total : ℚ
  available : ℚ
  hold : ℚ
  deriving DecidableEq

/-- What a calculation reads besides the balances: the configuration, the last
price of each cached history, the catalog, the tickers and the open positions. -/
structure EquityInputs where
  upper : String → String
  defaultQuote : Option String
  readOnly : Bool
  lastPrice : String → Option Decimal
  knownProducts : Option (List String)
  ticker : String → Except PyError Decimal
  unrealizedPnl : List ℚ

namespace EquityInputs

variable (inputs : EquityInputs)

/-- `str(coinbase_default_quote or "USD").upper()`. -/
def quote : String :=
  match inputs.defaultQuote with
  | some quote => inputs.upper (if quote = "" then "USD" else quote)
  | none => inputs.upper "USD"

def buildValuationQuotes : List String :=
  ["USD", "USDC"].foldl
    (fun quotes stable => if stable ∈ quotes then quotes else quotes ++ [stable])
    [inputs.quote]

def normalizeBalance (balance : Balance) : String × ℚ :=
  (inputs.upper balance.asset,
    if inputs.readOnly then balance.total else balance.available)

/-- `last_price and last_price > 0`; comparing a NaN raises. -/
def isPrice : Decimal → Except PyError Bool
  | .finite price => .ok (decide (0 < price))
  | .infinity negative => .ok !negative
  | .nan _ => .error .invalidOperation

/-- The first quote with a positive price, and otherwise what the last quote left;
an exception within the loop moves on to the next quote. -/
def findPrice (asset : String) :
    List String → Option Decimal → Except PyError (Option Decimal)
  | [], none => .ok none
  | [], some left => (isPrice left).map fun _ => none
  | quote :: rest, _ =>
      let product := asset ++ "-" ++ quote
      let accept (price : Decimal) :=
        match isPrice price with
        | .ok true => .ok (some price)
        | _ => findPrice asset rest (some price)
      match inputs.lastPrice product with
      | some price => accept price
      | none =>
          if inputs.knownProducts.any fun known =>
              decide (inputs.upper product ∉ known) then
            findPrice asset rest none
          else
            match inputs.ticker product with
            | .ok price => accept price
            | .error _ => findPrice asset rest none

/-- `_value_asset`: an infinite value cannot be written with two places. -/
def valueAsset (asset : String) (amount : ℚ) : Except PyError (Option ℚ) := do
  match ← inputs.findPrice asset inputs.buildValuationQuotes none with
  | some (.finite price) => .ok (some (amount * price))
  | some _ => .error .invalidOperation
  | none => .ok none

/-- One balance of `_calculate_collateral`: what it adds, exactly, to the cash and
to the converted collateral. -/
def collect (collateral : ℚ × ℚ) (normalized : String × ℚ) :
    Except PyError (ℚ × ℚ) := do
  let (asset, amount) := normalized
  let (cash, converted) := collateral
  if asset = "USD" ∨ asset = "USDC" then
    .ok (cash + amount, converted)
  else if amount ≤ 0 then
    .ok (cash, converted)
  else if asset = inputs.quote then
    .ok (cash + amount, converted)
  else if asset ∈ ["USD", "USDC"] ∧ inputs.quote ∈ ["USD", "USDC"] then
    .ok (cash + amount, converted)
  else
    match ← inputs.valueAsset asset amount with
    | some value => .ok (cash, converted + value)
    | none => .ok (cash, converted)

/-- The dollar balances summed, in exact arithmetic. -/
def calculateCollateral (balances : List Balance) : Except PyError (ℚ × ℚ) :=
  balances.foldlM (fun collateral balance =>
    inputs.collect collateral (inputs.normalizeBalance balance)) (0, 0)

/-- `calculate_total_equity` over the balances the broker lists. -/
def calculateTotalEquity (balances : List Balance) : Option ℚ :=
  match inputs.calculateCollateral balances with
  | .ok (cash, converted) => some (cash + converted + inputs.unrealizedPnl.sum)
  | .error _ => none

end EquityInputs

def Balance.reserve (amount : ℚ) (balance : Balance) : Balance :=
  { balance with
    available := balance.available - amount
    hold := balance.hold + amount }

/-- A resting order placed or cancelled: which balance it holds, and how much. -/
structure Reservation where
  index : ℕ
  amount : ℚ

def Reservation.apply (balances : List Balance) (reservation : Reservation) :
    List Balance :=
  balances.modify reservation.index (Balance.reserve reservation.amount)

/-- `_compute_equity` and `_update_equity_and_risk`: without an equity the cycle
ends. -/
def tradingCycle (context : RiskContext) (day : ℕ) (inputs : EquityInputs)
    (balances : List Balance) (manager : LiveRiskManager) : LiveRiskManager :=
  match inputs.calculateTotalEquity balances with
  | some equity => manager.trackDailyPnl context day (.finite equity)
  | none => manager

def tradingRun (context : RiskContext) (day : ℕ) (inputs : EquityInputs) :
    List Balance → LiveRiskManager → List (List Reservation) → LiveRiskManager
  | _, manager, [] => manager
  | balances, manager, orders :: cycles =>
      let balances := orders.foldl Reservation.apply balances
      tradingRun context day inputs balances
        (tradingCycle context day inputs balances manager) cycles

section Reservations

variable {context : RiskContext} {day : ℕ} {inputs : EquityInputs}

theorem collateral_eq_foldlM (balances : List Balance) :
    inputs.calculateCollateral balances =
      (balances.map inputs.normalizeBalance).foldlM inputs.collect (0, 0) := by
  rw [EquityInputs.calculateCollateral, List.foldlM_map]

theorem normalizeBalance_reserve (readOnly : inputs.readOnly = true) (amount : ℚ)
    (balance : Balance) :
    inputs.normalizeBalance (balance.reserve amount) =
      inputs.normalizeBalance balance := by
  simp [EquityInputs.normalizeBalance, Balance.reserve, readOnly]

section

variable (readOnly : inputs.readOnly = true) (balances : List Balance)

include readOnly balances

theorem normalize_apply (order : Reservation) :
    (order.apply balances).map inputs.normalizeBalance =
      balances.map inputs.normalizeBalance := by
  unfold Reservation.apply
  generalize order.index = index
  induction balances generalizing index with
  | nil => simp
  | cons balance balances induction =>
      cases index with
      | zero => simp [normalizeBalance_reserve readOnly]
      | succ index => simp [induction index]

theorem equity_apply (order : Reservation) :
    inputs.calculateTotalEquity (order.apply balances) =
      inputs.calculateTotalEquity balances := by
  simp only [EquityInputs.calculateTotalEquity, collateral_eq_foldlM,
    normalize_apply readOnly]

theorem equity_foldl (orders : List Reservation) :
    inputs.calculateTotalEquity (orders.foldl Reservation.apply balances) =
      inputs.calculateTotalEquity balances := by
  induction orders generalizing balances with
  | nil => rfl
  | cons order orders induction =>
      rw [List.foldl_cons, induction, equity_apply readOnly]

end

theorem collect_shift (cash converted more : ℚ) (normalized : String × ℚ) :
    inputs.collect (cash + more, converted) normalized =
      (inputs.collect (cash, converted) normalized).map
        fun collateral => (collateral.1 + more, collateral.2) := by
  obtain ⟨asset, amount⟩ := normalized
  simp only [EquityInputs.collect]
  split_ifs
  · simp [Except.map, add_right_comm]
  · simp [Except.map]
  · simp [Except.map, add_right_comm]
  · simp [Except.map, add_right_comm]
  · cases inputs.valueAsset asset amount with
    | error error => rfl
    | ok value =>
        cases value with
        | none => rfl
        | some value => rfl

theorem foldlM_collect_shift (cash converted more : ℚ)
    (normalized : List (String × ℚ)) :
    normalized.foldlM inputs.collect (cash + more, converted) =
      (normalized.foldlM inputs.collect (cash, converted)).map
        fun collateral => (collateral.1 + more, collateral.2) := by
  induction normalized generalizing cash converted with
  | nil => rfl
  | cons first rest induction =>
      rw [List.foldlM_cons, List.foldlM_cons, collect_shift]
      cases inputs.collect (cash, converted) first with
      | error error => rfl
      | ok collateral => exact induction collateral.1 collateral.2

theorem foldlM_reserve_cash (trading : inputs.readOnly = false) {index : ℕ}
    {balance : Balance} {balances : List Balance} (held : balances[index]? = some balance)
    (isCash : inputs.upper balance.asset = "USD" ∨ inputs.upper balance.asset = "USDC")
    (amount cash converted : ℚ) :
    ((balances.modify index (Balance.reserve amount)).map
        inputs.normalizeBalance).foldlM inputs.collect (cash, converted) =
      ((balances.map inputs.normalizeBalance).foldlM inputs.collect
        (cash, converted)).map fun collateral =>
          (collateral.1 - amount, collateral.2) := by
  induction balances generalizing index cash converted with
  | nil => simp at held
  | cons first rest induction =>
      cases index with
      | zero =>
          obtain rfl : first = balance := by simpa using held
          have before : inputs.collect (cash, converted) (inputs.normalizeBalance first) =
              .ok (cash + first.available, converted) := by
            simp [EquityInputs.collect, EquityInputs.normalizeBalance, isCash, trading]
          have after : inputs.collect (cash, converted)
              (inputs.normalizeBalance (first.reserve amount)) =
                .ok (cash + first.available + -amount, converted) := by
            simp only [EquityInputs.collect, EquityInputs.normalizeBalance,
              Balance.reserve, isCash, trading, if_true, Bool.false_eq_true, if_false]
            ring_nf
          rw [List.modify_zero_cons, List.map_cons, List.map_cons, List.foldlM_cons,
            List.foldlM_cons, before, after]
          simp only [sub_eq_add_neg]
          exact foldlM_collect_shift (cash + first.available) converted (-amount)
            (rest.map inputs.normalizeBalance)
      | succ index =>
          rw [List.modify_succ_cons, List.map_cons, List.map_cons, List.foldlM_cons,
            List.foldlM_cons]
          cases inputs.collect (cash, converted) (inputs.normalizeBalance first) with
          | error error => rfl
          | ok collateral =>
              exact induction (by simpa using held) collateral.1 collateral.2

theorem equity_reserve_cash (trading : inputs.readOnly = false) {order : Reservation}
    {balance : Balance} {balances : List Balance}
    (held : balances[order.index]? = some balance)
    (isCash : inputs.upper balance.asset = "USD" ∨
      inputs.upper balance.asset = "USDC") :
    inputs.calculateTotalEquity (order.apply balances) =
      (inputs.calculateTotalEquity balances).map fun equity =>
        equity - order.amount := by
  simp only [EquityInputs.calculateTotalEquity, collateral_eq_foldlM,
    Reservation.apply, foldlM_reserve_cash trading held isCash]
  cases (balances.map inputs.normalizeBalance).foldlM inputs.collect (0, 0) with
  | error error => rfl
  | ok collateral =>
      simp only [Except.map, Option.map_some, Option.some.injEq]
      ring

end Reservations

section Runs

variable {context : RiskContext} {day : ℕ} {inputs : EquityInputs} {limit : Decimal}

/-- No trigger so far, and the equity is not behind its start of the day by the
limit. -/
structure Untriggered (manager : LiveRiskManager) (equity : Option ℚ)
    (limit : Decimal) : Prop where
  untriggered : manager.brakes.dailyPnlTriggered = false
  small : ∀ start now, manager.brakes.startOfDayEquity = some start →
    equity = some now →
    LiveRiskManager.lossBreached start (.finite now) limit ≠ .ok true

theorem lossBreached_self (positive : (Decimal.finite 0).lt limit = .ok true)
    (equity : ℚ) :
    LiveRiskManager.lossBreached (.finite equity) (.finite equity) limit ≠
      .ok true := by
  by_cases above : 0 < equity
  · simp [LiveRiskManager.lossBreached, Decimal.sub, Decimal.negDiv, Decimal.ge,
      positive, above, bind, Except.bind, Except.map]
  · simp [LiveRiskManager.lossBreached, Decimal.sub, above, bind, Except.bind]

theorem Untriggered.tradingCycle {manager : LiveRiskManager} {balances : List Balance}
    (valid : context.dailyLossLimit = .limit limit)
    (positive : (Decimal.finite 0).lt limit = .ok true)
    (calm : Untriggered manager (inputs.calculateTotalEquity balances) limit) :
    Untriggered (tradingCycle context day inputs balances manager)
      (inputs.calculateTotalEquity balances) limit := by
  unfold GptTrader.tradingCycle
  cases computed : inputs.calculateTotalEquity balances with
  | none => rwa [computed] at calm
  | some equity =>
      rw [computed] at calm
      unfold LiveRiskManager.trackDailyPnl
      cases began : manager.brakes.startOfDayEquity with
      | none =>
          refine { untriggered := calm.untriggered, small := ?_ }
          intro start now started same
          obtain rfl : Decimal.finite equity = start := Option.some.inj started
          obtain rfl : equity = now := Option.some.inj same
          exact lossBreached_self positive equity
      | some start =>
          have small := calm.small start equity began rfl
          rw [valid]
          cases breached : LiveRiskManager.lossBreached start (.finite equity) limit with
          | error error => simpa [breached] using calm
          | ok breach =>
              cases breach with
              | true => exact absurd breached small
              | false => simpa [breached] using calm

theorem Untriggered.tradingRun (readOnly : inputs.readOnly = true)
    (valid : context.dailyLossLimit = .limit limit)
    (positive : (Decimal.finite 0).lt limit = .ok true)
    (cycles : List (List Reservation)) {balances : List Balance}
    {manager : LiveRiskManager}
    (calm : Untriggered manager (inputs.calculateTotalEquity balances) limit) :
    Untriggered (tradingRun context day inputs balances manager cycles)
      (inputs.calculateTotalEquity balances) limit := by
  induction cycles generalizing balances manager with
  | nil => exact calm
  | cons orders cycles induction =>
      have same := equity_foldl readOnly balances orders
      rw [GptTrader.tradingRun, ← same]
      exact induction (Untriggered.tradingCycle valid positive (same ▸ calm))

/-- Counting total balances, an order placed or cancelled leaves the equity as it
is; counting the available part, in exact sums, the cash it holds leaves it. -/
theorem reservations_in_both_modes (balances : List Balance)
    (manager : LiveRiskManager) (cycles : List (List Reservation))
    (valid : context.dailyLossLimit = .limit limit)
    (positive : (Decimal.finite 0).lt limit = .ok true)
    (calm : Untriggered manager (inputs.calculateTotalEquity balances) limit) :
    (inputs.readOnly = true →
      (∀ order : Reservation, inputs.calculateTotalEquity (order.apply balances) =
        inputs.calculateTotalEquity balances) ∧
      (tradingRun context day inputs balances manager
        cycles).brakes.dailyPnlTriggered = false) ∧
    (inputs.readOnly = false →
      ∀ (order : Reservation) (balance : Balance),
        balances[order.index]? = some balance →
        (inputs.upper balance.asset = "USD" ∨
          inputs.upper balance.asset = "USDC") →
        inputs.calculateTotalEquity (order.apply balances) =
          (inputs.calculateTotalEquity balances).map fun equity =>
            equity - order.amount) := by
  refine ⟨fun readOnly => ⟨equity_apply readOnly balances, ?_⟩, ?_⟩
  · exact (calm.tradingRun readOnly valid positive cycles).untriggered
  · intro trading order balance held isCash
    exact equity_reserve_cash trading held isCash

end Runs

section Examples

def unpriced (readOnly : Bool) : EquityInputs :=
  { upper := id
    defaultQuote := none
    readOnly := readOnly
    lastPrice := fun _ => none
    knownProducts := none
    ticker := fun _ => .error .keyError
    unrealizedPnl := [] }

def dollars (amount : ℚ) : Balance :=
  { asset := "USD", total := amount, available := amount, hold := 0 }

/-- A watched account loses nothing by an open order. -/
theorem watched_order_is_no_loss :
    (tradingRun RiskSession.riskContext 1 (unpriced true) [dollars 100] .fresh
      [[], [{ index := 0, amount := 10 }]]).brakes.dailyPnlTriggered = false :=
  ((@reservations_in_both_modes RiskSession.riskContext 1 (unpriced true)
      (.finite (1 / 20)) [dollars 100] .fresh
      [[], [{ index := 0, amount := 10 }]] rfl (by norm_num)
      { untriggered := rfl
        small := fun _ _ started => by cases started }).1 rfl).2

/-- Counting the available part, an order for a tenth of the account triggers a
limit of a twentieth. -/
theorem resting_order_triggers_daily_loss :
    (unpriced false).calculateTotalEquity (Reservation.apply [dollars 100]
        { index := 0, amount := 10 }) ≠
      (unpriced false).calculateTotalEquity [dollars 100] ∧
    (tradingRun RiskSession.riskContext 1 (unpriced false) [dollars 100] .fresh
      [[], [{ index := 0, amount := 10 }]]).brakes.dailyPnlTriggered = true := by
  decide +kernel

end Examples

end GptTrader
