import GptTrader.Core.RoundedProjection
import GptTrader.Experiment.Engine

/-!
# Independent reconciliation

`reconcile` (`features/experiment/ledger.py`): cash and fees are derived from
the fills of the events, inventory and profit from `project_position`, and both
are compared with the last recorded state.
-/

namespace GptTrader

/-- Why events do not reconcile. -/
inductive ReconcileError where
  | duplicateFill
  | invalidFee
  | symbolMismatch
  | incompletePosition
  | failed
  deriving DecidableEq

def ReconcileError.message : ReconcileError → String
  | .duplicateFill => "Duplicate simulated fill identity"
  | .invalidFee => "Missing or invalid simulated fee"
  | .symbolMismatch => "Projection input symbol mismatch"
  | .incompletePosition =>
      "Incomplete position reconciliation: ('execution_order_ambiguous',)"
  | .failed =>
      "Cash, inventory, fees or net P&L failed independent reconciliation"

/-- What is derived from the debits and credits of fills. -/
structure CashBooks where
  cash : ℚ
  fees : ℚ
  entryFees : ℚ
  realizedFees : ℚ
  deriving DecidableEq

namespace CashBooks

def opening (source : ExperimentInput) : CashBooks :=
  { cash := source.settings.initialCash
    fees := 0
    entryFees := 0
    realizedFees := 0 }

/-- Enter a fill. -/
def enter (context : DecimalContext) (books : CashBooks) (fill : FillFact) :
    Except ReconcileError CashBooks :=
  match fill.fee with
  | none => .error .invalidFee
  | some fee =>
      if fill.feeCurrency ≠ some "USD" ∨ fee < 0 then .error .invalidFee
      else
        let notional := context.mul fill.quantity fill.price
        let cash := context.add books.cash (context.sub
          (context.mul notional (if fill.side = "buy" then -1 else 1)) fee)
        let fees := context.add books.fees fee
        if fill.side = "buy" then
          .ok
            { cash := cash
              fees := fees
              entryFees := context.add books.entryFees fee
              realizedFees := books.realizedFees }
        else
          .ok
            { cash := cash
              fees := fees
              entryFees := 0
              realizedFees := context.add books.realizedFees
                (context.add books.entryFees fee) }

/-- The books after a list of fills. -/
def enterAll (context : DecimalContext) (books : CashBooks) :
    List FillFact → Except ReconcileError CashBooks
  | [] => .ok books
  | fill :: rest =>
      match books.enter context fill with
      | .error error => .error error
      | .ok entered => entered.enterAll context rest

theorem enterAll_append_singleton {context : DecimalContext}
    {books entered : CashBooks} {fills : List FillFact}
    (before : books.enterAll context fills = .ok entered) (fill : FillFact) :
    books.enterAll context (fills ++ [fill]) = entered.enter context fill := by
  induction fills generalizing books with
  | nil =>
      cases before
      rw [List.nil_append]
      unfold enterAll
      cases entered.enter context fill with
      | error error => rfl
      | ok next => rfl
  | cons first rest induction =>
      rw [List.cons_append]
      unfold enterAll at before ⊢
      cases step : books.enter context first with
      | error error =>
          rw [step] at before
          cases before
      | ok next =>
          rw [step] at before
          exact induction before

end CashBooks

/-- The report of reconciled events. -/
structure AccountReport where
  cash : ℚ
  quantity : ℚ
  mark : ℚ
  equity : ℚ
  realizedNet : ℚ
  unrealizedNet : ℚ
  netPnl : ℚ
  fees : ℚ
  fillCount : ℕ
  deriving DecidableEq

section Reconcile

variable (context : DecimalContext) (source : ExperimentInput)

def ExperimentInput.opensAt : ℤ :=
  (source.candles.head?.map (·.ts.instant)).getD 0

/-- The flat baseline before the first bar. -/
def openingBaseline : PositionBaseline :=
  { symbol := source.symbol
    effectiveAt := source.opensAt - 1000000
    quantity := 0
    entryPrice := none
    evidence := "Explicit flat synthetic opening inventory"
    actorId := "local-experiment"
    coveredOrderIds := []
    identified := ⟨source.symbol_ne_empty, by decide, by decide⟩
    distinct := List.nodup_nil
    named := flatOpening.named
    priced := flatOpening.priced
    positive := flatOpening.positive }

def allFills (events : List ExperimentEvent) : List FillFact :=
  events.flatMap (·.fills)

/-- The close of the last bar that has an event. -/
def markAfter (count : ℕ) : ℚ :=
  if count = 0 then 0
  else ((source.candles[count - 1]?).map (·.close)).getD 0

/-- The report of an account that reconciles. -/
def accountReport (state : AccountState) (books : CashBooks)
    (inventory : Inventory) (mark : ℚ) (fillCount : ℕ) : AccountReport :=
  let held := context.mul inventory.quantity mark
  { cash := books.cash
    quantity := inventory.quantity
    mark := mark
    equity := context.add books.cash held
    realizedNet := state.realizedNet
    unrealizedNet := context.sub held state.costBasis
    netPnl := context.sub
      (context.add inventory.realized
        (context.mul inventory.quantity (context.sub mark inventory.entry)))
      books.fees
    fees := books.fees
    fillCount := fillCount }

/-- The checks of `reconcile`: the state is what the fills say. -/
def booksAgree (state : AccountState) (books : CashBooks)
    (inventory : Inventory) (report : AccountReport) : Prop :=
  books.cash = state.cash ∧
    inventory.quantity = state.quantity ∧
    books.fees = state.fees ∧
    state.costBasis = context.add
      (context.mul inventory.quantity inventory.entry) books.entryFees ∧
    state.realizedNet =
      context.sub inventory.realized books.realizedFees ∧
    0 ≤ books.cash ∧
    0 ≤ inventory.quantity ∧
    report.netPnl =
      context.sub report.equity source.settings.initialCash ∧
    context.add state.realizedNet report.unrealizedNet = report.netPnl

instance (state : AccountState) (books : CashBooks) (inventory : Inventory)
    (report : AccountReport) :
    Decidable (booksAgree context source state books inventory report) := by
  unfold booksAgree
  infer_instance

def reconcile (events : List ExperimentEvent) :
    Except ReconcileError AccountReport :=
  let state := stateAfter source events
  let fills := allFills events
  if (fills.map (·.fillId)).Nodup then
    match (CashBooks.opening source).enterAll context fills with
    | .error error => .error error
    | .ok books =>
        if fills.any (fun fill => fill.symbol ≠ source.symbol) then
          .error .symbolMismatch
        else
          match projectBooks context fills (openingBaseline source) with
          | none => .error .incompletePosition
          | some inventory =>
              let report := accountReport context state books inventory
                (markAfter source events.length) fills.length
              if booksAgree context source state books inventory report then
                .ok report
              else .error .failed
  else .error .duplicateFill

end Reconcile

end GptTrader
