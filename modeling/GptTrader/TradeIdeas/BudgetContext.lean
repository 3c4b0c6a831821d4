import GptTrader.TradeIdeas.Policy
import GptTrader.TradeIdeas.Positions

/-!
# Aggregate budget exposure

The exposure queries of `trade_ideas/service.py`: which ideas are open, which
closeouts count in the current session, the equity they are measured against,
and the paper accounting behind the drawdown monitor.
-/

namespace GptTrader

section Sessions

variable (env : TradeEnv)

/-- `_same_accounting_session`: a session that cannot be evaluated counts. -/
def sameAccountingSession (instrument : String) (first second : ℤ) :
    Bool × String :=
  let dates := do
    let calendar ← env.calendar instrument
    let firstDate ← calendar.sessionDate first
    let secondDate ← calendar.sessionDate second
    .ok (decide (firstDate = secondDate), calendar.sessionId ++ ":" ++ secondDate)
  match dates with
  | .ok session => session
  | .error _ => (true, "unresolved:" ++ env.showDay second)

/-- `_session_is_open`: closed unless proven open. -/
def sessionIsOpen (idea : TradeIdea) (moment : ℤ) : Bool :=
  match env.calendar idea.instrument >>= fun calendar =>
    calendar.isOpen moment with
  | .ok isOpen => isOpen
  | .error _ => false

/-- `review_deadline`: only time the instrument is open counts. -/
def reviewDeadline (idea : TradeIdea) (reviewStartedAt : Option ℤ)
    (budget : RiskBudget) : Option ℤ :=
  reviewStartedAt.map fun started =>
    match env.calendar idea.instrument >>= fun calendar =>
      calendar.advance started budget.maxReviewLatencyHours with
    | .ok deadline => deadline
    | .error (.instrument _) =>
        started + ApprovalPolicy.hours budget.maxReviewLatencyHours
    | .error (.domain _) => started

end Sessions

section Amounts

/-- `_equity_from_max_loss_amount_percent`. -/
def equityFromMaxLoss (amount percentOfAccount : Option ℚ) : Option ℚ :=
  match amount, percentOfAccount with
  | some amount, some percent =>
      if percent ≤ 0 then none else some (amount * 100 / percent)
  | _, _ => none

def percentOfAmount (amount equity : ℚ) : Option ℚ :=
  if equity ≤ 0 then none else some (amount / equity * 100)

def closeoutLossPercent (closeout : CloseoutAttribution) : Option ℚ :=
  match closeout.realizedProfitLossPercent, closeout.realizedProfitLossAmount with
  | some percent, _ => some |min percent 0|
  | none, none => none
  | none, some amount =>
      if 0 ≤ amount then some 0
      else
        (equityFromMaxLoss closeout.maxLoss.amount
          closeout.maxLoss.percentOfAccount).bind (percentOfAmount |amount|)

/-- `_closeout_has_realized_profit_loss`. -/
def CloseoutAttribution.hasRealized (closeout : CloseoutAttribution) : Bool :=
  closeout.realizedProfitLossAmount.isSome ||
    closeout.realizedProfitLossPercent.isSome

def Exposure.absoluteNotional (exposure : Exposure) : Option ℚ :=
  exposure.notional.map fun notional => |notional|

/-- `_open_equity_notional`: the amount, and whether it is unavailable. -/
def openEquityNotional (exposure : Exposure) : ℚ × ℕ :=
  match classifyInstrument exposure.instrument with
  | none => (0, 1)
  | some .crypto => (0, 0)
  | some .equity =>
      match exposure.absoluteNotional with
      | none => (0, 1)
      | some notional => (notional, 0)

/-- Proceeds of sales that have not settled. -/
def unsettledEquityProceeds (exposure : Exposure)
    (closeout : CloseoutAttribution) : ℚ × ℕ :=
  match classifyInstrument exposure.instrument with
  | none => (0, 1)
  | some assetClass =>
      if assetClass.settlementDays = 0 then (0, 0)
      else
        match exposure.absoluteNotional, closeout.realizedProfitLossAmount with
        | some notional, some realized => (max (notional + realized) 0, 0)
        | _, _ => (0, 1)

def sumKnown (values : List (Option ℚ)) : ℚ :=
  values.reduceOption.sum

def countUnknown (values : List (Option ℚ)) : ℕ :=
  (values.filter Option.isNone).length

end Amounts

/-- What the latest event of a decision contributes to the exposure. -/
inductive Contribution where
  | nothing
  | opened (exposure : Exposure)
  | closed (exposure : Exposure) (closeout : CloseoutAttribution)
    (sessionDate : String)

def Contribution.opened? : Contribution → Option Exposure
  | .opened exposure => some exposure
  | _ => none

def Contribution.closed? :
    Contribution → Option (Exposure × CloseoutAttribution × String)
  | .closed exposure closeout sessionDate =>
      some (exposure, closeout, sessionDate)
  | _ => none

namespace TradeState

variable (env : TradeEnv)

/-- What a filled idea adds to the context. -/
def filledContribution (reducedTargets : List String) (idea : TradeIdea) :
    Query Contribution :=
  fun store =>
    if idea.decisionId ∈ reducedTargets then do
      let projected ← store.position env idea.decisionId
      if 0 < projected.remaining then
        .ok (.opened
          (scaledIdea idea (projected.remaining / projected.entryQuantity)))
      else .ok .nothing
    else .ok (.opened idea.exposure)

/-- A closeout of the current session counts when the idea filled or the
closeout realized something. -/
def closedContribution (idea : TradeIdea) (state : TradeIdeaState)
    (closeout : CloseoutAttribution) (now : ℤ) : Contribution :=
  let session := sameAccountingSession env idea.instrument closeout.timestamp now
  if session.1 && (decide (state = .filled) || closeout.hasRealized) then
    .closed idea.exposure closeout session.2
  else .nothing

/-- What one decision contributes. -/
def contribution (exclude : Option String) (now : ℤ)
    (reducedTargets : List String) (latest : String × AuditEvent) :
    Query Contribution :=
  fun store => do
    let (decisionId, event) := latest
    let idea ← store.loadRecordVersion env decisionId event.recordHash
    -- An exit operation never creates another opening exposure.
    if idea.reducing then .ok .nothing
    else if event.afterState = .approved ∨ event.afterState = .submitted then
      if exclude = some decisionId then .ok .nothing
      else .ok (.opened idea.exposure)
    else if event.afterState.terminal then do
      let closeout ← store.validatedCloseoutAttribution idea event
      match closeout with
      | none =>
          if event.afterState = .filled ∧ exclude ≠ some decisionId then
            store.filledContribution env reducedTargets idea
          else .ok .nothing
      | some closeout =>
          -- Per-fill records replace the final aggregate.
          if decisionId ∈ reducedTargets then .ok .nothing
          else .ok (closedContribution env idea event.afterState closeout now)
    else .ok .nothing

/-- The exposure of every decision, with the reductions realized so far. -/
structure Exposures where
  opened : List Exposure
  closed : List (Exposure × CloseoutAttribution)
  sessionDates : List String

def sessionReductions (now : ℤ) (reductions : List (Exposure × CloseoutAttribution)) :
    List (Exposure × CloseoutAttribution × String) :=
  reductions.filterMap fun (portion, record) =>
    let session := sameAccountingSession env portion.instrument record.timestamp
      now
    if session.1 then some (portion, record, session.2) else none

/-- The open exposure and the closed ones. -/
def exposures (exclude : Option String) (now : ℤ) : Query Exposures :=
  fun store => do
    let reductions ← store.reductionRecords env
    let reducedTargets := reductions.map fun entry => entry.2.decisionId
    let contributions ← store.latestAuditEvents.entries.mapM fun latest =>
      store.contribution env exclude now reducedTargets latest
    let closed := contributions.filterMap Contribution.closed? ++
      sessionReductions env now reductions
    .ok
      { opened := contributions.filterMap Contribution.opened?
        closed := closed.map fun entry => (entry.1, entry.2.1)
        sessionDates := (closed.map fun entry => entry.2.2).dedup.insertionSort
          fun left right => left ≤ right }

/-- `_account_equity_snapshot`: the attested equity, else the equity behind an
approved record. -/
def accountEquitySnapshot (budgetEquity : Option ℚ) (exposures : Exposures) :
    Option ℚ :=
  budgetEquity.orElse fun _ =>
    (exposures.opened.findSome? fun exposure =>
      equityFromMaxLoss exposure.amount exposure.percentOfAccount).orElse fun _ =>
        exposures.closed.findSome? fun entry =>
          equityFromMaxLoss entry.2.maxLoss.amount
            entry.2.maxLoss.percentOfAccount

def Exposures.context (exposures : Exposures) (budgetEquity : Option ℚ) :
    ApprovalBudgetContext :=
  let losses := exposures.closed.map fun entry => closeoutLossPercent entry.2
  let atRisk := exposures.opened.map Exposure.percentOfAccount
  let notionals := exposures.opened.map Exposure.absoluteNotional
  let equity := exposures.opened.map openEquityNotional
  let unsettled := exposures.closed.map fun entry =>
    unsettledEquityProceeds entry.1 entry.2
  { sameDayRealizedLossPct := sumKnown losses
    sameDayRealizedLossUnavailableCount := countUnknown losses
    dailyLossSessionDates := exposures.sessionDates
    openApprovedAtRiskPct := sumKnown atRisk
    openAtRiskUnavailableCount := countUnknown atRisk
    openNotional := sumKnown notionals
    openNotionalUnavailableCount := countUnknown notionals
    accountEquitySnapshot := accountEquitySnapshot budgetEquity exposures
    openEquityNotional := (equity.map Prod.fst).sum
    openEquityNotionalUnavailableCount := (equity.map Prod.snd).sum
    unsettledEquityProceeds := (unsettled.map Prod.fst).sum
    unsettledEquityProceedsUnavailableCount := (unsettled.map Prod.snd).sum }

/-- What an approval is checked against. -/
def approvalBudgetContext (exclude : Option String) (now : ℤ) :
    Query ApprovalBudgetContext :=
  fun store => do
    let exposures ← store.exposures env exclude now
    let budget ← store.peekBudget
    .ok (exposures.context budget.accountEquity)

/-- `query_closeout_records()`, in the order of time and decision. -/
def queryCloseoutRecords : Query (List CloseoutAttribution) :=
  fun store => do
    let views ← store.listViews env
    .ok ((views.filterMap TradeIdeaView.closeoutAttribution).insertionSort
      fun left right => left.timestamp < right.timestamp ∨
        (left.timestamp = right.timestamp ∧ left.decisionId ≤ right.decisionId))

def accountingCloseouts : Query (List CloseoutAttribution) :=
  fun store => do
    let reductions ← store.reductionRecords env
    let records ← store.queryCloseoutRecords env
    let reductions := reductions.map Prod.snd
    .ok ((records.filter fun record =>
      decide (record.decisionId ∉
        reductions.map CloseoutAttribution.decisionId)) ++ reductions)

def paperAccounting : Query PaperAccountingSummary :=
  fun store => do
    let entries ← store.budget.history
    let closeouts ← store.accountingCloseouts env
    let records ← store.queryCloseoutRecords env
    .ok { PaperAccounting.compute entries closeouts store.closeoutTerminalTimes with
      closeoutCount := records.length }

end TradeState

section Ratchet

variable (env : TradeEnv)

/-- The day's losses passed the budget. -/
def dailyLossBreachEvidence (context : ApprovalBudgetContext)
    (budget : RiskBudget) (moment : ℤ) : Option (List String) :=
  if context.sameDayRealizedLossPct ≤ budget.maxDailyLossPct then none
  else
    let window :=
      if context.dailyLossSessionDates.isEmpty then
        " on trading_day=" ++ env.showDay moment
      else
        " across session_dates=" ++ ",".intercalate context.dailyLossSessionDates
    some
      ["same_day_realized_loss_pct=" ++
        env.showValue context.sameDayRealizedLossPct ++
        " exceeds max_daily_loss_pct=" ++ env.showValue budget.maxDailyLossPct ++
        " from risk budget version " ++ toString budget.version ++ window]

/-- The drawdown passed the budget. -/
def drawdownFromPeakBreachEvidence (accounting : PaperAccountingSummary)
    (budget : RiskBudget) (moment : ℤ) : Option (List String) :=
  match budget.maxDrawdownFromPeakPct, accounting.drawdownPercent with
  | some limit, some drawdown =>
      if drawdown ≤ limit then none
      else some
        ["drawdown_from_peak_pct=" ++ env.showValue drawdown ++
          " exceeds max_drawdown_from_peak_pct=" ++ env.showValue limit ++
          " from risk budget version " ++ toString budget.version ++ " at " ++
          env.showTime moment ++ " (high_water_mark=" ++
          env.showOptional accounting.highWaterMark ++ ", current_equity=" ++
          env.showOptional accounting.currentEquity ++ ")"]
  | _, _ => none

end Ratchet

end GptTrader
