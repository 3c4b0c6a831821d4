import GptTrader.TradeIdeas.Workflow

/-!
# The risk budget and its log

`trade_ideas/budget.py`.  The budget is renegotiated in versions, appended with
the actor that enacted them.  Reads check that the versions count up from one.
-/

namespace GptTrader

/-- One immutable version of the risk budget, with the checks of its
constructor. -/
@[ext]
structure RiskBudget where
  version : ℤ
  maxLossPerIdeaPct : ℚ
  maxDailyLossPct : ℚ
  maxOpenNotionalPct : ℚ
  maxConcurrentApprovedTickets : ℕ
  maxReviewLatencyHours : ℕ
  sizingCappedByBudget : Bool
  gainRetentionFloorPct : ℚ
  allowFuturesLeverage : Bool
  allowNakedShorts : Bool
  reason : String
  accountEquity : Option ℚ
  maxDrawdownFromPeakPct : Option ℚ
  maxEquityBuyingPowerPct : Option ℚ
  capsNonNegative : 0 ≤ maxLossPerIdeaPct ∧ 0 ≤ maxDailyLossPct ∧
    0 ≤ maxOpenNotionalPct ∧ 0 ≤ gainRetentionFloorPct
  equityPositive : ∀ equity ∈ accountEquity, 0 < equity
  leversNonNegative : (∀ cap ∈ maxDrawdownFromPeakPct, 0 ≤ cap) ∧
    ∀ cap ∈ maxEquityBuyingPowerPct, 0 ≤ cap

instance : DecidableEq RiskBudget :=
  fun _ _ => decidable_of_iff' _ RiskBudget.ext_iff

def defaultRiskBudget : RiskBudget :=
  { version := 1
    maxLossPerIdeaPct := 5
    maxDailyLossPct := 10
    maxOpenNotionalPct := 100
    maxConcurrentApprovedTickets := 5
    maxReviewLatencyHours := 72
    sizingCappedByBudget := true
    gainRetentionFloorPct := 50
    allowFuturesLeverage := false
    allowNakedShorts := false
    reason :=
      "Seeded aggressive defaults accepted 2026-06-11: principal fully at " ++
        "risk, gain-retention floor defends 50% of peak gains above the " ++
        "high-water mark"
    accountEquity := none
    maxDrawdownFromPeakPct := none
    maxEquityBuyingPowerPct := none
    capsNonNegative := by norm_num
    equityPositive := pos_of_mem_none
    leversNonNegative := by simp }

/-- An entry of the budget log. -/
structure BudgetLogEntry where
  timestamp : ℤ
  actorType : ActorType
  actorId : String
  budget : RiskBudget
  deriving DecidableEq

abbrev RiskBudgetLog : Type :=
  List BudgetLogEntry

namespace RiskBudgetLog

/-- One line of `history`: every version is one more than the number of lines
before it. -/
def readEntry (entries : List BudgetLogEntry) (entry : BudgetLogEntry) :
    Except ServiceError (List BudgetLogEntry) :=
  if entry.budget.version = (entries.length + 1 : ℕ) then
    .ok (entries ++ [entry])
  else .error (.about .budgetIntegrity "version"
    ("Budget log line " ++ toString (entries.length + 1) ++ " has version " ++
      toString entry.budget.version ++ "; expected " ++
      toString (entries.length + 1)))

def history (log : RiskBudgetLog) : Except ServiceError (List BudgetLogEntry) :=
  replay readEntry [] log

def current (log : RiskBudgetLog) : Except ServiceError (Option RiskBudget) :=
  log.history.map fun entries => entries.getLast?.map BudgetLogEntry.budget

/-- The log with a budget of the next version. -/
def append (log : RiskBudgetLog) (entry : BudgetLogEntry) :
    Except ServiceError RiskBudgetLog := do
  let current ← log.current
  let expected := (current.map RiskBudget.version).getD 0 + 1
  if entry.budget.version = expected then .ok (log ++ [entry])
  else .error (.about .budgetIntegrity "version"
    ("Expected version " ++ toString expected))

end RiskBudgetLog

end GptTrader
