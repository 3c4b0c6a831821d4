import GptTrader.TradeIdeas.State

/-!
# The approval policy and kernel checks

`trade_ideas/eligibility.py`, `trade_ideas/policy.py` and the `KernelCheck` of
`trade_ideas/kernel.py`.  The policy lists every reason an approval must be
refused; no reason means it is admitted.
-/

namespace GptTrader

/-- Aggregate budget exposure visible at an approval decision. -/
structure ApprovalBudgetContext where
  sameDayRealizedLossPct : ℚ
  sameDayRealizedLossUnavailableCount : ℕ
  dailyLossSessionDates : List String
  openApprovedAtRiskPct : ℚ
  openAtRiskUnavailableCount : ℕ
  openNotional : ℚ
  openNotionalUnavailableCount : ℕ
  accountEquitySnapshot : Option ℚ
  openEquityNotional : ℚ
  openEquityNotionalUnavailableCount : ℕ
  unsettledEquityProceeds : ℚ
  unsettledEquityProceedsUnavailableCount : ℕ
  deriving DecidableEq

/-- `ApprovalBudgetContext()`. -/
def ApprovalBudgetContext.empty : ApprovalBudgetContext :=
  { sameDayRealizedLossPct := 0
    sameDayRealizedLossUnavailableCount := 0
    dailyLossSessionDates := []
    openApprovedAtRiskPct := 0
    openAtRiskUnavailableCount := 0
    openNotional := 0
    openNotionalUnavailableCount := 0
    accountEquitySnapshot := none
    openEquityNotional := 0
    openEquityNotionalUnavailableCount := 0
    unsettledEquityProceeds := 0
    unsettledEquityProceedsUnavailableCount := 0 }

/-- A violation's text when its condition holds. -/
def violationIf (condition : Prop) [Decidable condition] (text : String) :
    List String :=
  if condition then [text] else []

/-- What an idea must state. -/
def evaluateEligibility (idea : TradeIdea) : List String :=
  violationIf (isBlank idea.thesis = true)
      "Missing thesis: no plain-language reason the trade exists" ++
    violationIf (isBlank idea.instrument = true)
      "Missing instrument: no exact symbol or product identifier" ++
    violationIf (isBlank idea.invalidation = true)
      "Missing invalidation: no level or condition that makes the thesis false" ++
    violationIf (isBlank idea.targetExit = true)
      "Missing target_exit: no target, time stop, or exit condition" ++
    violationIf
      (idea.maxLoss.amount = none ∧ idea.maxLoss.percentOfAccount = none)
      "Missing max_loss: no dollar or percent loss estimate" ++
    violationIf (idea.dataUsed = [])
      "Missing data_used: no reproducible data sources recorded" ++
    violationIf (idea.timeHorizon.expiresAt = none)
      "Missing expiry: no review deadline or expiration time" ++
    violationIf (idea.entryZone.lower = none ∧ idea.entryZone.upper = none ∧
        isBlank idea.entryZone.trigger = true)
      "Missing entry_zone: no price range or conditional trigger" ++
    violationIf (isBlank idea.failureMode = true)
      "Missing failure_mode: most likely way the trade fails is not recorded"

namespace ApprovalPolicy

section Actor

/-- Who may approve under a mode. -/
def actorViolations (mode : AutonomyMode) (actorType : ActorType) :
    List String :=
  match mode with
  | .researchOnly => ["Autonomy mode 'research_only' does not permit approvals"]
  | .humanApprovedExecution =>
      violationIf (actorType ≠ .human)
        ("Autonomy mode 'human_approved_execution' requires a human approver; " ++
          "got actor_type '" ++ actorType.value ++ "'")
  | .boundedAutonomy =>
      violationIf (actorType ≠ .human ∧ actorType ≠ .system)
        ("Autonomy mode 'bounded_autonomy' permits only human or system " ++
          "approvals inside the budget envelope " ++
          "(docs/decisions/stage2-auto-approval-workflow.md); got actor_type '" ++
          actorType.value ++ "'")

def budgetChangeViolations (mode : AutonomyMode) (actorType : ActorType) :
    List String :=
  match mode with
  | .boundedAutonomy =>
      violationIf (actorType ≠ .human)
        ("Autonomy mode 'bounded_autonomy' does not permit non-human budget " ++
          "changes until a budget meta-envelope is modeled or a later decision " ++
          "packet scopes a narrower exception; got actor_type '" ++
          actorType.value ++ "'")
  | _ =>
      violationIf (actorType ≠ .human)
        ("Autonomy mode '" ++ mode.value ++ "' requires a human to enact " ++
          "budget changes; got actor_type '" ++ actorType.value ++ "'")

end Actor

section Exposure

variable (env : TradeEnv) (idea : TradeIdea) (budget : RiskBudget)
  (context : ApprovalBudgetContext)

def unverifiedViolations (count : ℕ) (before after : String) : List String :=
  violationIf (count ≠ 0) (before ++ toString count ++ after)

def candidatePercent : Option ℚ :=
  if idea.reducing then some 0 else idea.maxLoss.percentOfAccount

def candidateNotional : Option ℚ :=
  if idea.reducing then some 0 else idea.sizingRecommendation.notional

/-- The day's loss with the candidate's. -/
def projectedDailyLossPct (percent : ℚ) : ℚ :=
  context.sameDayRealizedLossPct + context.openApprovedAtRiskPct + percent

/-- The loss limits. -/
def lossViolations : List String :=
  match candidatePercent idea with
  | none =>
      ["max_loss.percent_of_account is required to verify the idea against " ++
        "the budget"]
  | some percent =>
      if budget.maxLossPerIdeaPct < percent then
        ["max_loss " ++ env.showValue percent ++ "% exceeds budget cap of " ++
          env.showValue budget.maxLossPerIdeaPct ++ "% per idea"]
      else
        violationIf
          (budget.maxDailyLossPct < projectedDailyLossPct context percent)
          ("max_daily_loss_pct budget breached: projected daily loss exposure " ++
            env.showPlain (projectedDailyLossPct context percent) ++
            "% exceeds limit " ++ env.showPlain budget.maxDailyLossPct ++
            "% (same_day_realized_loss_pct=" ++
            env.showPlain context.sameDayRealizedLossPct ++
            "%, open_approved_at_risk_pct=" ++
            env.showPlain context.openApprovedAtRiskPct ++
            "%, candidate_max_loss_pct=" ++ env.showPlain percent ++ "%)")

/-- The open notional with the candidate's. -/
def projectedNotional (notional : ℚ) : ℚ :=
  |context.openNotional| + |notional|

def equityCapViolations (projected : ℚ) (cap : String) (limit : ℚ)
    (breach : ℚ → String) : List String :=
  if 0 < projected then
    match context.accountEquitySnapshot with
    | none =>
        ["account_equity_snapshot is required to verify " ++ cap ++
          " budget exposure"]
    | some equity =>
        if equity ≤ 0 then
          ["account_equity_snapshot must be positive to verify " ++ cap ++
            " budget exposure; got " ++ env.showPlain equity]
        else
          violationIf (limit < projected / equity * 100) (breach equity)
  else []

/-- The exposure limits. -/
def notionalViolations : List String :=
  match candidateNotional idea with
  | none =>
      ["sizing_recommendation.notional is required to verify " ++
        "max_open_notional_pct budget exposure"]
  | some notional =>
      let projected := projectedNotional context notional
      equityCapViolations env context projected "max_open_notional_pct"
        budget.maxOpenNotionalPct fun equity =>
          "max_open_notional_pct budget breached: projected open notional " ++
            env.showPlain (projected / equity * 100) ++ "% exceeds limit " ++
            env.showPlain budget.maxOpenNotionalPct ++
            "% (projected_open_notional=" ++ env.showPlain projected ++
            ", account_equity_snapshot=" ++ env.showPlain equity ++ ")"

/-- The settled cash an equity candidate needs. -/
def settledCashViolations (cap : ℚ) : List String :=
  unverifiedViolations context.openEquityNotionalUnavailableCount
      "open budget exposure includes "
      (" idea(s) whose equity notional cannot be verified; " ++
        "max_equity_buying_power_pct budget exposure cannot be verified") ++
    unverifiedViolations context.unsettledEquityProceedsUnavailableCount
      "unsettled equity closeouts include "
      (" closeout(s) whose sale proceeds cannot be verified; " ++
        "max_equity_buying_power_pct budget exposure cannot be verified") ++
    match idea.sizingRecommendation.notional with
    | none =>
        ["sizing_recommendation.notional is required to verify " ++
          "max_equity_buying_power_pct budget exposure"]
    | some notional =>
        let usage := |context.openEquityNotional| + |notional| +
          |context.unsettledEquityProceeds|
        equityCapViolations env context usage "max_equity_buying_power_pct" cap
          fun equity =>
            "max_equity_buying_power_pct budget breached: projected equity " ++
              "buying-power usage " ++ env.showPlain (usage / equity * 100) ++
              "% exceeds limit " ++ env.showPlain cap ++
              "% (open_equity_notional=" ++
              env.showPlain |context.openEquityNotional| ++
              ", candidate_notional=" ++ env.showPlain |notional| ++
              ", unsettled_equity_proceeds=" ++
              env.showPlain |context.unsettledEquityProceeds| ++
              ", account_equity_snapshot=" ++ env.showPlain equity ++ ")"

/-- `_equity_buying_power_violations`: cash accounts, equities only. -/
def equityBuyingPowerViolations : List String :=
  match budget.maxEquityBuyingPowerPct with
  | none => []
  | some cap =>
      match classifyInstrument idea.instrument with
      | none =>
          ["instrument cannot be classified to verify " ++
            "max_equity_buying_power_pct budget exposure: " ++
            env.ambiguousInstrument idea.instrument]
      | some .crypto => []
      | some .equity => settledCashViolations env idea context cap

def contextLossViolations : List String :=
  unverifiedViolations context.sameDayRealizedLossUnavailableCount
      "same-day closeout budget exposure includes "
      (" closeout(s) without realized profit/loss; max_daily_loss_pct budget " ++
        "exposure cannot be verified") ++
    unverifiedViolations context.openAtRiskUnavailableCount
      "open budget exposure includes "
      (" idea(s) without max_loss.percent_of_account; max_daily_loss_pct " ++
        "budget exposure cannot be verified")

def contextNotionalViolations : List String :=
  unverifiedViolations context.openNotionalUnavailableCount
      "open budget exposure includes "
      (" idea(s) without sizing_recommendation.notional; " ++
        "max_open_notional_pct budget exposure cannot be verified") ++
    notionalViolations env idea budget context ++
    if idea.reducing then []
    else equityBuyingPowerViolations env idea budget context

end Exposure

variable (env : TradeEnv) (mode : AutonomyMode)

/-- `review_latency_applies`: a human is in the decision path. -/
def reviewLatencyApplies : Bool :=
  decide (mode ≠ .boundedAutonomy)

/-- The microseconds of `timedelta(hours=…)`. -/
def hours (count : ℕ) : ℤ :=
  3600000000 * count

/-- The review took too long. -/
def reviewLatencyViolation (reviewStartedAt : Option ℤ) (budget : RiskBudget)
    (now : ℤ) (reviewDeadline : Option ℤ) : Option String :=
  if reviewLatencyApplies mode then
    match reviewStartedAt with
    | none => none
    | some started =>
        let deadline := reviewDeadline.getD
          (started + hours budget.maxReviewLatencyHours)
        if now < deadline then none
        else some
          ("mode-dependent eligibility (human_approved_execution): " ++
            "Idea review deadline expired at " ++ env.showTime deadline ++
            " after max_review_latency_hours=" ++
            toString budget.maxReviewLatencyHours)
  else none

/-- What an approval is judged on besides the idea, the actor and the mode. -/
structure ApprovalInputs where
  budget : RiskBudget
  openApprovedCount : ℕ
  now : ℤ
  reviewStartedAt : Option ℤ
  reviewDeadline : Option ℤ
  budgetContext : Option ApprovalBudgetContext
  positionOperationValidated : Bool

/-- `approval_violations`: every reason this approval must be refused. -/
def approvalViolations (idea : TradeIdea) (actorType : ActorType)
    (inputs : ApprovalInputs) : List String :=
  let budget := inputs.budget
  actorViolations mode actorType ++
    ((evaluateEligibility idea).map fun reason =>
      "invariant eligibility: " ++ reason) ++
    (inputs.budgetContext.map contextLossViolations).getD [] ++
    violationIf
      (idea.reducing = true ∧ inputs.positionOperationValidated = false)
      ("position operation requires a verified runtime target and available " ++
        "quantity") ++
    lossViolations env idea budget (inputs.budgetContext.getD .empty) ++
    (inputs.budgetContext.map
      (contextNotionalViolations env idea budget)).getD [] ++
    violationIf
      (idea.reducing = false ∧ idea.productType = .futures ∧
        budget.allowFuturesLeverage = false)
      "product_type futures requires risk budget allow_futures_leverage=true" ++
    violationIf
      (idea.reducing = false ∧ idea.direction = .short ∧
        budget.allowNakedShorts = false)
      "direction short requires risk budget allow_naked_shorts=true" ++
    violationIf (budget.maxConcurrentApprovedTickets ≤ inputs.openApprovedCount)
      (toString inputs.openApprovedCount ++
        " tickets already approved; budget allows " ++
        toString budget.maxConcurrentApprovedTickets ++
        " concurrent approved tickets") ++
    ((idea.timeHorizon.expiresAt.map fun expiresAt =>
      violationIf (expiresAt ≤ inputs.now)
        ("Idea expired at " ++ env.showTime expiresAt ++
          "; approve nothing stale")).getD []) ++
    (reviewLatencyViolation env mode inputs.reviewStartedAt budget inputs.now
      inputs.reviewDeadline).toList

end ApprovalPolicy

def autonomyResolutionViolations (resolution : AutonomyResolution) :
    List String :=
  violationIf (resolution.source = .failClosed)
    ("autonomy state resolution failed closed to '" ++ resolution.mode.value ++
      "': " ++ resolution.error.getD "None")

/-- Outcome of one kernel check, with the inputs it was judged on.  Execution
checks carry no budget. -/
structure KernelCheck where
  action : AuditAction
  decisionId : String
  actorType : ActorType
  evaluatedAt : ℤ
  autonomy : AutonomyResolution
  violations : List String
  budget : Option RiskBudget
  budgetContext : Option ApprovalBudgetContext
  candidateMaxLossPct : Option ℚ
  deriving DecidableEq

namespace KernelCheck

/-- The check found no violation. -/
def admitted (check : KernelCheck) : Bool :=
  check.violations.isEmpty

def autonomyEvidence (check : KernelCheck) : String :=
  "autonomy_state version " ++
    ((check.autonomy.version.map toString).getD "None") ++ " mode=" ++
    check.autonomy.mode.value ++ " (source=" ++ check.autonomy.source.value ++ ")"

def requireApprovalInputs (check : KernelCheck) :
    Except ServiceError (RiskBudget × ApprovalBudgetContext) :=
  match check.budget, check.budgetContext with
  | some budget, some context => .ok (budget, context)
  | _, _ => .error (.plain (.python .valueError)
      ("Evidence for an approval outcome requires an approval check; this " ++
        "check gated action '" ++ check.action.value ++ "' without budget inputs"))

/-- The `repr` of a tuple of strings. -/
def showTuple (env : TradeEnv) : List String → String
  | [] => "()"
  | [text] => "(" ++ env.showRepr text ++ ",)"
  | texts => "(" ++ ", ".intercalate (texts.map env.showRepr) ++ ")"

def admissionEvidence (env : TradeEnv) (check : KernelCheck) :
    Except ServiceError (List String) := do
  let (budget, context) ← check.requireApprovalInputs
  .ok
    [check.autonomyEvidence,
      "risk budget version " ++ toString budget.version ++
        ": approval_violations=0",
      "budget envelope: same_day_realized_loss_pct=" ++
        env.showValue context.sameDayRealizedLossPct ++
        " daily_loss_session_dates=" ++
        showTuple env context.dailyLossSessionDates ++
        " open_approved_at_risk_pct=" ++
        env.showValue context.openApprovedAtRiskPct ++
        " candidate_max_loss_pct=" ++ env.showOptional check.candidateMaxLossPct ++
        " max_daily_loss_pct=" ++ env.showValue budget.maxDailyLossPct]

def violationEvidence (check : KernelCheck) : List String :=
  check.violations.map fun violation => "violation: " ++ violation

def denialEvidence (check : KernelCheck) :
    Except ServiceError (List String) := do
  let (budget, _) ← check.requireApprovalInputs
  .ok
    (check.autonomyEvidence ::
      ("risk budget version " ++ toString budget.version ++
        ": approval_violations=" ++ toString check.violations.length) ::
      check.violationEvidence)

def executionDenialEvidence (check : KernelCheck) : List String :=
  check.autonomyEvidence :: check.violationEvidence

end KernelCheck

end GptTrader
