import GptTrader.Python.RoundedBounds
import GptTrader.TradeIdeas.ServiceRuns

/-!
# Sizing a trade idea

`TradeIdeaPositionSizingBridge` turns the fraction of the position sizer into the
notional, quantity and estimated loss of an idea.  The fraction is capped by the
risk budget before the amounts are rounded, each to its own precision.

Floats are read as the rationals they are meant to be, and decimal divisions are
exact.  The texts of the recommendation are left out.
-/

namespace GptTrader

/-- The limits of `PositionSizingConfig`. -/
structure PositionSizingConfig where
  minPositionFraction : ℚ
  maxPositionFraction : ℚ
  maxPortfolioHeat : ℚ

/-- What the bridge reads of a `SizingResult`. -/
structure SizingResult where
  positionFraction : ℚ
  positionValue : ℚ

/-- A `PositionSizer` in some state: the base size times its regime, volatility,
confidence and Kelly factors, and the heat of the portfolio. -/
structure PositionSizer where
  config : PositionSizingConfig
  combinedFraction : String → ℚ → ℚ → ℚ
  portfolioHeat : ℚ

namespace PositionSizer

def clampedFraction (sizer : PositionSizer) (combined : ℚ) : ℚ :=
  let clamped := max sizer.config.minPositionFraction
    (min sizer.config.maxPositionFraction combined)
  let availableHeat := sizer.config.maxPortfolioHeat - sizer.portfolioHeat
  if availableHeat < clamped then max 0 availableHeat else clamped

/-- The size of a position. -/
def calculateSize (sizer : PositionSizer) (symbol : String)
    (currentPrice equity decisionConfidence : ℚ) : SizingResult :=
  let fraction := sizer.clampedFraction
    (sizer.combinedFraction symbol currentPrice decisionConfidence)
  { positionFraction := fraction
    positionValue := equity * fraction }

end PositionSizer

/-- Precisions are the exponents of their last places. -/
structure TradeIdeaSizingConfig where
  equity : ℚ
  riskBudget : RiskBudget
  quantityPlace : ℤ
  notionalPlace : ℤ

def TradeIdeaSizingConfig.quantityPrecision (config : TradeIdeaSizingConfig) : ℚ :=
  10 ^ config.quantityPlace

def TradeIdeaSizingConfig.notionalPrecision (config : TradeIdeaSizingConfig) : ℚ :=
  10 ^ config.notionalPlace

structure TradeIdeaSizingContext where
  symbol : String
  currentPrice : ℚ
  confidenceLabel : ConfidenceLabel
  stopLossDistance : ℚ
  takeProfitDistance : ℚ
  maxLossPct : ℚ

structure TradeIdeaSizingOutput where
  quantity : ℚ
  notional : ℚ
  estimatedLossAmount : ℚ
  estimatedLossPct : ℚ
  effectiveMaxLossPct : ℚ

/-- The score of a confidence label. -/
def confidenceScore : ConfidenceLabel → ℚ
  | .low => 35 / 100
  | .medium => 65 / 100
  | .high => 9 / 10

def effectiveMaxLossPct (maxLossPct : ℚ) (budget : RiskBudget) : ℚ :=
  min maxLossPct budget.maxLossPerIdeaPct

/-- The fraction the loss budget allows. -/
def budgetCapFraction (context : TradeIdeaSizingContext) (budget : RiskBudget) :
    Option ℚ :=
  if budget.sizingCappedByBudget = false then none
  else if context.currentPrice ≤ 0 ∨ context.stopLossDistance ≤ 0 then none
  else
    let stopFraction := context.stopLossDistance / context.currentPrice
    if stopFraction ≤ 0 then none
    else
      let maxLossFraction := effectiveMaxLossPct context.maxLossPct budget / 100
      some (min (maxLossFraction / stopFraction) (budget.maxOpenNotionalPct / 100))

/-- The notional of `_apply_budget_cap`. -/
def applyBudgetCap (result : SizingResult) (context : TradeIdeaSizingContext)
    (equity : ℚ) (budget : RiskBudget) : ℚ :=
  match budgetCapFraction context budget with
  | some capFraction =>
      if budget.sizingCappedByBudget = true ∧
          capFraction < result.positionFraction then
        equity * capFraction
      else
        result.positionValue
  | none => result.positionValue

def estimatedLossAmount (notional stopLossDistance currentPrice : ℚ) : ℚ :=
  if currentPrice ≤ 0 then 0 else notional * stopLossDistance / currentPrice

def estimatedLossPct (lossAmount equity : ℚ) : ℚ :=
  if equity ≤ 0 then 0 else lossAmount / equity * 100

/-- `TradeIdeaPositionSizingBridge.recommend`. -/
def recommend (sizer : PositionSizer) (config : TradeIdeaSizingConfig)
    (context : TradeIdeaSizingContext) : TradeIdeaSizingOutput :=
  let result := sizer.calculateSize context.symbol context.currentPrice config.equity
    (confidenceScore context.confidenceLabel)
  let notional := quantizeTo config.notionalPrecision
    (applyBudgetCap result context config.equity config.riskBudget)
  let lossAmount := quantizeTo config.notionalPrecision
    (estimatedLossAmount notional context.stopLossDistance context.currentPrice)
  { quantity :=
      if context.currentPrice ≤ 0 then 0
      else quantizeTo config.quantityPrecision (notional / context.currentPrice)
    notional := notional
    estimatedLossAmount := lossAmount
    estimatedLossPct := quantizeTo (1 / 10000) (estimatedLossPct lossAmount config.equity)
    effectiveMaxLossPct := effectiveMaxLossPct context.maxLossPct config.riskBudget }

section Cap

variable {sizer : PositionSizer} {config : TradeIdeaSizingConfig}
variable {context : TradeIdeaSizingContext}

/-- The contexts a cap is computed for. -/
structure TradeIdeaSizingContext.Priced (context : TradeIdeaSizingContext) :
    Prop where
  stop : 0 < context.stopLossDistance
  within : context.stopLossDistance ≤ context.currentPrice
  loss : 0 < context.maxLossPct

theorem TradeIdeaSizingContext.Priced.price (priced : context.Priced) :
    0 < context.currentPrice :=
  priced.stop.trans_le priced.within

theorem TradeIdeaSizingConfig.notionalPrecision_pos (config : TradeIdeaSizingConfig) :
    0 < config.notionalPrecision :=
  zpow_pos (by norm_num) _

theorem TradeIdeaSizingConfig.quantityPrecision_pos (config : TradeIdeaSizingConfig) :
    0 < config.quantityPrecision :=
  zpow_pos (by norm_num) _

/-- The notional before rounding: the smallest of the fraction of the sizer, the
fraction that loses the budget at the stop and the open notional cap. -/
def cappedNotional (sizer : PositionSizer) (config : TradeIdeaSizingConfig)
    (context : TradeIdeaSizingContext) : ℚ :=
  config.equity *
    min (sizer.clampedFraction (sizer.combinedFraction context.symbol
        context.currentPrice (confidenceScore context.confidenceLabel)))
      (min (min context.maxLossPct config.riskBudget.maxLossPerIdeaPct / 100 /
          (context.stopLossDistance / context.currentPrice))
        (config.riskBudget.maxOpenNotionalPct / 100))

theorem applyBudgetCap_eq (priced : context.Priced)
    (capped : config.riskBudget.sizingCappedByBudget = true) :
    applyBudgetCap (sizer.calculateSize context.symbol context.currentPrice
        config.equity (confidenceScore context.confidenceLabel)) context
        config.equity config.riskBudget =
      cappedNotional sizer config context := by
  have price := priced.price
  have stop := div_pos priced.stop price
  have computed : budgetCapFraction context config.riskBudget =
      some (min (min context.maxLossPct config.riskBudget.maxLossPerIdeaPct / 100 /
          (context.stopLossDistance / context.currentPrice))
        (config.riskBudget.maxOpenNotionalPct / 100)) := by
    simp [budgetCapFraction, effectiveMaxLossPct, capped, price.not_ge,
      priced.stop.not_ge, stop.not_ge]
  unfold applyBudgetCap cappedNotional PositionSizer.calculateSize
  rw [computed]
  dsimp only
  split_ifs with exceeds
  · rw [min_eq_right exceeds.2.le]
  · rw [min_eq_left (not_lt.mp fun above => exceeds ⟨capped, above⟩)]

/-- What an estimated loss percentage within the budget allows the notional to be
before it is rounded: back through the roundings of the percentage, the loss and
the notional. -/
def lossThreshold (config : TradeIdeaSizingConfig)
    (context : TradeIdeaSizingContext) : UpTo :=
  ((((UpTo.atMost (effectiveMaxLossPct context.maxLossPct
      config.riskBudget)).beforeRounding (1 / 10000)).divided
        (100 / config.equity)).beforeRounding config.notionalPrecision |>.divided
          (context.stopLossDistance / context.currentPrice)).beforeRounding
            config.notionalPrecision

/-- The bound that rounds to the notional cap. -/
def notionalThreshold (config : TradeIdeaSizingConfig) : UpTo :=
  (UpTo.atMost (config.riskBudget.maxOpenNotionalPct / 100 *
    config.equity)).beforeRounding config.notionalPrecision

section

variable (priced : context.Priced)
variable (capped : config.riskBudget.sizingCappedByBudget = true)

include priced capped

theorem recommend_notional :
    (recommend sizer config context).notional =
      quantizeTo config.notionalPrecision (cappedNotional sizer config context) := by
  simp only [recommend, applyBudgetCap_eq priced capped]

theorem estimatedLossPct_le_iff (funded : 0 < config.equity) :
    (recommend sizer config context).estimatedLossPct ≤
        (recommend sizer config context).effectiveMaxLossPct ↔
      (lossThreshold config context).Allows (cappedNotional sizer config context) := by
  have price := priced.price
  have places := config.notionalPrecision_pos
  have stop := div_pos priced.stop price
  unfold lossThreshold
  rw [UpTo.allows_beforeRounding places, UpTo.allows_divided stop,
    UpTo.allows_beforeRounding places, UpTo.allows_divided (by positivity),
    UpTo.allows_beforeRounding (by norm_num), UpTo.allows_atMost]
  have percent : (recommend sizer config context).estimatedLossPct =
      quantizeTo (1 / 10000) (quantizeTo config.notionalPrecision
        (quantizeTo config.notionalPrecision (cappedNotional sizer config context) *
          (context.stopLossDistance / context.currentPrice)) *
            (100 / config.equity)) := by
    simp only [recommend, applyBudgetCap_eq priced capped, estimatedLossAmount,
      estimatedLossPct, if_neg price.not_ge, if_neg funded.not_ge]
    rw [mul_div_assoc, div_mul_eq_mul_div, mul_div_assoc]
  rw [percent]
  rfl

theorem notional_le_iff :
    (recommend sizer config context).notional ≤
        config.riskBudget.maxOpenNotionalPct / 100 * config.equity ↔
      (notionalThreshold config).Allows (cappedNotional sizer config context) := by
  unfold notionalThreshold
  rw [UpTo.allows_beforeRounding config.notionalPrecision_pos, UpTo.allows_atMost,
    recommend_notional priced capped]

theorem abs_notional_le_iff :
    |(recommend sizer config context).notional| ≤
        config.riskBudget.maxOpenNotionalPct / 100 * config.equity ↔
      (notionalThreshold config).Allows |cappedNotional sizer config context| := by
  have places := config.notionalPrecision_pos
  unfold notionalThreshold
  rw [UpTo.allows_beforeRounding places, UpTo.allows_atMost,
    recommend_notional priced capped, abs_quantizeTo places]

end

end Cap

section Approval

open ApprovalPolicy

def perIdeaViolation (env : TradeEnv) (budget : RiskBudget) (percent : ℚ) : String :=
  "max_loss " ++ env.showValue percent ++ "% exceeds budget cap of " ++
    env.showValue budget.maxLossPerIdeaPct ++ "% per idea"

/-- An idea that opens a position with the loss and the notional of a sizing. -/
structure CarriesSizing (idea : TradeIdea) (output : TradeIdeaSizingOutput) :
    Prop where
  opens : idea.reducing = false
  loss : idea.maxLoss.percentOfAccount = some output.estimatedLossPct
  notional : idea.sizingRecommendation.notional = some output.notional

/-- A budget context with nothing else open on an equity. -/
structure NothingElseOpen (context : ApprovalBudgetContext) (equity : ℚ) : Prop where
  notional : context.openNotional = 0
  snapshot : context.accountEquitySnapshot = some equity

variable {env : TradeEnv} {idea : TradeIdea} {output : TradeIdeaSizingOutput}
variable {budget : RiskBudget} {context : ApprovalBudgetContext} {equity : ℚ}

theorem perIdeaViolation_not_mem (carries : CarriesSizing idea output)
    (within : output.estimatedLossPct ≤ budget.maxLossPerIdeaPct) :
    perIdeaViolation env budget output.estimatedLossPct ∉
      lossViolations env idea budget context := by
  have percent : candidatePercent idea = some output.estimatedLossPct := by
    simp [candidatePercent, carries.opens, carries.loss]
  unfold lossViolations
  rw [percent]
  dsimp only
  rw [if_neg within.not_gt]
  unfold violationIf
  split_ifs
  · intro listed
    have same := congrArg (fun text => text.toList[4]?) (List.mem_singleton.mp listed)
    simp only [perIdeaViolation, String.append_assoc, String.toList_append] at same
    rw [List.getElem?_append_left (by decide),
      List.getElem?_append_left (by decide)] at same
    exact absurd same (by decide)
  · simp

theorem notionalViolations_eq_nil_iff (carries : CarriesSizing idea output)
    (empty : NothingElseOpen context equity) (funded : 0 < equity) :
    notionalViolations env idea budget context = [] ↔
      |output.notional| ≤ budget.maxOpenNotionalPct / 100 * equity := by
  have notional : candidateNotional idea = some output.notional := by
    simp [candidateNotional, carries.opens, carries.notional]
  have projected : projectedNotional context output.notional = |output.notional| := by
    simp [projectedNotional, empty.notional]
  have scaled : |output.notional| / equity * 100 ≤ budget.maxOpenNotionalPct ↔
      |output.notional| ≤ budget.maxOpenNotionalPct / 100 * equity := by
    rw [div_mul_eq_mul_div, div_le_iff₀ funded]
    constructor <;> intro le <;> linarith
  unfold notionalViolations
  rw [notional]
  dsimp only
  rw [projected]
  unfold equityCapViolations
  rw [empty.snapshot]
  by_cases some : 0 < |output.notional|
  · simp [some, funded.not_ge, violationIf, ← scaled]
  · have zero : |output.notional| = 0 := le_antisymm (not_lt.mp some) (abs_nonneg _)
    have cap : 0 ≤ budget.maxOpenNotionalPct / 100 * equity :=
      mul_nonneg (div_nonneg budget.capsNonNegative.2.2.1 (by norm_num)) funded.le
    simp [zero, cap]

/-- A capped size is within the budget that capped it exactly when the notional was
below both thresholds before it was rounded; what is rounded is exact. -/
theorem recommend_within_budget_iff (sizer : PositionSizer)
    (config : TradeIdeaSizingConfig) (sized : TradeIdeaSizingContext)
    (priced : sized.Priced) (funded : 0 < config.equity)
    (capped : config.riskBudget.sizingCappedByBudget = true) :
    ((recommend sizer config sized).estimatedLossPct ≤
          (recommend sizer config sized).effectiveMaxLossPct ∧
        (recommend sizer config sized).notional ≤
          config.riskBudget.maxOpenNotionalPct / 100 * config.equity ↔
      (lossThreshold config sized).Allows (cappedNotional sizer config sized) ∧
        (notionalThreshold config).Allows (cappedNotional sizer config sized)) ∧
    ∀ (env : TradeEnv) (idea : TradeIdea) (context : ApprovalBudgetContext),
      CarriesSizing idea (recommend sizer config sized) →
      NothingElseOpen context config.equity →
      ((recommend sizer config sized).estimatedLossPct ≤
          (recommend sizer config sized).effectiveMaxLossPct ∧
        perIdeaViolation env config.riskBudget
            (recommend sizer config sized).estimatedLossPct ∉
          lossViolations env idea config.riskBudget context ∧
        notionalViolations env idea config.riskBudget context = [] ↔
      (lossThreshold config sized).Allows (cappedNotional sizer config sized) ∧
        (notionalThreshold config).Allows |cappedNotional sizer config sized|) := by
  have loss := @estimatedLossPct_le_iff sizer config sized priced capped funded
  constructor
  · rw [loss, notional_le_iff priced capped]
  · intro env idea context carries empty
    rw [loss, notionalViolations_eq_nil_iff carries empty funded,
      abs_notional_le_iff priced capped]
    constructor
    · rintro ⟨small, -, open_⟩
      exact ⟨small, open_⟩
    · rintro ⟨small, open_⟩
      have effective : (recommend sizer config sized).effectiveMaxLossPct ≤
          config.riskBudget.maxLossPerIdeaPct := min_le_right _ _
      exact ⟨small, perIdeaViolation_not_mem carries
        ((loss.mpr small).trans effective), open_⟩

end Approval

section Examples

def twoPercent : PositionSizer :=
  { config :=
      { minPositionFraction := 5 / 1000
        maxPositionFraction := 1 / 10
        maxPortfolioHeat := 6 / 100 }
    combinedFraction := fun _ _ _ => 2 / 100
    portfolioHeat := 0 }

def cappedConfig (equity cap : ℚ) (nonneg : 0 ≤ cap) : TradeIdeaSizingConfig :=
  { equity := equity
    riskBudget :=
      { defaultRiskBudget with
        maxOpenNotionalPct := cap
        capsNonNegative := by simp [defaultRiskBudget, nonneg] }
    quantityPlace := -8
    notionalPlace := -2 }

def hundredDollars (stop : ℚ) : TradeIdeaSizingContext :=
  { symbol := "BTC-USD"
    currentPrice := 100
    confidenceLabel := .medium
    stopLossDistance := stop
    takeProfitDistance := 20
    maxLossPct := 1 }

theorem one_percent : (0 : ℚ) ≤ 1 := by
  norm_num

def wholeLoss : TradeIdeaSizingOutput :=
  recommend twoPercent (cappedConfig 10000 1 one_percent) (hundredDollars 100)

/-- One percent of ten thousand dollars. -/
theorem whole_loss_is_within_budget :
    (wholeLoss.estimatedLossPct ≤ wholeLoss.effectiveMaxLossPct ∧
      wholeLoss.notional ≤ 100) ∧
    ApprovalPolicy.notionalViolations paperEnv entryIdea
      (cappedConfig 10000 1 one_percent).riskBudget
      { ApprovalBudgetContext.empty with accountEquitySnapshot := some 10000 } = [] := by
  have settled := recommend_within_budget_iff twoPercent
    (cappedConfig 10000 1 one_percent) (hundredDollars 100)
    { stop := by decide +kernel
      within := by decide +kernel
      loss := by decide +kernel } (by decide +kernel) rfl
  constructor
  · have within := settled.1.mpr (by decide +kernel)
    exact ⟨within.1, within.2.trans (by decide +kernel)⟩
  · exact ((settled.2 paperEnv entryIdea
      { ApprovalBudgetContext.empty with accountEquitySnapshot := some 10000 }
      { opens := rfl
        loss := by decide +kernel
        notional := by decide +kernel }
      { notional := rfl
        snapshot := rfl }).mpr (by decide +kernel)).2.2

/-- One percent of an odd equity is rounded up to the next cent. -/
theorem capped_notional_is_rounded_up :
    (hundredDollars 10).Priced ∧
      (cappedConfig (10000 + 77 / 100) 1
        one_percent).riskBudget.sizingCappedByBudget = true ∧
      (1 / 100 * (10000 + 77 / 100) : ℚ) <
        (recommend twoPercent (cappedConfig (10000 + 77 / 100) 1 one_percent)
          (hundredDollars 10)).notional :=
  ⟨{ stop := by decide +kernel
     within := by decide +kernel
     loss := by decide +kernel }, rfl, by decide +kernel⟩

end Examples

end GptTrader
