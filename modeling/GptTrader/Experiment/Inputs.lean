import Mathlib.Algebra.Order.Field.Rat
import Mathlib.Tactic.Common

/-!
# Experiment inputs

`features/experiment/inputs.py`: the settings of an account and of the AI trade
manager.  The checks of a constructor are fields of its structure.
-/

namespace GptTrader

/-- `Settings`. -/
structure ExperimentSettings where
  initialCash : ℚ
  riskFraction : ℚ
  exposureFraction : ℚ
  drawdownFraction : ℚ
  feeBps : ℚ
  slippageBps : ℚ
  quantityIncrement : ℚ
  funded : 0 < initialCash
  risk : 0 < riskFraction ∧ riskFraction ≤ 1
  exposure : 0 < exposureFraction ∧ exposureFraction ≤ 1
  drawdown : 0 < drawdownFraction ∧ drawdownFraction ≤ 1
  feeRate : 0 ≤ feeBps ∧ feeBps < 10000
  slippageRate : 0 ≤ slippageBps ∧ slippageBps < 10000
  incremented : 0 < quantityIncrement

def managerEfforts : List String :=
  ["low", "medium", "high", "xhigh", "max"]

/-- The longest rulebook text. -/
def maxRulebookChars : ℕ := 4000

def maxManagerOutputTokens : ℕ := 20000

/-- The settings of the trade manager. -/
structure ManagerSettings where
  rulebook : String
  cadenceBars : ℕ
  historyBars : ℕ
  model : String
  effort : String
  maxTokens : ℕ
  written : 0 < rulebook.length ∧ rulebook.length ≤ maxRulebookChars
  named : model ≠ ""
  ranked : effort ∈ managerEfforts
  cadence : 1 ≤ cadenceBars ∧ cadenceBars ≤ 168
  history : 1 ≤ historyBars ∧ historyBars ≤ 500
  output : 1 ≤ maxTokens ∧ maxTokens ≤ maxManagerOutputTokens

end GptTrader
