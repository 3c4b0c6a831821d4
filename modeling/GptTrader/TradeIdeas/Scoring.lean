import GptTrader.Backtesting.CacheTransparency
import GptTrader.TradeIdeas.Models

/-!
# Scoring trade ideas against candles

`score_trade_idea` and `score_filled_trade_idea` of `trade_ideas/replay.py`.  Both
keep the candles that start late enough and end by the expiry of the idea, walk them
in time order, and report the first that touches the stop or the target.  The level
extractor is an argument of both; the record hash is a parameter.
-/

namespace GptTrader

namespace Scoring

/-- How a replay ends. -/
inductive ReplayOutcome where
  | targetHit
  | stopHit
  | timedOut
  | notFilled
  | noFutureData
  deriving DecidableEq, Repr

/-- The levels a replay is scored on. -/
structure ScoringLevels where
  entryLower : ℚ
  entryUpper : ℚ
  stop : ℚ
  target : ℚ
  deriving DecidableEq

def ScoringLevels.entryMidpoint (levels : ScoringLevels) : ℚ :=
  (levels.entryLower + levels.entryUpper) / 2

structure ReplayScoringError where
  message : String
  field : String
  deriving DecidableEq

/-- The score of an idea. -/
structure ReplayResult where
  decisionId : String
  recordHash : String
  instrument : String
  direction : TradeDirection
  asOf : ℤ
  expiresAt : ℤ
  outcome : ReplayOutcome
  levels : ScoringLevels
  entryTime : Option ℤ
  entryPrice : Option ℚ
  exitTime : Option ℤ
  exitPrice : Option ℚ
  returnR : Option ℚ
  returnPct : Option ℚ
  barsEvaluated : ℕ
  sizedNotional : Option ℚ
  deriving DecidableEq

/-- `candle.open == candle.low` and the like: a long entry candle that opened at its
low, at or below the stop, or a short one that opened at its high, at or above it. -/
def entryCandleProvesPrefillStop (direction : TradeDirection) (candle : PriceBar)
    (levels : ScoringLevels) : Bool :=
  match direction with
  | .long =>
      decide (candle.openPrice = candle.low ∧ candle.openPrice ≤ levels.stop ∧
        levels.stop < levels.entryMidpoint)
  | .short =>
      decide (candle.openPrice = candle.high ∧ levels.stop ≤ candle.openPrice ∧
        levels.entryMidpoint < levels.stop)
  | _ => false

/-- `_bar_outcome_price`: the stop is scored before the target. -/
def barOutcomePrice (direction : TradeDirection) (candle : PriceBar)
    (levels : ScoringLevels) (allowFavorableExit allowAdverseExit : Bool) :
    Option (ReplayOutcome × ℚ) :=
  if direction = .long then
    if allowAdverseExit = true ∧ candle.low ≤ levels.stop then
      some (.stopHit, levels.stop)
    else if allowFavorableExit = true ∧ levels.target ≤ candle.high then
      some (.targetHit, levels.target)
    else none
  else if allowAdverseExit = true ∧ levels.stop ≤ candle.high then
    some (.stopHit, levels.stop)
  else if allowFavorableExit = true ∧ candle.low ≤ levels.target then
    some (.targetHit, levels.target)
  else none

def candleEndsByExpiry (candle : PriceBar) (expiresAt : ℤ)
    (candleDuration : Option ℤ) : Bool :=
  match candleDuration with
  | none => decide (candle.ts < expiresAt)
  | some duration => decide (candle.ts + duration ≤ expiresAt)

def firstEntryCandle (candles : List PriceBar) (levels : ScoringLevels) :
    Option PriceBar :=
  candles.find? fun candle =>
    decide (candle.low ≤ levels.entryMidpoint ∧ levels.entryMidpoint ≤ candle.high)

def LevelsOrdered (direction : TradeDirection) (levels : ScoringLevels) : Prop :=
  match direction with
  | .long => levels.stop < levels.entryMidpoint ∧
      levels.entryMidpoint < levels.target
  | .short => levels.target < levels.entryMidpoint ∧
      levels.entryMidpoint < levels.stop
  | _ => True

instance (direction : TradeDirection) (levels : ScoringLevels) :
    Decidable (LevelsOrdered direction levels) := by
  unfold LevelsOrdered
  split <;> infer_instance

def validateLevelOrder (idea : TradeIdea) (levels : ScoringLevels) :
    Except ReplayScoringError Unit :=
  if LevelsOrdered idea.direction levels then .ok ()
  else
    .error
      { message := "Trade idea '" ++ idea.decisionId ++
          "' has inconsistent scoring levels"
        field := "target_exit" }

/-- `exit_plan_scoring_levels`: the structured plan, or the levels of the text. -/
def exitPlanScoringLevels
    (extractNumericScoringLevels :
      TradeIdea → Except ReplayScoringError ScoringLevels)
    (idea : TradeIdea) : Except ReplayScoringError ScoringLevels :=
  match idea.exitPlan, idea.entryZone.lower, idea.entryZone.upper with
  | some { stop := some stop, target := some target }, some lower, some upper => do
      let levels : ScoringLevels :=
        { entryLower := lower, entryUpper := upper, stop, target }
      validateLevelOrder idea levels
      .ok levels
  | _, _, _ => extractNumericScoringLevels idea

/-- The move in the idea's direction. -/
def profit (direction : TradeDirection) (entry exit : ℚ) : ℚ :=
  if direction = .long then exit - entry else entry - exit

/-- The distance to the stop. -/
def risk (direction : TradeDirection) (levels : ScoringLevels) (entry : ℚ) : ℚ :=
  if direction = .long then entry - levels.stop else levels.stop - entry

/-- The profit in units of the risk. -/
def returnR (direction : TradeDirection) (levels : ScoringLevels)
    (entryPrice exitPrice : Option ℚ) : Option ℚ :=
  match entryPrice, exitPrice with
  | some entry, some exit =>
      if risk direction levels entry ≠ 0 then
        some (profit direction entry exit / risk direction levels entry)
      else none
  | _, _ => none

def returnPct (direction : TradeDirection) (entryPrice exitPrice : Option ℚ) :
    Option ℚ :=
  match entryPrice, exitPrice with
  | some entry, some exit =>
      if entry ≠ 0 then some (profit direction entry exit / entry * 100) else none
  | _, _ => none

def result (recordHash : TradeIdea → String) (idea : TradeIdea) (asOf : ℤ)
    (levels : ScoringLevels) (outcome : ReplayOutcome) (entryTime : Option ℤ)
    (entryPrice : Option ℚ) (exitTime : Option ℤ) (exitPrice : Option ℚ)
    (barsEvaluated : ℕ) : Except ReplayScoringError ReplayResult :=
  match idea.timeHorizon.expiresAt with
  | none =>
      .error
        { message := "Trade idea '" ++ idea.decisionId ++
            "' has no expiry to score against"
          field := "time_horizon" }
  | some expiresAt =>
      .ok
        { decisionId := idea.decisionId
          recordHash := recordHash idea
          instrument := idea.instrument
          direction := idea.direction
          asOf
          expiresAt
          outcome
          levels
          entryTime
          entryPrice
          exitTime
          exitPrice
          returnR := returnR idea.direction levels entryPrice exitPrice
          returnPct := returnPct idea.direction entryPrice exitPrice
          barsEvaluated
          sizedNotional := idea.sizingRecommendation.notional }

def admits (start expiresAt : ℤ) (candleDuration : Option ℤ) (candle : PriceBar) :
    Bool :=
  decide (start ≤ candle.ts) && candleEndsByExpiry candle expiresAt candleDuration

def scoredCandles (start expiresAt : ℤ) (candleDuration : Option ℤ)
    (futureCandles : List PriceBar) : List PriceBar :=
  sortedBars (futureCandles.filter (admits start expiresAt candleDuration))

/-- The first exit: the number of candles up to it, its candle, outcome and price.
The first candle may be the entry candle, which allows no exit in the favorable
direction, nor in the adverse one when it proves the stop came before the entry. -/
def firstExit (direction : TradeDirection) (levels : ScoringLevels) :
    Bool → ℕ → List PriceBar → Option (ℕ × PriceBar × ReplayOutcome × ℚ)
  | _, _, [] => none
  | isEntry, bars, candle :: rest =>
      match barOutcomePrice direction candle levels (!isEntry)
          (!isEntry || !entryCandleProvesPrefillStop direction candle levels) with
      | some (outcome, price) => some (bars, candle, outcome, price)
      | none => firstExit direction levels false (bars + 1) rest

/-- The checks both scorers make first: an expiry, a direction that can be scored and
the levels. -/
def scoringPlan (levelExtractor : TradeIdea → Except ReplayScoringError ScoringLevels)
    (idea : TradeIdea) : Except ReplayScoringError (ℤ × ScoringLevels) :=
  match idea.timeHorizon.expiresAt with
  | none =>
      .error
        { message := "Trade idea '" ++ idea.decisionId ++
            "' has no expiry to score against"
          field := "time_horizon" }
  | some expiresAt =>
      if idea.direction = .long ∨ idea.direction = .short then
        (levelExtractor idea).map fun levels => (expiresAt, levels)
      else
        .error
          { message := "Trade idea '" ++ idea.decisionId ++ "' direction '" ++
              idea.direction.value ++ "' is not scoreable"
            field := "direction" }

section Scorers

variable (recordHash : TradeIdea → String)
variable (levelExtractor : TradeIdea → Except ReplayScoringError ScoringLevels)

/-- `score_trade_idea` on the candles it scores. -/
def scoreFromEntry (idea : TradeIdea) (asOf : ℤ) (levels : ScoringLevels)
    (candles : List PriceBar) : Except ReplayScoringError ReplayResult :=
  if candles.isEmpty then
    result recordHash idea asOf levels .noFutureData none none none none 0
  else
    match firstEntryCandle candles levels with
    | none =>
        result recordHash idea asOf levels .notFilled none none none none
          candles.length
    | some entryCandle =>
        let entryPrice := levels.entryMidpoint
        let entryIndex := candles.idxOf entryCandle
        let postEntryCandles := candles.drop entryIndex
        match firstExit idea.direction levels true 1 postEntryCandles with
        | some (barsAfterEntry, candle, outcome, exitPrice) =>
            result recordHash idea asOf levels outcome (some entryCandle.ts)
              (some entryPrice) (some candle.ts) (some exitPrice)
              (entryIndex + barsAfterEntry)
        | none =>
            let timeoutCandle := postEntryCandles.getLastD entryCandle
            result recordHash idea asOf levels .timedOut (some entryCandle.ts)
              (some entryPrice) (some timeoutCandle.ts) (some timeoutCandle.close)
              candles.length

/-- The replay of a planned entry. -/
def scoreTradeIdea (idea : TradeIdea) (asOf : ℤ) (futureCandles : List PriceBar)
    (candleDuration : Option ℤ) : Except ReplayScoringError ReplayResult := do
  let (expiresAt, levels) ← scoringPlan levelExtractor idea
  scoreFromEntry recordHash idea asOf levels
    (scoredCandles asOf expiresAt candleDuration futureCandles)

/-- `score_filled_trade_idea` on the candles it scores: every one may exit. -/
def scoreFromFill (idea : TradeIdea) (filledAt : ℤ) (fillPrice : Option ℚ)
    (levels : ScoringLevels) :
    List PriceBar → Except ReplayScoringError ReplayResult
  | [] => result recordHash idea filledAt levels .noFutureData none none none none 0
  | first :: rest =>
      let candles := first :: rest
      let entryPrice := fillPrice.getD levels.entryMidpoint
      match firstExit idea.direction levels false 1 candles with
      | some (barsEvaluated, candle, outcome, exitPrice) =>
          result recordHash idea filledAt levels outcome (some filledAt)
            (some entryPrice) (some candle.ts) (some exitPrice) barsEvaluated
      | none =>
          let timeoutCandle := candles.getLastD first
          result recordHash idea filledAt levels .timedOut (some filledAt)
            (some entryPrice) (some timeoutCandle.ts) (some timeoutCandle.close)
            candles.length

/-- The replay from a real fill. -/
def scoreFilledTradeIdea (idea : TradeIdea) (filledAt : ℤ) (fillPrice : Option ℚ)
    (futureCandles : List PriceBar) (candleDuration : Option ℤ) :
    Except ReplayScoringError ReplayResult := do
  let (expiresAt, levels) ← scoringPlan levelExtractor idea
  scoreFromFill recordHash idea filledAt fillPrice levels
    (scoredCandles filledAt expiresAt candleDuration futureCandles)

end Scorers

end Scoring

end GptTrader
