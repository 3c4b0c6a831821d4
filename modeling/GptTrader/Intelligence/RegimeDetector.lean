import GptTrader.Intelligence.RegimeIndicators

/-!
# The regime detector

`features/intelligence/regime/detector.py` with `models.py` and `symbol_state.py`.  The
indicators of a symbol are updated tick by tick, the regime is classified from their
scores, and a new regime is reported once enough ticks were classified alike.  The reads
of the detector return it as they leave it.
-/

namespace GptTrader

namespace Regime

/-- The regimes of the market. -/
inductive RegimeType where
  | bullQuiet
  | bullVolatile
  | bearQuiet
  | bearVolatile
  | sidewaysQuiet
  | sidewaysVolatile
  | crisis
  | unknown
  deriving DecidableEq, Repr

/-- `RegimeType.name`. -/
def RegimeType.name : RegimeType → String
  | .bullQuiet => "BULL_QUIET"
  | .bullVolatile => "BULL_VOLATILE"
  | .bearQuiet => "BEAR_QUIET"
  | .bearVolatile => "BEAR_VOLATILE"
  | .sidewaysQuiet => "SIDEWAYS_QUIET"
  | .sidewaysVolatile => "SIDEWAYS_VOLATILE"
  | .crisis => "CRISIS"
  | .unknown => "UNKNOWN"

/-- A regime with its scores. -/
structure RegimeState (φ : Type) where
  regime : RegimeType
  confidence : φ
  trendScore : φ
  volatilityPercentile : φ
  momentumScore : φ
  regimeAgeTicks : ℕ
  transitionProbability : φ

/-- The settings of the detector. -/
structure RegimeConfig (φ : Type) where
  shortEmaPeriod : ℕ+
  longEmaPeriod : ℕ+
  atrPeriod : ℕ+
  volatilityLookback : ℕ+
  momentumPeriod : ℕ+
  trendThreshold : φ
  volatilityHighPercentile : φ
  volatilityLowPercentile : φ
  crisisVolatilityMultiplier : φ
  crisisDrawdownThreshold : φ
  minRegimeTicks : ℤ
  transitionSmoothing : φ
  crisisPositionMultiplier : φ

variable {δ φ : Type} [DecimalOps δ] [FloatOps φ] [NumberConversions δ φ]

open FloatOps (literal ofInt)

/-- `RegimeState.unknown()`. -/
def RegimeState.unknown : RegimeState φ :=
  { regime := .unknown
    confidence := literal 0
    trendScore := literal 0
    volatilityPercentile := literal (1 / 2)
    momentumScore := literal 0
    regimeAgeTicks := 0
    transitionProbability := literal 0 }

/-- `max(-1.0, min(1.0, score))`. -/
def clampScore (score : φ) : φ :=
  pyMax (literal (-1)) (pyMin (literal 1) score)

/-! ## The state of a symbol -/

/-- `_SymbolRegimeState`. -/
structure SymbolState (δ φ : Type) where
  config : RegimeConfig φ
  shortEma : OnlineEMA δ
  longEma : OnlineEMA δ
  emaSlopeWindow : RollingWindow δ
  returnsWelford : WelfordState δ
  volatilityHistory : RollingWindow δ
  priceWindow : RollingWindow δ
  atr : OnlineATR δ
  bollinger : OnlineBollingerBands δ φ
  trendStrength : OnlineTrendStrength δ
  atrHistory : RollingWindow δ
  prevPrice : Option δ
  peakPrice : Option δ
  tickCount : ℕ
  currentRegime : RegimeType
  regimeTicks : ℕ
  pendingRegime : Option RegimeType
  pendingTicks : ℕ

namespace SymbolState

/-- `_SymbolRegimeState(config)`. -/
def fresh (config : RegimeConfig φ) : SymbolState δ φ :=
  { config := config
    shortEma := .fresh config.shortEmaPeriod
    longEma := .fresh config.longEmaPeriod
    emaSlopeWindow := .fresh 5
    returnsWelford := .fresh
    volatilityHistory := .fresh config.volatilityLookback
    priceWindow := .fresh config.momentumPeriod
    atr := .fresh config.atrPeriod
    bollinger := .fresh config.shortEmaPeriod
    trendStrength := .fresh config.atrPeriod
    atrHistory := .fresh config.volatilityLookback
    prevPrice := none
    peakPrice := none
    tickCount := 0
    currentRegime := .unknown
    regimeTicks := 0
    pendingRegime := none
    pendingTicks := 0 }

/-- `add` of a value, if there is one. -/
def addSome (window : RollingWindow δ) (value : Option δ) : RollingWindow δ :=
  match value with
  | none => window
  | some value => window.add value

/-- The return over the previous price. -/
def returnOn (prevPrice : Option δ) (price : δ) : Option δ :=
  match prevPrice with
  | none => none
  | some prev => if dec 0 < prev then some ((price - prev) / prev) else none

/-- `_SymbolRegimeState.update`. -/
def update (state : SymbolState δ φ) (price : δ) : SymbolState δ φ :=
  let (longEma, longVal) := state.longEma.update price
  let ret := returnOn state.prevPrice price
  let (atr, atrValue) := state.atr.update price
  { state with
    tickCount := state.tickCount + 1
    shortEma := (state.shortEma.update price).1
    longEma := longEma
    emaSlopeWindow := addSome state.emaSlopeWindow longVal
    returnsWelford :=
      match ret with
      | none => state.returnsWelford
      | some ret => state.returnsWelford.update ret
    volatilityHistory := addSome state.volatilityHistory (ret.map DecimalOps.abs)
    priceWindow := state.priceWindow.add price
    atr := atr
    atrHistory := addSome state.atrHistory atrValue
    bollinger := (state.bollinger.update price).1
    trendStrength := (state.trendStrength.update φ price).1
    peakPrice :=
      match state.peakPrice with
      | none => some price
      | some peak => if peak < price then some price else some peak
    prevPrice := some price }

def scoreAgainst (config : RegimeConfig φ) (longEma value : φ) : φ :=
  clampScore ((value - longEma) / longEma / config.trendThreshold) *
    literal (4 / 10)

def slopeScore (config : RegimeConfig φ) (window : RollingWindow δ) : List φ :=
  match window.values.head?, window.values.getLast? with
  | some oldest, some newest =>
      let oldest : φ := NumberConversions.toFloat oldest
      let newest : φ := NumberConversions.toFloat newest
      if 2 ≤ window.values.length ∧ literal 0 < oldest then
        let slope := (newest - oldest) / oldest
        [clampScore (slope / (config.trendThreshold / ofInt 5)) * literal (2 / 10)]
      else []
  | _, _ => []

def getTrendScore (state : SymbolState δ φ) : φ :=
  match state.longEma.value with
  | none => literal 0
  | some longEma =>
      let longEma : φ := NumberConversions.toFloat longEma
      if !state.longEma.initialized || FloatOps.isZero longEma then literal 0
      else
        let priceScores :=
          match state.prevPrice with
          | none => []
          | some prev =>
              [scoreAgainst state.config longEma (NumberConversions.toFloat prev)]
        let emaScores :=
          match state.shortEma.initialized, state.shortEma.value with
          | true, some short =>
              [scoreAgainst state.config longEma (NumberConversions.toFloat short)]
          | _, _ => []
        let scores :=
          priceScores ++ emaScores ++ slopeScore state.config state.emaSlopeWindow
        if scores.isEmpty then literal 0 else FloatOps.sum scores

def percentileIn (window : RollingWindow δ) (current : φ) : φ :=
  FloatOps.ratio
    ((window.values.filter fun value =>
      decide ((NumberConversions.toFloat value : φ) < current)).length : ℕ)
    (window.values.length : ℕ)

def getVolatilityPercentile (state : SymbolState δ φ) : φ :=
  if state.returnsWelford.count < 10 then literal (1 / 2)
  else
    let currentVol : φ := NumberConversions.toFloat state.returnsWelford.stdDev
    if FloatOps.isZero currentVol then literal (1 / 2)
    else if state.volatilityHistory.values.length < 10 then literal (1 / 2)
    else percentileIn state.volatilityHistory currentVol

/-- The change over the price window. -/
def getMomentumScore (state : SymbolState δ φ) : φ :=
  match state.priceWindow.values.head?, state.priceWindow.values.getLast? with
  | some oldest, some newest =>
      if state.priceWindow.values.length < 2 then literal 0
      else
        let oldest : φ := NumberConversions.toFloat oldest
        let newest : φ := NumberConversions.toFloat newest
        if FloatOps.isZero oldest then literal 0
        else clampScore ((newest - oldest) / oldest / literal (5 / 100))
  | _, _ => literal 0

/-- The distance below the peak price. -/
def getDrawdown (state : SymbolState δ φ) : φ :=
  match state.peakPrice, state.prevPrice with
  | some peak, some prev =>
      if DecimalOps.truthy peak then NumberConversions.toFloat ((peak - prev) / peak)
      else literal 0
  | _, _ => literal 0

def getAtrPercentile (state : SymbolState δ φ) : φ :=
  match state.atr.initialized, state.atr.atr with
  | true, some value =>
      if state.atrHistory.values.length < 10 then literal (1 / 2)
      else percentileIn state.atrHistory (NumberConversions.toFloat value : φ)
  | _, _ => literal (1 / 2)

/-- `get_adx`, which updates the trend strength with the previous price. -/
def getAdx (state : SymbolState δ φ) : SymbolState δ φ × Option φ :=
  if !state.trendStrength.isReady then (state, none)
  else
    let (trendStrength, result) := state.trendStrength.update φ
      (OnlineTrendStrength.orDecimal state.prevPrice (dec 0))
    ({ state with trendStrength := trendStrength },
      result.bind OnlineTrendStrength.Strength.adx)

def getSqueezeScore (state : SymbolState δ φ) : SymbolState δ φ × φ :=
  if !state.bollinger.isReady then (state, literal (1 / 2))
  else
    let (bollinger, score) := state.bollinger.getSqueezeScore
    ({ state with bollinger := bollinger }, score)

/-- Enough prices for a classification. -/
def isWarmedUp (state : SymbolState δ φ) : Bool :=
  state.longEma.initialized &&
    decide (20 ≤ state.volatilityHistory.values.length) &&
    decide ((state.config.longEmaPeriod : ℕ) ≤ state.tickCount)

end SymbolState

/-! ## Classification -/

inductive Trend where
  | bull
  | bear
  | sideways
  deriving DecidableEq

def regimeMap : Trend → Bool → RegimeType
  | .bull, false => .bullQuiet
  | .bull, true => .bullVolatile
  | .bear, false => .bearQuiet
  | .bear, true => .bearVolatile
  | .sideways, false => .sidewaysQuiet
  | .sideways, true => .sidewaysVolatile

def checkCrisis (state : SymbolState δ φ) (volatilityPercentile drawdown : φ) : Bool :=
  let extreme :=
    if literal (95 / 100) < volatilityPercentile then
      if 20 < state.returnsWelford.count then
        match state.volatilityHistory.mean with
        | none => false
        | some mean =>
            let currentVol : φ := NumberConversions.toFloat state.returnsWelford.stdDev
            let historicalVol : φ := NumberConversions.toFloat mean
            decide (literal 0 < historicalVol) &&
              decide (historicalVol * state.config.crisisVolatilityMultiplier <
                currentVol)
      else false
    else false
  extreme || decide (state.config.crisisDrawdownThreshold < drawdown)

/-- The regime outside a crisis. -/
def classifyNormalRegime (config : RegimeConfig φ) (trendScore volatilityPercentile : φ)
    (adx : Option φ) (squeezeScore : φ) : RegimeType :=
  let effectiveThreshold :=
    match adx with
    | none => config.trendThreshold
    | some adx =>
        if adx < ofInt 20 then config.trendThreshold * literal (3 / 2)
        else if ofInt 40 < adx then config.trendThreshold * literal (7 / 10)
        else config.trendThreshold
  let trend : Trend :=
    if effectiveThreshold < trendScore then .bull
    else if trendScore < -effectiveThreshold then .bear
    else .sideways
  let volThresholdHigh :=
    if literal (7 / 10) < squeezeScore then
      config.volatilityHighPercentile + literal (1 / 10)
    else config.volatilityHighPercentile
  -- a percentile that is not high is quiet, below the low threshold or not
  regimeMap trend (decide (volThresholdHigh < volatilityPercentile))

def calculateConfidence (trendScore volatilityPercentile : φ) (adx : Option φ)
    (squeezeScore : φ) : φ :=
  let trendClarity := FloatOps.abs trendScore
  let volClarity := FloatOps.abs (volatilityPercentile - literal (1 / 2)) * ofInt 2
  let adxBoost :=
    match adx with
    | none => literal 0
    | some adx =>
        if ofInt 40 < adx then literal (15 / 100)
        else if ofInt 25 < adx then literal (8 / 100)
        else if adx < ofInt 15 then -literal (1 / 10)
        else literal 0
  let squeezePenalty :=
    if literal (8 / 10) < squeezeScore then -literal (1 / 10) else literal 0
  let baseConfidence :=
    trendClarity * literal (1 / 2) + volClarity * literal (3 / 10) + literal (2 / 10)
  let confidence := baseConfidence + adxBoost + squeezePenalty
  pyMax (literal (3 / 10)) (pyMin (literal (95 / 100)) confidence)

def pendingTicksFor (state : SymbolState δ φ) (newRegime : RegimeType) : ℕ :=
  if state.pendingRegime = some newRegime then state.pendingTicks + 1 else 1

/-- `_apply_persistence`: the state, and the regime and its age. -/
def applyPersistence (state : SymbolState δ φ) (newRegime : RegimeType) :
    SymbolState δ φ × RegimeType × ℕ :=
  if newRegime = state.currentRegime then
    ({ state with
        regimeTicks := state.regimeTicks + 1
        pendingRegime := none
        pendingTicks := 0 },
      state.currentRegime, state.regimeTicks + 1)
  else
    let pendingTicks := pendingTicksFor state newRegime
    if state.config.minRegimeTicks ≤ pendingTicks then
      ({ state with
          currentRegime := newRegime
          regimeTicks := pendingTicks
          pendingRegime := none
          pendingTicks := 0 },
        newRegime, pendingTicks)
    else
      ({ state with
          pendingRegime := some newRegime
          pendingTicks := pendingTicks
          regimeTicks := state.regimeTicks + 1 },
        state.currentRegime, state.regimeTicks + 1)

/-- `_estimate_transition_probability`, with the matrix of the symbol if it is given. -/
def estimateTransitionProbability (state : SymbolState δ φ)
    (detectedRegime : RegimeType) (matrix : Option RegimeTransitionMatrix) : φ :=
  let currentRegime := state.currentRegime
  if detectedRegime = currentRegime then
    let baseProb := pyMax (literal (5 / 100))
      (literal (2 / 10) - ofInt state.regimeTicks * literal (1 / 100))
    match matrix with
    | none => baseProb
    | some matrix =>
        let histDist := matrix.getTransitionDistribution φ currentRegime.name
        if histDist.isEmpty then baseProb
        else
          let staying :=
            ((histDist.find? fun entry => entry.1 = currentRegime.name).map
              Prod.snd).getD (literal (1 / 2))
          (baseProb + (literal 1 - staying)) / ofInt 2
  else
    match state.pendingRegime with
    | none => literal (3 / 10)
    | some _ =>
        let progress := FloatOps.ratio state.pendingTicks state.config.minRegimeTicks
        match matrix with
        | none => pyMin (literal (9 / 10)) progress
        | some matrix =>
            let histProb := matrix.getTransitionProbability φ currentRegime.name
              detectedRegime.name
            if literal 0 < histProb then
              pyMin (literal (95 / 100))
                (progress * literal (7 / 10) + histProb * literal (3 / 10))
            else pyMin (literal (9 / 10)) progress

/-- The scores that a regime is classified from. -/
structure RegimeScores (φ : Type) where
  trendScore : φ
  combinedVol : φ
  momentumScore : φ
  drawdown : φ
  adx : Option φ
  squeezeScore : φ

def readScores (state : SymbolState δ φ) : SymbolState δ φ × RegimeScores φ :=
  let volatilityPercentile := state.getVolatilityPercentile
  let atrPercentile := state.getAtrPercentile
  let (strengthRead, adx) := state.getAdx
  let (squeezeRead, squeezeScore) := strengthRead.getSqueezeScore
  (squeezeRead,
    { trendScore := state.getTrendScore
      combinedVol :=
        if state.atr.initialized then
          (volatilityPercentile + atrPercentile) / ofInt 2
        else volatilityPercentile
      momentumScore := state.getMomentumScore
      drawdown := state.getDrawdown
      adx := adx
      squeezeScore := squeezeScore })

/-- The regime the scores suggest. -/
def newRegimeOf (state : SymbolState δ φ) (scores : RegimeScores φ) : RegimeType × φ :=
  if checkCrisis state scores.combinedVol scores.drawdown then
    (.crisis, literal (9 / 10))
  else
    (classifyNormalRegime state.config scores.trendScore scores.combinedVol scores.adx
        scores.squeezeScore,
      calculateConfidence scores.trendScore scores.combinedVol scores.adx
        scores.squeezeScore)

/-- `_classify_regime`; the matrix is that of the symbol, if it is given. -/
def classifyRegime (state : SymbolState δ φ) (matrix : Option RegimeTransitionMatrix) :
    SymbolState δ φ × Option RegimeTransitionMatrix × RegimeState φ :=
  let (read, scores) := readScores state
  let (newRegime, confidence) := newRegimeOf read scores
  let oldRegime := read.currentRegime
  let (persisted, finalRegime, regimeAge) := applyPersistence read newRegime
  let matrix :=
    if oldRegime = finalRegime then matrix
    else matrix.map fun matrix =>
      matrix.recordTransition oldRegime.name finalRegime.name
  (persisted, matrix,
    { regime := finalRegime
      confidence := confidence
      trendScore := scores.trendScore
      volatilityPercentile := scores.combinedVol
      momentumScore := scores.momentumScore
      regimeAgeTicks := regimeAge
      transitionProbability :=
        estimateTransitionProbability persisted newRegime matrix })

/-! ## The detector -/

/-- `MarketRegimeDetector`. -/
structure Detector (δ φ : Type) where
  config : RegimeConfig φ
  symbolStates : Dict String (SymbolState δ φ)
  transitionMatrices : Dict String RegimeTransitionMatrix

namespace Detector

/-- `MarketRegimeDetector(config)`. -/
def fresh (config : RegimeConfig φ) : Detector δ φ :=
  { config := config, symbolStates := .empty, transitionMatrices := .empty }

def getOrCreateState (detector : Detector δ φ) (symbol : String) :
    Detector δ φ × SymbolState δ φ :=
  match detector.symbolStates.get? symbol with
  | some state => (detector, state)
  | none =>
      let state := .fresh detector.config
      ({ detector with
          symbolStates := detector.symbolStates.set symbol state
          transitionMatrices := detector.transitionMatrices.set symbol .fresh },
        state)

def getTransitionMatrix (detector : Detector δ φ) (symbol : String) :
    RegimeTransitionMatrix :=
  (detector.transitionMatrices.get? symbol).getD .fresh

/-- `MarketRegimeDetector.update`. -/
def update (detector : Detector δ φ) (symbol : String) (price : δ) :
    Detector δ φ × RegimeState φ :=
  let (created, state) := detector.getOrCreateState symbol
  let updated := state.update price
  if !updated.isWarmedUp then
    ({ created with symbolStates := created.symbolStates.set symbol updated },
      .unknown)
  else
    let (classified, matrix, regime) :=
      classifyRegime updated (some (created.getTransitionMatrix symbol))
    ({ created with
        symbolStates := created.symbolStates.set symbol classified
        transitionMatrices := created.transitionMatrices.set symbol
          (matrix.getD (created.getTransitionMatrix symbol)) },
      regime)

/-! ## Reads -/

def getRegime (detector : Detector δ φ) (symbol : String) :
    Detector δ φ × RegimeState φ :=
  match detector.symbolStates.get? symbol with
  | none => (detector, .unknown)
  | some state =>
      if !state.isWarmedUp then (detector, .unknown)
      else
        let (classified, _, regime) := classifyRegime state none
        ({ detector with
            symbolStates := detector.symbolStates.set symbol classified },
          regime)

def getAdx (detector : Detector δ φ) (symbol : String) : Detector δ φ × Option φ :=
  match detector.symbolStates.get? symbol with
  | none => (detector, none)
  | some state =>
      let (read, adx) := state.getAdx
      ({ detector with symbolStates := detector.symbolStates.set symbol read }, adx)

def getSqueezeScore (detector : Detector δ φ) (symbol : String) :
    Detector δ φ × Option φ :=
  match detector.symbolStates.get? symbol with
  | none => (detector, none)
  | some state =>
      let (read, score) := state.getSqueezeScore
      ({ detector with symbolStates := detector.symbolStates.set symbol read },
        some score)

/-- What `get_indicator_values` returns. -/
structure IndicatorValues (φ : Type) where
  atr : Option φ
  atrPercentile : φ
  adx : Option φ
  squeezeScore : φ
  trendScore : φ
  volatilityPercentile : φ
  momentumScore : φ
  drawdown : φ
  bollingerReady : Bool
  trendStrengthReady : Bool

/-- `float(state.atr.value) if state.atr.value else None`. -/
def atrValue (state : SymbolState δ φ) : Option φ :=
  match state.atr.atr with
  | none => none
  | some value =>
      if DecimalOps.truthy value then some (NumberConversions.toFloat value) else none

/-- The indicator values of a read. -/
def getIndicatorValues (detector : Detector δ φ) (symbol : String) :
    Detector δ φ × Option (IndicatorValues φ) :=
  match detector.symbolStates.get? symbol with
  | none => (detector, none)
  | some state =>
      let (strengthRead, adx) := state.getAdx
      let (read, squeezeScore) := strengthRead.getSqueezeScore
      ({ detector with symbolStates := detector.symbolStates.set symbol read },
        some
          { atr := atrValue state
            atrPercentile := state.getAtrPercentile
            adx := adx
            squeezeScore := squeezeScore
            trendScore := read.getTrendScore
            volatilityPercentile := read.getVolatilityPercentile
            momentumScore := read.getMomentumScore
            drawdown := read.getDrawdown
            bollingerReady := read.bollinger.isReady
            trendStrengthReady := read.trendStrength.isReady })

end Detector

end Regime

end GptTrader
