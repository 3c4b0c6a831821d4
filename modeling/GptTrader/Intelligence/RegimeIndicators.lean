import Mathlib.Data.List.DropRight
import Mathlib.Data.PNat.Basic
import GptTrader.Library.Dict
import GptTrader.Python.NumberOps

/-!
# Indicators of the regime detector

`features/intelligence/regime/indicators.py`, with the statistics, windows and averages
of `features/live_trade/stateful_indicators.py` that it is built from, over arbitrary
operations of decimals and floats.  Ticks have no high and low of their own.  A period
is a positive number.
-/

namespace GptTrader

namespace Regime

variable {δ φ : Type} [DecimalOps δ] [FloatOps φ] [NumberConversions δ φ]

/-- `Decimal(value)` of an integer. -/
def dec (value : ℕ) : δ :=
  (value : δ)

/-! ## Statistics, windows and averages -/

structure WelfordState (δ : Type) where
  count : ℕ
  mean : δ
  m2 : δ

namespace WelfordState

/-- `WelfordState()`. -/
def fresh : WelfordState δ :=
  { count := 0, mean := dec 0, m2 := dec 0 }

/-- `WelfordState.update`. -/
def update (state : WelfordState δ) (value : δ) : WelfordState δ :=
  let count := state.count + 1
  let delta := value - state.mean
  let mean := state.mean + delta / dec count
  let delta2 := value - mean
  { count := count, mean := mean, m2 := state.m2 + delta * delta2 }

def variance (state : WelfordState δ) : δ :=
  if state.count < 2 then dec 0 else state.m2 / dec state.count

def stdDev (state : WelfordState δ) : δ :=
  if dec 0 < state.variance then DecimalOps.sqrt state.variance else dec 0

end WelfordState

/-- `RollingWindow`: a queue of bounded length with its sum. -/
structure RollingWindow (δ : Type) where
  maxSize : ℕ+
  values : List δ
  runningSum : δ

namespace RollingWindow

/-- `RollingWindow(max_size)`. -/
def fresh (maxSize : ℕ+) : RollingWindow δ :=
  { maxSize := maxSize, values := [], runningSum := dec 0 }

/-- `RollingWindow.add`; a full queue drops its oldest value. -/
def add (window : RollingWindow δ) (value : δ) : RollingWindow δ :=
  match window.values with
  | oldest :: rest =>
      if window.values.length = window.maxSize then
        { window with
          values := rest ++ [value]
          runningSum := window.runningSum - oldest + value }
      else
        { window with
          values := window.values ++ [value]
          runningSum := window.runningSum + value }
  | [] =>
      { window with values := [value], runningSum := window.runningSum + value }

def mean (window : RollingWindow δ) : Option δ :=
  if window.values.isEmpty then none
  else some (window.runningSum / dec window.values.length)

def isFull (window : RollingWindow δ) : Bool :=
  window.values.length = window.maxSize

end RollingWindow

structure OnlineEMA (δ : Type) where
  period : ℕ+
  smoothing : δ
  value : Option δ
  initialized : Bool
  warmupValues : List δ

namespace OnlineEMA

/-- `OnlineEMA(period)`. -/
def fresh (period : ℕ+) : OnlineEMA δ :=
  { period := period
    smoothing := dec 2
    value := none
    initialized := false
    warmupValues := [] }

/-- `_multiplier`, which every constructor computes anew. -/
def multiplier (ema : OnlineEMA δ) : δ :=
  ema.smoothing / (dec ema.period + dec 1)

/-- One step of the average. -/
def smoothed (ema : OnlineEMA δ) (latest price : δ) : δ :=
  price * ema.multiplier + latest * (dec 1 - ema.multiplier)

/-- `OnlineEMA.update`. -/
def update (ema : OnlineEMA δ) (price : δ) : OnlineEMA δ × Option δ :=
  if !ema.initialized then
    let warmupValues := ema.warmupValues ++ [price]
    if (ema.period : ℕ) ≤ warmupValues.length then
      let seed := decimalSum (warmupValues.take ema.period) / dec ema.period
      let value := (warmupValues.drop ema.period).foldl
        (fun current price =>
          match current with
          | none => some price
          | some latest => some (ema.smoothed latest price))
        (some seed)
      ({ ema with value := value, initialized := true, warmupValues := [] }, value)
    else ({ ema with warmupValues := warmupValues }, ema.value)
  else
    let value :=
      match ema.value with
      | none => some price
      | some latest => some (ema.smoothed latest price)
    ({ ema with value := value }, value)

end OnlineEMA

/-! ## Average true range -/

/-- The average true range. -/
structure OnlineATR (δ : Type) where
  period : ℕ+
  atr : Option δ
  prevPrice : Option δ
  warmupTrs : List δ
  initialized : Bool

namespace OnlineATR

/-- `OnlineATR(period)`. -/
def fresh (period : ℕ+) : OnlineATR δ :=
  { period := period
    atr := none
    prevPrice := none
    warmupTrs := []
    initialized := false }

/-- One step of Wilder's average. -/
def applyWilderSmoothing (atr : OnlineATR δ) (trueRange : δ) : OnlineATR δ :=
  match atr.atr with
  | none => atr
  | some current =>
      let periodDec := dec atr.period
      { atr with
        atr := some (((periodDec - dec 1) * current + trueRange) / periodDec) }

/-- `OnlineATR.update`, of a tick. -/
def update (atr : OnlineATR δ) (price : δ) : OnlineATR δ × Option δ :=
  match atr.prevPrice with
  | none => ({ atr with prevPrice := some price }, none)
  | some prevPrice =>
      let trueRange := DecimalOps.abs (price - prevPrice)
      let atr := { atr with prevPrice := some price }
      if !atr.initialized then
        let warmupTrs := atr.warmupTrs ++ [trueRange]
        if (atr.period : ℕ) ≤ warmupTrs.length then
          let seeded :=
            { atr with
              atr := some
                (decimalSum (warmupTrs.take atr.period) / dec atr.period)
              initialized := true }
          let smoothed := (warmupTrs.drop atr.period).foldl applyWilderSmoothing
            seeded
          ({ smoothed with warmupTrs := [] }, smoothed.atr)
        else ({ atr with warmupTrs := warmupTrs }, atr.atr)
      else
        let smoothed := atr.applyWilderSmoothing trueRange
        (smoothed, smoothed.atr)

end OnlineATR

/-! ## Bollinger bands -/

structure OnlineBollingerBands (δ φ : Type) where
  period : ℕ+
  numStd : φ
  prices : RollingWindow δ
  welford : WelfordState δ
  currentPrice : Option δ

namespace OnlineBollingerBands

/-- `OnlineBollingerBands(period)`. -/
def fresh (period : ℕ+) : OnlineBollingerBands δ φ :=
  { period := period
    numStd := FloatOps.literal 2
    prices := .fresh period
    welford := .fresh
    currentPrice := none }

/-- The bands of a full window. -/
structure Bands (δ : Type) where
  middle : δ
  upper : δ
  lower : δ
  width : δ
  percentB : δ

def bands (bollinger : OnlineBollingerBands δ φ) (middle price : δ) : Bands δ :=
  let pricesList := bollinger.prices.values
  let variance :=
    decimalSum (pricesList.map fun p => DecimalOps.square (p - middle)) /
      dec pricesList.length
  let stdDev := if dec 0 < variance then DecimalOps.sqrt variance else dec 0
  let bandWidth := stdDev * NumberConversions.toDecimal bollinger.numStd
  let upper := middle + bandWidth
  let lower := middle - bandWidth
  let bandRange := upper - lower
  { middle := middle
    upper := upper
    lower := lower
    width := if dec 0 < middle then (upper - lower) / middle else dec 0
    percentB :=
      if dec 0 < bandRange then (price - lower) / bandRange
      else NumberConversions.toDecimal (FloatOps.literal (1 / 2) : φ) }

/-- `OnlineBollingerBands.update`. -/
def update (bollinger : OnlineBollingerBands δ φ) (price : δ) :
    OnlineBollingerBands δ φ × Option (Bands δ) :=
  let updated :=
    { bollinger with
      currentPrice := some price
      prices := bollinger.prices.add price }
  if !updated.prices.isFull then (updated, none)
  else (updated, updated.prices.mean.map fun middle => updated.bands middle price)

def isReady (bollinger : OnlineBollingerBands δ φ) : Bool :=
  bollinger.prices.isFull

def squeezeOf (width : φ) : φ :=
  if width < FloatOps.literal (2 / 100) then FloatOps.literal 1
  else if FloatOps.literal (10 / 100) < width then FloatOps.literal 0
  else
    FloatOps.literal 1 -
      (width - FloatOps.literal (2 / 100)) / FloatOps.literal (8 / 100)

/-- `OnlineBollingerBands.get_squeeze_score`, which adds the current price again. -/
def getSqueezeScore (bollinger : OnlineBollingerBands δ φ) :
    OnlineBollingerBands δ φ × φ :=
  match bollinger.currentPrice with
  | none => (bollinger, FloatOps.literal (1 / 2))
  | some price =>
      if DecimalOps.truthy price then
        let (updated, bands) := bollinger.update price
        (updated, match bands with
          | none => FloatOps.literal (1 / 2)
          | some bands => squeezeOf (NumberConversions.toFloat bands.width))
      else (bollinger, FloatOps.literal (1 / 2))

end OnlineBollingerBands

/-! ## Trend strength -/

/-- The directional index. -/
structure OnlineTrendStrength (δ : Type) where
  period : ℕ+
  plusDmEma : OnlineEMA δ
  minusDmEma : OnlineEMA δ
  trEma : OnlineEMA δ
  adxEma : OnlineEMA δ
  prevPrice : Option δ
  prevHigh : Option δ
  prevLow : Option δ

namespace OnlineTrendStrength

/-- `OnlineTrendStrength(period)`. -/
def fresh (period : ℕ+) : OnlineTrendStrength δ :=
  { period := period
    plusDmEma := .fresh period
    minusDmEma := .fresh period
    trEma := .fresh period
    adxEma := .fresh period
    prevPrice := none
    prevHigh := none
    prevLow := none }

/-- `value or other` of a decimal. -/
def orDecimal (value : Option δ) (other : δ) : δ :=
  match value with
  | none => other
  | some value => if DecimalOps.truthy value then value else other

/-- The directional indicators and the index, and the average that follows from
smoothing it. -/
structure Strength (φ : Type) where
  plusDi : φ
  minusDi : φ
  dx : φ
  adx : Option φ

def move (trend : OnlineTrendStrength δ) (prevPrice price : δ) :
    OnlineTrendStrength δ :=
  let upMove := price - orDecimal trend.prevHigh price
  let downMove := orDecimal trend.prevLow price - price
  let plusDm := if downMove < upMove ∧ dec 0 < upMove then upMove else dec 0
  let minusDm := if upMove < downMove ∧ dec 0 < downMove then downMove else dec 0
  let tr1 := price - price
  let tr2 := DecimalOps.abs (price - prevPrice)
  let tr3 := DecimalOps.abs (price - prevPrice)
  let trueRange := pyMax (pyMax tr1 tr2) tr3
  { trend with
    plusDmEma := (trend.plusDmEma.update plusDm).1
    minusDmEma := (trend.minusDmEma.update minusDm).1
    trEma := (trend.trEma.update trueRange).1
    prevPrice := some price
    prevHigh := some price
    prevLow := some price }

def directionalIndex (plusDi minusDi : φ) : φ :=
  let diSum := plusDi + minusDi
  if FloatOps.isZero diSum then FloatOps.literal 0
  else FloatOps.abs (plusDi - minusDi) / diSum * FloatOps.ofInt 100

/-- `OnlineTrendStrength.update`, of a tick. -/
def update (φ : Type) [FloatOps φ] [NumberConversions δ φ]
    (trend : OnlineTrendStrength δ) (price : δ) :
    OnlineTrendStrength δ × Option (Strength φ) :=
  match trend.prevPrice with
  | none =>
      ({ trend with
          prevPrice := some price
          prevHigh := some price
          prevLow := some price },
        none)
  | some prevPrice =>
      let moved := trend.move prevPrice price
      match moved.trEma.value, moved.plusDmEma.value, moved.minusDmEma.value with
      | some trSmoothed, some plus, some minus =>
          if DecimalOps.truthy trSmoothed then
            let plusDi : φ := NumberConversions.toFloat (plus / trSmoothed * dec 100)
            let minusDi : φ :=
              NumberConversions.toFloat (minus / trSmoothed * dec 100)
            let dx := directionalIndex plusDi minusDi
            let (adxEma, adxVal) := moved.adxEma.update (NumberConversions.toDecimal dx)
            ({ moved with adxEma := adxEma },
              some
                { plusDi := plusDi
                  minusDi := minusDi
                  dx := dx
                  adx := adxVal.map NumberConversions.toFloat })
          else (moved, none)
      | _, _, _ => (moved, none)

def isReady (trend : OnlineTrendStrength δ) : Bool :=
  trend.adxEma.initialized

end OnlineTrendStrength

/-! ## Transitions between regimes -/

structure RegimeTransitionMatrix where
  transitions : Dict String (Dict String ℕ)
  lastRegime : Option String
  totalTransitions : ℕ

namespace RegimeTransitionMatrix

/-- `RegimeTransitionMatrix()`. -/
def fresh : RegimeTransitionMatrix :=
  { transitions := .empty, lastRegime := none, totalTransitions := 0 }

/-- One more transition. -/
def recordTransition (matrix : RegimeTransitionMatrix)
    (fromRegime toRegime : String) : RegimeTransitionMatrix :=
  let counts := (matrix.transitions.get? fromRegime).getD .empty
  { transitions := matrix.transitions.set fromRegime
      (counts.set toRegime ((counts.get? toRegime).getD 0 + 1))
    lastRegime := some toRegime
    totalTransitions := matrix.totalTransitions + 1 }

def getTransitionProbability (φ : Type) [FloatOps φ]
    (matrix : RegimeTransitionMatrix) (fromRegime toRegime : String) : φ :=
  match matrix.transitions.get? fromRegime with
  | none => FloatOps.literal 0
  | some fromCounts =>
      let totalFrom := fromCounts.values.sum
      if totalFrom = 0 then FloatOps.literal 0
      else FloatOps.ratio ((fromCounts.get? toRegime).getD 0 : ℕ) totalFrom

def getTransitionDistribution (φ : Type) [FloatOps φ]
    (matrix : RegimeTransitionMatrix) (currentRegime : String) :
    List (String × φ) :=
  match matrix.transitions.get? currentRegime with
  | none => []
  | some fromCounts =>
      let totalFrom := fromCounts.values.sum
      if totalFrom = 0 then []
      else fromCounts.entries.map fun (regime, count) =>
        (regime, FloatOps.ratio count totalFrom)

end RegimeTransitionMatrix

end Regime

end GptTrader
