import Mathlib.Algebra.BigOperators.Group.List.Basic
import Mathlib.Algebra.Order.Field.Rat
import Mathlib.Data.List.DropRight
import Mathlib.Data.PNat.Basic
import GptTrader.Library.Recoverable

/-!
# Technical indicators, computed at once and incrementally

`features/live_trade/indicators.py` computes an indicator from a whole price list;
`features/live_trade/stateful_indicators.py` updates it price by price and serialises
its state.  Arithmetic is exact, a serialised decimal is the number it spells, and
the decimal square root is a parameter.  A period is a positive number.
-/

namespace GptTrader

/-! ## Batch indicators -/

/-- The mean; zero of nothing. -/
def meanDecimal (values : List ℚ) : ℚ :=
  if values.isEmpty then 0 else values.sum / values.length

/-- The mean of the last period. -/
def simpleMovingAverage (values : List ℚ) (period : ℕ+) : Option ℚ :=
  if values.length < period then none else some (meanDecimal (values.rtake period))

/-- The average of a whole list. -/
def exponentialMovingAverage (values : List ℚ) (period : ℕ+) (smoothing : ℚ) :
    Option ℚ :=
  if values.length < period then none
  else
    let multiplier := smoothing / ((period : ℕ) + 1)
    some ((values.drop period).foldl
      (fun ema price => price * multiplier + ema * (1 - multiplier))
      (meanDecimal (values.take period)))

/-- The differences of neighbours. -/
def priceChanges (values : List ℚ) : List ℚ :=
  List.zipWith (fun later earlier => later - earlier) values.tail values

/-- One step of Wilder's averages. -/
def wilderSmoothing (period : ℕ+) (averages change : ℚ × ℚ) : ℚ × ℚ :=
  ((averages.1 * ((period : ℕ) - 1) + change.1) / (period : ℕ),
    (averages.2 * ((period : ℕ) - 1) + change.2) / (period : ℕ))

/-- The index of two averages. -/
def strengthIndex (avgGain avgLoss : ℚ) : ℚ :=
  if avgLoss = 0 then 100 else 100 - 100 / (1 + avgGain / avgLoss)

/-- The index of a whole list. -/
def relativeStrengthIndex (values : List ℚ) (period : ℕ+) : Option ℚ :=
  if values.length < period + 1 then none
  else
    let changes := priceChanges values
    if changes.length < period then none
    else
      let gains := changes.map fun change => if 0 < change then change else 0
      let losses := changes.map fun change => if 0 < change then 0 else |change|
      let averages := ((gains.zip losses).drop period).foldl (wilderSmoothing period)
        ((gains.take period).sum / (period : ℕ),
          (losses.take period).sum / (period : ℕ))
      some (strengthIndex averages.1 averages.2)

/-! ## Welford statistics -/

/-- Count, mean and squared deviations. -/
structure WelfordState where
  count : ℕ := 0
  mean : ℚ := 0
  m2 : ℚ := 0

namespace WelfordState

/-- `WelfordState.update`. -/
def update (state : WelfordState) (value : ℚ) : WelfordState :=
  let count := state.count + 1
  let delta := value - state.mean
  let mean := state.mean + delta / count
  let delta2 := value - mean
  { count := count, mean := mean, m2 := state.m2 + delta * delta2 }

def variance (state : WelfordState) : ℚ :=
  if state.count < 2 then 0 else state.m2 / state.count

def sampleVariance (state : WelfordState) : ℚ :=
  if state.count < 2 then 0 else state.m2 / (state.count - 1)

def stdDev (sqrt : ℚ → ℚ) (state : WelfordState) : ℚ :=
  if 0 < state.variance then sqrt state.variance else 0

/-- What `WelfordState.serialize` writes. -/
structure Saved where
  count : ℕ
  mean : ℚ
  m2 : ℚ

def serialize (state : WelfordState) : Saved :=
  { count := state.count, mean := state.mean, m2 := state.m2 }

def deserialize (data : Saved) : WelfordState :=
  { count := data.count, mean := data.mean, m2 := data.m2 }

def process : Recoverable WelfordState Saved ℚ Unit :=
  { start := {}
    update := fun state value => (state.update value, ())
    serialize := serialize
    deserialize := deserialize }

end WelfordState

/-! ## Windows -/

/-- `RollingWindow`: a queue of bounded length with its sum. -/
structure RollingWindow where
  maxSize : ℕ+
  values : List ℚ := []
  runningSum : ℚ := 0

namespace RollingWindow

/-- `RollingWindow.add`; a full queue drops its oldest value. -/
def add (window : RollingWindow) (value : ℚ) : RollingWindow × Option ℚ :=
  let evicted :=
    if window.values.length = window.maxSize then window.values.head? else none
  ({ window with
      values := (window.values ++ [value]).rtake window.maxSize
      runningSum := window.runningSum - evicted.getD 0 + value },
    evicted)

def mean (window : RollingWindow) : Option ℚ :=
  if window.values.isEmpty then none
  else some (window.runningSum / window.values.length)

def isFull (window : RollingWindow) : Bool :=
  window.values.length = window.maxSize

/-- What `RollingWindow.serialize` writes. -/
structure Saved where
  maxSize : ℕ+
  values : List ℚ
  runningSum : ℚ

def serialize (window : RollingWindow) : Saved :=
  { maxSize := window.maxSize
    values := window.values
    runningSum := window.runningSum }

/-- `RollingWindow.deserialize`; the queue keeps no more than its length. -/
def deserialize (data : Saved) : RollingWindow :=
  { maxSize := data.maxSize
    values := data.values.rtake data.maxSize
    runningSum := data.runningSum }

end RollingWindow

/-! ## Online averages -/

/-- An exponential average fed price by price. -/
structure OnlineEMA where
  period : ℕ+
  smoothing : ℚ := 2
  value : Option ℚ := none
  initialized : Bool := false
  warmupValues : List ℚ := []

namespace OnlineEMA

/-- `_multiplier`, which every constructor computes anew. -/
def multiplier (ema : OnlineEMA) : ℚ :=
  ema.smoothing / ((ema.period : ℕ) + 1)

def smoothed (ema : OnlineEMA) (latest price : ℚ) : ℚ :=
  price * ema.multiplier + latest * (1 - ema.multiplier)

/-- `OnlineEMA.update`. -/
def update (ema : OnlineEMA) (price : ℚ) : OnlineEMA × Option ℚ :=
  if !ema.initialized then
    let warmupValues := ema.warmupValues ++ [price]
    if (ema.period : ℕ) ≤ warmupValues.length then
      let seed := (warmupValues.take ema.period).sum / (ema.period : ℕ)
      let value := (warmupValues.drop ema.period).foldl
        (fun current price =>
          match current with
          | none => some price
          | some latest => some (ema.smoothed latest price))
        (some seed)
      ({ ema with value := value, initialized := true, warmupValues := [] }, value)
    else ({ ema with warmupValues := warmupValues }, ema.value)
  else
    let value :=
      match ema.value with
      | none => some price
      | some latest => some (ema.smoothed latest price)
    ({ ema with value := value }, value)

/-- What `OnlineEMA.serialize` writes. -/
structure Saved where
  period : ℕ+
  smoothing : ℚ
  value : Option ℚ
  initialized : Bool
  warmupValues : List ℚ

def serialize (ema : OnlineEMA) : Saved :=
  { period := ema.period
    smoothing := ema.smoothing
    value := ema.value
    initialized := ema.initialized
    warmupValues := ema.warmupValues }

def deserialize (data : Saved) : OnlineEMA :=
  { period := data.period
    smoothing := data.smoothing
    value := data.value
    initialized := data.initialized
    warmupValues := data.warmupValues }

def process (period : ℕ+) (smoothing : ℚ) :
    Recoverable OnlineEMA Saved ℚ (Option ℚ) :=
  { start := { period := period, smoothing := smoothing }
    update := update
    serialize := serialize
    deserialize := deserialize }

end OnlineEMA

/-- A mean over a window. -/
structure OnlineSMA where
  period : ℕ+
  window : RollingWindow

namespace OnlineSMA

/-- `OnlineSMA.update`. -/
def update (sma : OnlineSMA) (price : ℚ) : OnlineSMA × Option ℚ :=
  let window := (sma.window.add price).1
  ({ sma with window := window }, window.mean)

def isReady (sma : OnlineSMA) : Bool :=
  sma.window.isFull

/-- What `OnlineSMA.serialize` writes. -/
structure Saved where
  period : ℕ+
  window : RollingWindow.Saved

def serialize (sma : OnlineSMA) : Saved :=
  { period := sma.period, window := sma.window.serialize }

def deserialize (data : Saved) : OnlineSMA :=
  { period := data.period, window := .deserialize data.window }

def process (period : ℕ+) : Recoverable OnlineSMA Saved ℚ (Option ℚ) :=
  { start := { period := period, window := { maxSize := period } }
    update := update
    serialize := serialize
    deserialize := deserialize }

end OnlineSMA

/-! ## Relative strength -/

/-- A strength index fed price by price. -/
structure OnlineRSI where
  period : ℕ+
  avgGain : ℚ := 0
  avgLoss : ℚ := 0
  prevPrice : Option ℚ := none
  initialized : Bool := false
  warmupGains : List ℚ := []
  warmupLosses : List ℚ := []
  value : Option ℚ := none

namespace OnlineRSI

def applyWilderSmoothing (rsi : OnlineRSI) (gain loss : ℚ) : OnlineRSI :=
  let averages := wilderSmoothing rsi.period (rsi.avgGain, rsi.avgLoss) (gain, loss)
  { rsi with avgGain := averages.1, avgLoss := averages.2 }

def calculateRsi (rsi : OnlineRSI) : ℚ :=
  strengthIndex rsi.avgGain rsi.avgLoss

/-- `OnlineRSI.update`. -/
def update (rsi : OnlineRSI) (price : ℚ) : OnlineRSI × Option ℚ :=
  match rsi.prevPrice with
  | none => ({ rsi with prevPrice := some price }, none)
  | some prevPrice =>
      let change := price - prevPrice
      let rsi := { rsi with prevPrice := some price }
      let gain := if 0 < change then change else 0
      let loss := if change < 0 then |change| else 0
      if !rsi.initialized then
        let warmupGains := rsi.warmupGains ++ [gain]
        let warmupLosses := rsi.warmupLosses ++ [loss]
        if (rsi.period : ℕ) ≤ warmupGains.length then
          let seeded :=
            { rsi with
              avgGain := (warmupGains.take rsi.period).sum / (rsi.period : ℕ)
              avgLoss := (warmupLosses.take rsi.period).sum / (rsi.period : ℕ)
              initialized := true }
          let smoothed := ((warmupGains.zip warmupLosses).drop rsi.period).foldl
            (fun rsi change => rsi.applyWilderSmoothing change.1 change.2) seeded
          let value := some smoothed.calculateRsi
          ({ smoothed with warmupGains := [], warmupLosses := [], value := value },
            value)
        else
          ({ rsi with warmupGains := warmupGains, warmupLosses := warmupLosses },
            rsi.value)
      else
        let smoothed := rsi.applyWilderSmoothing gain loss
        let value := some smoothed.calculateRsi
        ({ smoothed with value := value }, value)

/-- What `OnlineRSI.serialize` writes. -/
structure Saved where
  period : ℕ+
  avgGain : ℚ
  avgLoss : ℚ
  prevPrice : Option ℚ
  initialized : Bool
  warmupGains : List ℚ
  warmupLosses : List ℚ
  value : Option ℚ

def serialize (rsi : OnlineRSI) : Saved :=
  { period := rsi.period
    avgGain := rsi.avgGain
    avgLoss := rsi.avgLoss
    prevPrice := rsi.prevPrice
    initialized := rsi.initialized
    warmupGains := rsi.warmupGains
    warmupLosses := rsi.warmupLosses
    value := rsi.value }

def deserialize (data : Saved) : OnlineRSI :=
  { period := data.period
    avgGain := data.avgGain
    avgLoss := data.avgLoss
    prevPrice := data.prevPrice
    initialized := data.initialized
    warmupGains := data.warmupGains
    warmupLosses := data.warmupLosses
    value := data.value }

def process (period : ℕ+) : Recoverable OnlineRSI Saved ℚ (Option ℚ) :=
  { start := { period := period }
    update := update
    serialize := serialize
    deserialize := deserialize }

end OnlineRSI

/-! ## Scores -/

def windowMean (values : List ℚ) : ℚ :=
  values.sum / values.length

def windowVariance (values : List ℚ) : ℚ :=
  (values.map fun value => (value - windowMean values) ^ 2).sum / values.length

/-- `OnlineZScore`; its windowed Welford state is never used. -/
structure OnlineZScore where
  welford : WelfordState := {}
  lookback : Option ℕ+ := none
  window : Option RollingWindow := none

namespace OnlineZScore

/-- `OnlineZScore(lookback=lookback)`. -/
def create (lookback : Option ℕ+) : OnlineZScore :=
  { lookback := lookback
    window := lookback.map fun maxSize => { maxSize := maxSize } }

/-- The distance from the mean in deviations. -/
def score (value mean stdDev : ℚ) : ℚ :=
  if stdDev = 0 then 0 else (value - mean) / stdDev

/-- `OnlineZScore.update`. -/
def update (sqrt : ℚ → ℚ) (zscore : OnlineZScore) (value : ℚ) :
    OnlineZScore × Option ℚ :=
  let welford := zscore.welford.update value
  match zscore.lookback, zscore.window with
  | some _, some window =>
      let window := (window.add value).1
      let updated := { zscore with welford := welford, window := some window }
      if window.isFull then
        let mean := windowMean window.values
        let variance := windowVariance window.values
        let stdDev := if 0 < variance then sqrt variance else 0
        (updated, some (score value mean stdDev))
      else (updated, none)
  | _, _ =>
      let updated := { zscore with welford := welford }
      if welford.count < 2 then (updated, none)
      else (updated, some (score value welford.mean (welford.stdDev sqrt)))

/-- The `mean` property. -/
def mean (zscore : OnlineZScore) : ℚ :=
  match zscore.lookback, zscore.window with
  | some _, some window =>
      if window.isFull then window.mean.getD 0 else zscore.welford.mean
  | _, _ => zscore.welford.mean

/-- What `OnlineZScore.serialize` writes. -/
structure Saved where
  welford : WelfordState.Saved
  lookback : Option ℕ+
  window : Option RollingWindow.Saved

def serialize (zscore : OnlineZScore) : Saved :=
  { welford := zscore.welford.serialize
    lookback := zscore.lookback
    window := zscore.window.map RollingWindow.serialize }

def deserialize (data : Saved) : OnlineZScore :=
  let zscore := { create data.lookback with welford := .deserialize data.welford }
  match data.window with
  | none => zscore
  | some window => { zscore with window := some (.deserialize window) }

def process (sqrt : ℚ → ℚ) (lookback : Option ℕ+) :
    Recoverable OnlineZScore Saved ℚ (Option ℚ) :=
  { start := create lookback
    update := update sqrt
    serialize := serialize
    deserialize := deserialize }

end OnlineZScore

end GptTrader
