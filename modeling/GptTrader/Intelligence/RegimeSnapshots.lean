import GptTrader.Intelligence.RegimeDetector
import GptTrader.Library.RoundTrips
import GptTrader.Python.JsonCodec

/-!
# Saving and restoring the regime detector

`serialize` and `deserialize` of the indicators, of the state of a symbol and of the
detector.  Decimals are written as texts, some of them only if they are truthy, and the
multipliers and the Welford sums of the bands are not written at all.
-/

namespace GptTrader

namespace Regime

variable {δ φ : Type} [DecimalOps δ] [FloatOps φ] [NumberConversions δ φ]
  [DecimalText δ] [FloatJson φ]

/-! ## Written values -/

/-- `str(value)`. -/
def writeDecimal (value : δ) : Json :=
  .str (DecimalText.text value)

/-- `str(value) if value is not None else None`. -/
def writeOptional : Option δ → Json
  | none => .null
  | some value => writeDecimal value

/-- `str(value) if value else None`. -/
def writeTruthy : Option δ → Json
  | none => .null
  | some value => if DecimalOps.truthy value then writeDecimal value else .null

/-- `Decimal(data) if data is not None else None`. -/
def readOptional : Json → Except PyError (Option δ)
  | .null => .ok none
  | data => (DecimalText.read data).map some

/-- `Decimal(data) if data else None`. -/
def readTruthy (data : Json) : Except PyError (Option δ) :=
  if data.truthy then (DecimalText.read data).map some else .ok none

def writeDecimals (values : List δ) : Json :=
  .arr (values.map writeDecimal)

/-- `[Decimal(value) for value in data]`, of a list. -/
def readDecimals : Json → Except PyError (List δ)
  | .arr items => items.mapM DecimalText.read
  | _ => .error .typeError

def readCount : Json → Except PyError ℕ
  | .int value => if 0 ≤ value then .ok value.toNat else .error .valueError
  | _ => .error .typeError

def readPeriod (data : Json) : Except PyError ℕ+ := do
  let count ← readCount data
  if positive : 0 < count then .ok ⟨count, positive⟩ else .error .valueError

def readFlag : Json → Except PyError Bool
  | .bool value => .ok value
  | _ => .error .typeError

/-! ## Statistics, windows and averages -/

namespace WelfordState

/-- `WelfordState.serialize`. -/
def serialize (state : WelfordState δ) : Json :=
  .obj [("count", .int state.count), ("mean", writeDecimal state.mean),
    ("m2", writeDecimal state.m2)]

/-- `WelfordState.deserialize`. -/
def deserialize (data : Json) : Except PyError (WelfordState δ) := do
  let count ← readCount (← data.getItem "count")
  let mean ← DecimalText.read (← data.getItem "mean")
  let m2 ← DecimalText.read (← data.getItem "m2")
  pure { count := count, mean := mean, m2 := m2 }

end WelfordState

namespace RollingWindow

/-- `RollingWindow.serialize`. -/
def serialize (window : RollingWindow δ) : Json :=
  .obj [("max_size", .int window.maxSize), ("values", writeDecimals window.values),
    ("running_sum", writeDecimal window.runningSum)]

/-- `RollingWindow.deserialize`; the queue keeps no more than its length. -/
def deserialize (data : Json) : Except PyError (RollingWindow δ) := do
  let maxSize ← readPeriod (← data.getItem "max_size")
  let values ← readDecimals (← data.getItem "values")
  let runningSum ← DecimalText.read (← data.getItem "running_sum")
  pure
    { maxSize := maxSize
      values := values.rtake maxSize
      runningSum := runningSum }

def Bounded (window : RollingWindow δ) : Prop :=
  window.values.length ≤ window.maxSize

end RollingWindow

namespace OnlineEMA

/-- `OnlineEMA.serialize`. -/
def serialize (ema : OnlineEMA δ) : Json :=
  .obj [("period", .int ema.period), ("smoothing", writeDecimal ema.smoothing),
    ("value", writeOptional ema.value), ("initialized", .bool ema.initialized),
    ("warmup_values", writeDecimals ema.warmupValues)]

/-- `OnlineEMA.deserialize`. -/
def deserialize (data : Json) : Except PyError (OnlineEMA δ) := do
  let period ← readPeriod (← data.getItem "period")
  let smoothing ← DecimalText.read (← data.getItem "smoothing")
  let value ← readOptional (← data.getItem "value")
  let initialized ← readFlag (← data.getItem "initialized")
  let warmupValues ← readDecimals (← data.getItem "warmup_values")
  pure
    { period := period
      smoothing := smoothing
      value := value
      initialized := initialized
      warmupValues := warmupValues }

end OnlineEMA

/-! ## Indicators -/

namespace OnlineATR

/-- `OnlineATR.serialize`. -/
def serialize (atr : OnlineATR δ) : Json :=
  .obj [("period", .int atr.period), ("atr", writeOptional atr.atr),
    ("prev_price", writeOptional atr.prevPrice),
    ("warmup_trs", writeDecimals atr.warmupTrs),
    ("initialized", .bool atr.initialized)]

/-- `OnlineATR.deserialize`. -/
def deserialize (data : Json) : Except PyError (OnlineATR δ) := do
  let period ← readPeriod (← data.getItem "period")
  let atr ← readOptional (← data.getItem "atr")
  let prevPrice ← readOptional (← data.getItem "prev_price")
  let warmupTrs ← readDecimals (← data.getItem "warmup_trs")
  let initialized ← readFlag (← data.getItem "initialized")
  pure
    { period := period
      atr := atr
      prevPrice := prevPrice
      warmupTrs := warmupTrs
      initialized := initialized }

end OnlineATR

namespace OnlineBollingerBands

/-- `OnlineBollingerBands.serialize`. -/
def serialize (bollinger : OnlineBollingerBands δ φ) : Json :=
  .obj [("period", .int bollinger.period),
    ("num_std", .float (FloatJson.write bollinger.numStd)),
    ("prices", bollinger.prices.serialize),
    ("current_price", writeTruthy bollinger.currentPrice)]

def readFloat : Json → Except PyError φ
  | .float value => .ok (FloatJson.read value)
  | _ => .error .typeError

/-- `OnlineBollingerBands.deserialize`; the Welford sums are new. -/
def deserialize (data : Json) : Except PyError (OnlineBollingerBands δ φ) := do
  let period ← readPeriod (← data.getItem "period")
  let numStd ← readFloat (← data.getItem "num_std")
  let prices ← RollingWindow.deserialize (← data.getItem "prices")
  let currentPrice ← readTruthy (← data.getItem "current_price")
  pure
    { period := period
      numStd := numStd
      prices := prices
      welford := .fresh
      currentPrice := currentPrice }

end OnlineBollingerBands

namespace OnlineTrendStrength

/-- `OnlineTrendStrength.serialize`. -/
def serialize (trend : OnlineTrendStrength δ) : Json :=
  .obj [("period", .int trend.period), ("plus_dm_ema", trend.plusDmEma.serialize),
    ("minus_dm_ema", trend.minusDmEma.serialize), ("tr_ema", trend.trEma.serialize),
    ("adx_ema", trend.adxEma.serialize), ("prev_price", writeTruthy trend.prevPrice),
    ("prev_high", writeTruthy trend.prevHigh), ("prev_low", writeTruthy trend.prevLow)]

/-- `OnlineTrendStrength.deserialize`. -/
def deserialize (data : Json) : Except PyError (OnlineTrendStrength δ) := do
  let period ← readPeriod (← data.getItem "period")
  let plusDmEma ← OnlineEMA.deserialize (← data.getItem "plus_dm_ema")
  let minusDmEma ← OnlineEMA.deserialize (← data.getItem "minus_dm_ema")
  let trEma ← OnlineEMA.deserialize (← data.getItem "tr_ema")
  let adxEma ← OnlineEMA.deserialize (← data.getItem "adx_ema")
  let prevPrice ← readTruthy (← data.getItem "prev_price")
  let prevHigh ← readTruthy (← data.getItem "prev_high")
  let prevLow ← readTruthy (← data.getItem "prev_low")
  pure
    { period := period
      plusDmEma := plusDmEma
      minusDmEma := minusDmEma
      trEma := trEma
      adxEma := adxEma
      prevPrice := prevPrice
      prevHigh := prevHigh
      prevLow := prevLow }

end OnlineTrendStrength

def readEntries {ν : Type} (read : Json → Except PyError ν) (start : Dict String ν) :
    Json → Except PyError (Dict String ν)
  | .obj fields => fields.foldlM
      (fun (dict : Dict String ν) (field : String × Json) =>
        (read field.2).map fun value => dict.set field.1 value) start
  | _ => .error .attributeError

namespace RegimeTransitionMatrix

/-- `RegimeTransitionMatrix.serialize`. -/
def serialize (matrix : RegimeTransitionMatrix) : Json :=
  .obj
    [("transitions", .ofDict (.ofDict fun count : ℕ => .int count) matrix.transitions),
      ("last_regime", match matrix.lastRegime with
        | none => .null
        | some regime => .str regime),
      ("total_transitions", .int matrix.totalTransitions)]

def readRegime : Json → Except PyError (Option String)
  | .null => .ok none
  | .str regime => .ok (some regime)
  | _ => .error .typeError

/-- `RegimeTransitionMatrix.deserialize`. -/
def deserialize (data : Json) : Except PyError RegimeTransitionMatrix := do
  let transitions ← readEntries (readEntries readCount .empty) .empty
    (← data.getD "transitions" (.obj []))
  let lastRegime ← readRegime (← data.getD "last_regime" .null)
  let totalTransitions ← readCount (← data.getD "total_transitions" (.int 0))
  pure
    { transitions := transitions
      lastRegime := lastRegime
      totalTransitions := totalTransitions }

end RegimeTransitionMatrix

/-! ## The state of a symbol -/

/-- `RegimeType[name]`. -/
def RegimeType.ofName (name : String) : Except PyError RegimeType :=
  match [.bullQuiet, .bullVolatile, .bearQuiet, .bearVolatile, .sidewaysQuiet,
      .sidewaysVolatile, .crisis, .unknown].find? fun regime =>
        decide (RegimeType.name regime = name) with
  | some regime => .ok regime
  | none => .error .keyError

/-- `RegimeType[data]`. -/
def readRegimeType : Json → Except PyError RegimeType
  | .str name => RegimeType.ofName name
  | _ => .error .keyError

/-- `RegimeType[data] if data else None`. -/
def readPendingRegime (data : Json) : Except PyError (Option RegimeType) :=
  if data.truthy then (readRegimeType data).map some else .ok none

def readKey {α : Type} (data : Json) (key : String) (default : α)
    (read : Json → Except PyError α) : Except PyError α :=
  match data.field? key with
  | none => .ok default
  | some value => read value

namespace SymbolState

/-- `_SymbolRegimeState.serialize`. -/
def serialize (state : SymbolState δ φ) : Json :=
  .obj [("short_ema", state.shortEma.serialize), ("long_ema", state.longEma.serialize),
    ("ema_slope_window", state.emaSlopeWindow.serialize),
    ("returns_welford", state.returnsWelford.serialize),
    ("volatility_history", state.volatilityHistory.serialize),
    ("price_window", state.priceWindow.serialize), ("atr", state.atr.serialize),
    ("bollinger", state.bollinger.serialize),
    ("trend_strength", state.trendStrength.serialize),
    ("atr_history", state.atrHistory.serialize),
    ("prev_price", writeTruthy state.prevPrice),
    ("peak_price", writeTruthy state.peakPrice), ("tick_count", .int state.tickCount),
    ("current_regime", .str state.currentRegime.name),
    ("regime_ticks", .int state.regimeTicks),
    ("pending_regime", match state.pendingRegime with
      | none => .null
      | some regime => .str regime.name),
    ("pending_ticks", .int state.pendingTicks)]

/-- `_SymbolRegimeState.deserialize`. -/
def deserialize (data : Json) (config : RegimeConfig φ) :
    Except PyError (SymbolState δ φ) := do
  let state : SymbolState δ φ := .fresh config
  let shortEma ← OnlineEMA.deserialize (← data.getItem "short_ema")
  let longEma ← OnlineEMA.deserialize (← data.getItem "long_ema")
  let emaSlopeWindow ← RollingWindow.deserialize (← data.getItem "ema_slope_window")
  let returnsWelford ← WelfordState.deserialize (← data.getItem "returns_welford")
  let volatilityHistory ←
    RollingWindow.deserialize (← data.getItem "volatility_history")
  let priceWindow ← RollingWindow.deserialize (← data.getItem "price_window")
  let atr ← readKey data "atr" state.atr OnlineATR.deserialize
  let bollinger ← readKey data "bollinger" state.bollinger
    OnlineBollingerBands.deserialize
  let trendStrength ← readKey data "trend_strength" state.trendStrength
    OnlineTrendStrength.deserialize
  let atrHistory ← readKey data "atr_history" state.atrHistory
    RollingWindow.deserialize
  let prevPrice ← readTruthy (← data.getItem "prev_price")
  let peakPrice ← readTruthy (← data.getItem "peak_price")
  let tickCount ← readCount (← data.getItem "tick_count")
  let currentRegime ← readRegimeType (← data.getItem "current_regime")
  let regimeTicks ← readCount (← data.getItem "regime_ticks")
  let pendingRegime ← readPendingRegime (← data.getItem "pending_regime")
  let pendingTicks ← readCount (← data.getItem "pending_ticks")
  pure
    { config := config
      shortEma := shortEma
      longEma := longEma
      emaSlopeWindow := emaSlopeWindow
      returnsWelford := returnsWelford
      volatilityHistory := volatilityHistory
      priceWindow := priceWindow
      atr := atr
      bollinger := bollinger
      trendStrength := trendStrength
      atrHistory := atrHistory
      prevPrice := prevPrice
      peakPrice := peakPrice
      tickCount := tickCount
      currentRegime := currentRegime
      regimeTicks := regimeTicks
      pendingRegime := pendingRegime
      pendingTicks := pendingTicks }

end SymbolState

/-! ## The detector -/

/-- `RegimeConfig.to_dict`. -/
def RegimeConfig.toDict (config : RegimeConfig φ) : Json :=
  .obj [("short_ema_period", .int config.shortEmaPeriod),
    ("long_ema_period", .int config.longEmaPeriod),
    ("atr_period", .int config.atrPeriod),
    ("volatility_lookback", .int config.volatilityLookback),
    ("momentum_period", .int config.momentumPeriod),
    ("trend_threshold", .float (FloatJson.write config.trendThreshold)),
    ("volatility_high_percentile",
      .float (FloatJson.write config.volatilityHighPercentile)),
    ("volatility_low_percentile",
      .float (FloatJson.write config.volatilityLowPercentile)),
    ("crisis_volatility_multiplier",
      .float (FloatJson.write config.crisisVolatilityMultiplier)),
    ("crisis_drawdown_threshold",
      .float (FloatJson.write config.crisisDrawdownThreshold)),
    ("min_regime_ticks", .int config.minRegimeTicks),
    ("transition_smoothing", .float (FloatJson.write config.transitionSmoothing)),
    ("crisis_position_multiplier",
      .float (FloatJson.write config.crisisPositionMultiplier))]

namespace Detector

def serializeState (detector : Detector δ φ) : Json :=
  .obj [("config", detector.config.toDict),
    ("symbols", .ofDict SymbolState.serialize detector.symbolStates),
    ("transition_matrices",
      .ofDict RegimeTransitionMatrix.serialize detector.transitionMatrices)]

def deserializeState (detector : Detector δ φ) (data : Json) :
    Except PyError (Detector δ φ) := do
  let symbolStates ← readEntries
    (fun value => SymbolState.deserialize value detector.config) detector.symbolStates
    (← data.getD "symbols" (.obj []))
  let transitionMatrices ← readEntries RegimeTransitionMatrix.deserialize
    detector.transitionMatrices (← data.getD "transition_matrices" (.obj []))
  pure { detector with
    symbolStates := symbolStates, transitionMatrices := transitionMatrices }

def restored (codec : JsonCodec) (detector : Detector δ φ) :
    Except PyError (Detector δ φ) := do
  let data ← codec.loads (codec.dumps detector.serializeState)
  (fresh detector.config).deserializeState data

end Detector

/-! ## Written values are read back -/

omit [DecimalOps δ] in
@[simp] theorem read_writeDecimal (value : δ) :
    DecimalText.read (writeDecimal value) = .ok value :=
  DecimalText.read_text value

omit [DecimalOps δ] in
@[simp] theorem readOptional_writeOptional (value : Option δ) :
    readOptional (writeOptional value) = .ok value := by
  cases value with
  | none => rfl
  | some value =>
      change (DecimalText.read (writeDecimal value)).map some = _
      rw [read_writeDecimal]
      rfl

def Written (value : Option δ) : Prop :=
  ∀ written ∈ value, DecimalOps.truthy written = true

theorem readTruthy_writeTruthy {value : Option δ} (written : Written value) :
    readTruthy (writeTruthy value) = .ok value := by
  cases value with
  | none => rfl
  | some value =>
      have shown : writeTruthy (some value) = writeDecimal value :=
        if_pos (written value rfl)
      have truthy : (writeDecimal value).truthy = true :=
        decide_eq_true (DecimalText.text_nonempty value)
      unfold readTruthy
      rw [shown, truthy, if_pos rfl, read_writeDecimal]
      rfl

omit [DecimalOps δ] in
@[simp] theorem readDecimals_writeDecimals (values : List δ) :
    readDecimals (writeDecimals values) = .ok values := by
  have trips : RoundTrips (fun _ : δ => True) writeDecimal DecimalText.read :=
    fun value _ => read_writeDecimal value
  exact trips.list values fun _ _ => trivial

@[simp] theorem readCount_int (count : ℕ) : readCount (.int count) = .ok count := by
  simp [readCount]

@[simp] theorem readPeriod_int (period : ℕ+) :
    readPeriod (.int ((period : ℕ) : ℤ)) = .ok period := by
  unfold readPeriod
  rw [readCount_int]
  exact dif_pos period.pos

@[simp] theorem readFlag_bool (value : Bool) : readFlag (.bool value) = .ok value :=
  rfl

theorem readEntries_ofDict {ν : Type} {good : ν → Prop} {write : ν → Json}
    {read : Json → Except PyError ν} (trips : RoundTrips good write read)
    (dict : Dict String ν) (each : ∀ entry ∈ dict.entries, good entry.2) :
    readEntries read .empty (.ofDict write dict) = .ok dict := by
  refine (Dict.foldlM_set trips .empty dict.entries each).trans ?_
  exact congrArg Except.ok dict.ofList_entries

theorem getItem_obj (fields : List (String × Json)) (key : String) :
    (Json.obj fields).getItem key =
      match (fields.find? fun entry => decide (entry.1 = key)).map Prod.snd with
      | some value => .ok value
      | none => .error .keyError :=
  rfl

omit [DecimalOps δ] in
theorem WelfordState.deserialize_serialize (state : WelfordState δ) :
    deserialize state.serialize = .ok state := by
  simp [deserialize, serialize, getItem_obj, bind, Except.bind, pure,
    Except.pure]

omit [DecimalOps δ] in
theorem RollingWindow.deserialize_serialize {window : RollingWindow δ}
    (bounded : window.Bounded) : deserialize window.serialize = .ok window := by
  have kept : window.values.rtake window.maxSize = window.values := by
    unfold List.rtake
    rw [Nat.sub_eq_zero_of_le bounded, List.drop_zero]
  simp [deserialize, serialize, getItem_obj, bind, Except.bind, pure,
    Except.pure, kept]

omit [DecimalOps δ] in
theorem OnlineEMA.deserialize_serialize (ema : OnlineEMA δ) :
    deserialize ema.serialize = .ok ema := by
  simp [deserialize, serialize, getItem_obj, bind, Except.bind, pure,
    Except.pure]

omit [DecimalOps δ] in
theorem OnlineATR.deserialize_serialize (atr : OnlineATR δ) :
    deserialize atr.serialize = .ok atr := by
  simp [deserialize, serialize, getItem_obj, bind, Except.bind, pure,
    Except.pure]

/-- The bands that are restored as they are: their Welford sums were never used. -/
structure OnlineBollingerBands.Savable (bollinger : OnlineBollingerBands δ φ) :
    Prop where
  prices : bollinger.prices.Bounded
  welford : bollinger.welford = .fresh
  currentPrice : Written bollinger.currentPrice

omit [FloatOps φ] [NumberConversions δ φ] in
theorem OnlineBollingerBands.deserialize_serialize
    {bollinger : OnlineBollingerBands δ φ} (savable : bollinger.Savable) :
    deserialize bollinger.serialize = .ok bollinger := by
  have prices := RollingWindow.deserialize_serialize savable.prices
  have currentPrice := readTruthy_writeTruthy savable.currentPrice
  have welford := savable.welford
  obtain ⟨period, numStd, window, sums, current⟩ := bollinger
  dsimp only at prices currentPrice welford
  subst welford
  simp [deserialize, serialize, getItem_obj, bind, Except.bind, pure, Except.pure,
    readFloat, FloatJson.read_write, prices, currentPrice]

/-- The trend strength that is restored as it is. -/
structure OnlineTrendStrength.Savable (trend : OnlineTrendStrength δ) : Prop where
  prevPrice : Written trend.prevPrice
  prevHigh : Written trend.prevHigh
  prevLow : Written trend.prevLow

theorem OnlineTrendStrength.deserialize_serialize {trend : OnlineTrendStrength δ}
    (savable : trend.Savable) : deserialize trend.serialize = .ok trend := by
  simp [deserialize, serialize, getItem_obj, bind, Except.bind, pure, Except.pure,
    OnlineEMA.deserialize_serialize, readTruthy_writeTruthy savable.prevPrice,
    readTruthy_writeTruthy savable.prevHigh, readTruthy_writeTruthy savable.prevLow]

theorem RegimeTransitionMatrix.deserialize_serialize (matrix : RegimeTransitionMatrix) :
    deserialize matrix.serialize = .ok matrix := by
  have counts : RoundTrips (fun _ : ℕ => True) (fun count : ℕ => Json.int count)
      readCount :=
    fun count _ => readCount_int count
  have rows : RoundTrips (fun _ : Dict String ℕ => True)
      (Json.ofDict fun count : ℕ => .int count) (readEntries readCount .empty) :=
    fun row _ => readEntries_ofDict counts row fun _ _ => trivial
  have transitions := readEntries_ofDict rows matrix.transitions fun _ _ => trivial
  have lastRegime : readRegime (match matrix.lastRegime with
      | none => .null
      | some regime => .str regime) = .ok matrix.lastRegime := by
    cases matrix.lastRegime with
    | none => rfl
    | some regime => rfl
  simp [deserialize, serialize, Json.getD, Json.field?, bind, Except.bind, pure,
    Except.pure, transitions, lastRegime]

theorem RegimeType.ofName_name (regime : RegimeType) :
    RegimeType.ofName regime.name = .ok regime := by
  cases regime with
  | bullQuiet => rfl
  | bullVolatile => rfl
  | bearQuiet => rfl
  | bearVolatile => rfl
  | sidewaysQuiet => rfl
  | sidewaysVolatile => rfl
  | crisis => rfl
  | unknown => rfl

theorem readPendingRegime_write (pending : Option RegimeType) :
    readPendingRegime (match pending with
      | none => .null
      | some regime => .str regime.name) = .ok pending := by
  cases pending with
  | none => rfl
  | some regime =>
      have truthy : (Json.str regime.name).truthy = true := by
        cases regime with
        | bullQuiet => rfl
        | bullVolatile => rfl
        | bearQuiet => rfl
        | bearVolatile => rfl
        | sidewaysQuiet => rfl
        | sidewaysVolatile => rfl
        | crisis => rfl
        | unknown => rfl
      unfold readPendingRegime
      dsimp only
      rw [truthy, if_pos rfl]
      change (RegimeType.ofName regime.name).map some = _
      rw [RegimeType.ofName_name]
      rfl

/-- The state of a symbol that is restored as it is. -/
structure SymbolState.Savable (config : RegimeConfig φ) (state : SymbolState δ φ) :
    Prop where
  config : state.config = config
  emaSlopeWindow : state.emaSlopeWindow.Bounded
  volatilityHistory : state.volatilityHistory.Bounded
  priceWindow : state.priceWindow.Bounded
  atrHistory : state.atrHistory.Bounded
  bollinger : state.bollinger.Savable
  trendStrength : state.trendStrength.Savable
  prevPrice : Written state.prevPrice
  peakPrice : Written state.peakPrice

omit [NumberConversions δ φ] in
theorem SymbolState.deserialize_serialize {config : RegimeConfig φ}
    {state : SymbolState δ φ} (savable : state.Savable config) :
    deserialize state.serialize config = .ok state := by
  have currentRegime : readRegimeType (.str state.currentRegime.name) =
      .ok state.currentRegime :=
    RegimeType.ofName_name state.currentRegime
  simp [deserialize, serialize, getItem_obj, readKey, Json.field?, bind, Except.bind,
    pure, Except.pure, OnlineEMA.deserialize_serialize,
    RollingWindow.deserialize_serialize savable.emaSlopeWindow,
    RollingWindow.deserialize_serialize savable.volatilityHistory,
    RollingWindow.deserialize_serialize savable.priceWindow,
    RollingWindow.deserialize_serialize savable.atrHistory,
    WelfordState.deserialize_serialize, OnlineATR.deserialize_serialize,
    OnlineBollingerBands.deserialize_serialize savable.bollinger,
    OnlineTrendStrength.deserialize_serialize savable.trendStrength,
    readTruthy_writeTruthy savable.prevPrice, readTruthy_writeTruthy savable.peakPrice,
    currentRegime, readPendingRegime_write, ← savable.config]

/-! ## Written objects have distinct keys -/

omit [DecimalOps δ] in
@[simp] theorem distinctKeys_writeDecimal (value : δ) :
    (writeDecimal value).DistinctKeys :=
  Json.distinctKeys_str _

omit [DecimalOps δ] in
@[simp] theorem distinctKeys_writeOptional (value : Option δ) :
    (writeOptional value).DistinctKeys := by
  cases value with
  | none => exact Json.distinctKeys_null
  | some value => exact distinctKeys_writeDecimal value

@[simp] theorem distinctKeys_writeTruthy (value : Option δ) :
    (writeTruthy value).DistinctKeys := by
  cases value with
  | none => exact Json.distinctKeys_null
  | some value =>
      by_cases truthy : DecimalOps.truthy value = true
      · rw [show writeTruthy (some value) = writeDecimal value from if_pos truthy]
        exact distinctKeys_writeDecimal value
      · rw [show writeTruthy (some value) = .null from if_neg truthy]
        exact Json.distinctKeys_null

omit [DecimalOps δ] in
@[simp] theorem distinctKeys_writeDecimals (values : List δ) :
    (writeDecimals values).DistinctKeys :=
  Json.distinctKeys_arr fun value _ => distinctKeys_writeDecimal value

omit [DecimalOps δ] in
@[simp] theorem WelfordState.distinctKeys_serialize (state : WelfordState δ) :
    state.serialize.DistinctKeys := by
  simp [serialize, Json.DistinctKeys, Json.DistinctFields]

omit [DecimalOps δ] in
@[simp] theorem RollingWindow.distinctKeys_serialize (window : RollingWindow δ) :
    window.serialize.DistinctKeys := by
  simp [serialize, Json.DistinctKeys, Json.DistinctFields]

omit [DecimalOps δ] in
@[simp] theorem OnlineEMA.distinctKeys_serialize (ema : OnlineEMA δ) :
    ema.serialize.DistinctKeys := by
  simp [serialize, Json.DistinctKeys, Json.DistinctFields]

omit [DecimalOps δ] in
@[simp] theorem OnlineATR.distinctKeys_serialize (atr : OnlineATR δ) :
    atr.serialize.DistinctKeys := by
  simp [serialize, Json.DistinctKeys, Json.DistinctFields]

omit [FloatOps φ] [NumberConversions δ φ] in
@[simp] theorem OnlineBollingerBands.distinctKeys_serialize
    (bollinger : OnlineBollingerBands δ φ) : bollinger.serialize.DistinctKeys := by
  simp [serialize, Json.DistinctKeys, Json.DistinctFields]

@[simp] theorem OnlineTrendStrength.distinctKeys_serialize
    (trend : OnlineTrendStrength δ) : trend.serialize.DistinctKeys := by
  simp [serialize, Json.DistinctKeys, Json.DistinctFields]

theorem distinctKeys_name (name : Option String) :
    (match name with
      | none => Json.null
      | some name => .str name).DistinctKeys := by
  cases name with
  | none => exact Json.distinctKeys_null
  | some name => exact Json.distinctKeys_str name

@[simp] theorem RegimeTransitionMatrix.distinctKeys_serialize
    (matrix : RegimeTransitionMatrix) : matrix.serialize.DistinctKeys := by
  have rows : (Json.ofDict (.ofDict fun count : ℕ => .int count)
      matrix.transitions).DistinctKeys :=
    Json.distinctKeys_ofDict fun _ _ =>
      Json.distinctKeys_ofDict fun entry _ => Json.distinctKeys_int entry.2
  simp [serialize, Json.DistinctKeys, Json.DistinctFields, rows, distinctKeys_name]

omit [FloatOps φ] [NumberConversions δ φ] in
@[simp] theorem SymbolState.distinctKeys_serialize (state : SymbolState δ φ) :
    state.serialize.DistinctKeys := by
  have pending := distinctKeys_name (state.pendingRegime.map RegimeType.name)
  have same : (match state.pendingRegime.map RegimeType.name with
      | none => Json.null
      | some name => .str name) =
        (match state.pendingRegime with
          | none => Json.null
          | some regime => .str regime.name) := by
    cases state.pendingRegime with
    | none => rfl
    | some regime => rfl
  rw [same] at pending
  simp [serialize, Json.DistinctKeys, Json.DistinctFields, pending]

omit [FloatOps φ] [NumberConversions δ φ] in
theorem Detector.distinctKeys_serializeState (detector : Detector δ φ) :
    detector.serializeState.DistinctKeys := by
  have config : detector.config.toDict.DistinctKeys := by
    simp [RegimeConfig.toDict, Json.DistinctKeys, Json.DistinctFields]
  have symbols : (Json.ofDict SymbolState.serialize
      detector.symbolStates).DistinctKeys :=
    Json.distinctKeys_ofDict fun entry _ => entry.2.distinctKeys_serialize
  have matrices : (Json.ofDict RegimeTransitionMatrix.serialize
      detector.transitionMatrices).DistinctKeys :=
    Json.distinctKeys_ofDict fun entry _ => entry.2.distinctKeys_serialize
  simp [serializeState, Json.DistinctKeys, Json.DistinctFields, config, symbols,
    matrices]

/-! ## A detector is restored as it was -/

def Detector.Savable (detector : Detector δ φ) : Prop :=
  ∀ symbol state, detector.symbolStates.get? symbol = some state →
    state.Savable detector.config

omit [NumberConversions δ φ] in
theorem Detector.restored_eq (codec : JsonCodec) {detector : Detector δ φ}
    (savable : detector.Savable) : detector.restored codec = .ok detector := by
  have loaded := codec.loads_dumps detector.serializeState
    detector.distinctKeys_serializeState
  have states : RoundTrips (SymbolState.Savable detector.config)
      (SymbolState.serialize : SymbolState δ φ → Json)
      (fun value => SymbolState.deserialize value detector.config) :=
    fun state savable => SymbolState.deserialize_serialize savable
  have matrices : RoundTrips (fun _ => True) RegimeTransitionMatrix.serialize
      RegimeTransitionMatrix.deserialize :=
    fun matrix _ => matrix.deserialize_serialize
  have symbolStates := readEntries_ofDict states detector.symbolStates
    fun entry member => savable entry.1 entry.2 (Dict.get?_eq_some_iff.mpr member)
  have transitionMatrices := readEntries_ofDict matrices detector.transitionMatrices
    fun _ _ => trivial
  unfold Detector.restored
  rw [loaded]
  simp [serializeState, deserializeState, Detector.fresh, Json.getD, Json.field?, bind,
    Except.bind, pure, Except.pure, symbolStates, transitionMatrices]

end Regime

end GptTrader
