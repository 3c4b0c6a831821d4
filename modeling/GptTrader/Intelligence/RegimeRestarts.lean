import GptTrader.Intelligence.RegimeReads
import GptTrader.Intelligence.RegimeSnapshots
import GptTrader.Python.TableCodecs

/-!
# Restarts of the regime detector

Some values are saved only if they are truthy, queues are cut to their lengths and the
Welford sums of the bands are not saved.  Along runs at positive prices every stored
state has truthy prices, bounded queues and unused sums, so that the detector is restored
as it was and reports what it would have reported.
-/

namespace GptTrader

namespace Regime

variable {δ φ : Type} [DecimalOps δ] [FloatOps φ] [NumberConversions δ φ]

/-! ## Indicators stay savable -/

theorem RollingWindow.fresh_bounded (maxSize : ℕ+) :
    (fresh maxSize : RollingWindow δ).Bounded :=
  Nat.zero_le _

theorem RollingWindow.add_bounded {window : RollingWindow δ} (bounded : window.Bounded)
    (value : δ) : (window.add value).Bounded := by
  have positive := window.maxSize.pos
  unfold Bounded at bounded
  unfold add
  split
  next oldest rest listed =>
    rw [listed, List.length_cons] at bounded
    split
    · change (rest ++ [value]).length ≤ _
      rw [List.length_append, List.length_singleton]
      exact bounded
    next notFull =>
      rw [listed, List.length_cons] at notFull
      change (window.values ++ [value]).length ≤ _
      rw [listed, List.length_append, List.length_cons, List.length_singleton]
      exact Nat.succ_le_of_lt (lt_of_le_of_ne bounded notFull)
  · exact positive

theorem SymbolState.addSome_bounded {window : RollingWindow δ}
    (bounded : window.Bounded) (value : Option δ) :
    (SymbolState.addSome window value).Bounded := by
  cases value with
  | none => exact bounded
  | some value => exact RollingWindow.add_bounded bounded value

theorem written_none : Written (none : Option δ) := by
  intro written found
  cases found

theorem written_some {value : δ} (truthy : DecimalOps.truthy value = true) :
    Written (some value) := by
  intro written found
  cases found
  exact truthy

omit [NumberConversions δ φ] in
theorem OnlineBollingerBands.fresh_savable (period : ℕ+) :
    (fresh period : OnlineBollingerBands δ φ).Savable where
  prices := RollingWindow.fresh_bounded period
  welford := rfl
  currentPrice := written_none

theorem OnlineBollingerBands.update_savable {bollinger : OnlineBollingerBands δ φ}
    (savable : bollinger.Savable) {price : δ}
    (truthy : DecimalOps.truthy price = true) : (bollinger.update price).1.Savable := by
  have entered : ({ bollinger with
      currentPrice := some price
      prices := bollinger.prices.add price } : OnlineBollingerBands δ φ).Savable :=
    { prices := RollingWindow.add_bounded savable.prices price
      welford := savable.welford
      currentPrice := written_some truthy }
  unfold update
  dsimp only
  split
  · exact entered
  · exact entered

theorem OnlineBollingerBands.getSqueezeScore_savable
    {bollinger : OnlineBollingerBands δ φ} (savable : bollinger.Savable) :
    bollinger.getSqueezeScore.1.Savable := by
  unfold getSqueezeScore
  split
  · exact savable
  · split
    next truthy => exact update_savable savable truthy
    · exact savable

theorem OnlineTrendStrength.fresh_savable (period : ℕ+) :
    (fresh period : OnlineTrendStrength δ).Savable where
  prevPrice := written_none
  prevHigh := written_none
  prevLow := written_none

theorem OnlineTrendStrength.update_prices (trend : OnlineTrendStrength δ) (price : δ) :
    (trend.update φ price).1.prevPrice = some price ∧
      (trend.update φ price).1.prevHigh = some price ∧
      (trend.update φ price).1.prevLow = some price := by
  unfold update
  split
  · exact ⟨rfl, rfl, rfl⟩
  · dsimp only
    split
    · split
      · exact ⟨rfl, rfl, rfl⟩
      · exact ⟨rfl, rfl, rfl⟩
    · exact ⟨rfl, rfl, rfl⟩

theorem OnlineTrendStrength.update_savable (trend : OnlineTrendStrength δ) {price : δ}
    (truthy : DecimalOps.truthy price = true) : (trend.update φ price).1.Savable := by
  obtain ⟨prevPrice, prevHigh, prevLow⟩ := update_prices (φ := φ) trend price
  refine ⟨?_, ?_, ?_⟩
  · rw [prevPrice]
    exact written_some truthy
  · rw [prevHigh]
    exact written_some truthy
  · rw [prevLow]
    exact written_some truthy

/-! ## The states of symbols stay savable -/

/-- A state that is restored as it is and has seen a price. -/
structure SymbolState.Priced (config : RegimeConfig φ) (state : SymbolState δ φ) :
    Prop where
  savable : state.Savable config
  seen : ∃ price, state.prevPrice = some price

omit [NumberConversions δ φ] in
theorem SymbolState.fresh_savable (config : RegimeConfig φ) :
    (fresh config : SymbolState δ φ).Savable config where
  config := rfl
  emaSlopeWindow := RollingWindow.fresh_bounded 5
  volatilityHistory := RollingWindow.fresh_bounded config.volatilityLookback
  priceWindow := RollingWindow.fresh_bounded config.momentumPeriod
  atrHistory := RollingWindow.fresh_bounded config.volatilityLookback
  bollinger := OnlineBollingerBands.fresh_savable config.shortEmaPeriod
  trendStrength := OnlineTrendStrength.fresh_savable config.atrPeriod
  prevPrice := written_none
  peakPrice := written_none

section

variable {config : RegimeConfig φ} {state : SymbolState δ φ}

include config state

theorem SymbolState.update_priced (savable : state.Savable config) {price : δ}
    (truthy : DecimalOps.truthy price = true) : (state.update price).Priced config where
  savable :=
    { config := savable.config
      emaSlopeWindow := addSome_bounded savable.emaSlopeWindow _
      volatilityHistory := addSome_bounded savable.volatilityHistory _
      priceWindow := RollingWindow.add_bounded savable.priceWindow price
      atrHistory := addSome_bounded savable.atrHistory _
      bollinger := OnlineBollingerBands.update_savable savable.bollinger truthy
      trendStrength := OnlineTrendStrength.update_savable _ truthy
      prevPrice := written_some truthy
      peakPrice := by
        have before := savable.peakPrice
        unfold update
        dsimp only
        split
        · exact written_some truthy
        next peak found =>
          split
          · exact written_some truthy
          · rw [found] at before
            exact before }
  seen := ⟨price, rfl⟩

theorem SymbolState.getAdx_priced (priced : state.Priced config) : state.getAdx.1.Priced config := by
  obtain ⟨price, seen⟩ := priced.seen
  have truthy : DecimalOps.truthy price = true :=
    priced.savable.prevPrice price seen
  have read : OnlineTrendStrength.orDecimal state.prevPrice (dec 0) = price := by
    rw [seen]
    exact if_pos truthy
  unfold getAdx
  split
  · exact priced
  · rw [read]
    exact
      { savable :=
          { priced.savable with
            trendStrength := OnlineTrendStrength.update_savable _ truthy }
        seen := ⟨price, seen⟩ }

theorem SymbolState.getSqueezeScore_priced (priced : state.Priced config) :
    state.getSqueezeScore.1.Priced config := by
  unfold getSqueezeScore
  split
  · exact priced
  · exact
      { savable :=
          { priced.savable with
            bollinger :=
              OnlineBollingerBands.getSqueezeScore_savable priced.savable.bollinger }
        seen := priced.seen }

theorem classifyRegime_priced (priced : state.Priced config)
    (matrix : Option RegimeTransitionMatrix) :
    (classifyRegime state matrix).1.Priced config := by
  have read : (readScores state).1.Priced config :=
    SymbolState.getSqueezeScore_priced (SymbolState.getAdx_priced priced)
  obtain ⟨_, _, _, _, persisted⟩ := applyPersistence_state (readScores state).1
    (newRegimeOf (readScores state).1 (readScores state).2).1
  change (applyPersistence (readScores state).1
    (newRegimeOf (readScores state).1 (readScores state).2).1).1.Priced config
  rw [persisted]
  exact { savable := { read.savable with }, seen := read.seen }

theorem SymbolState.updated_priced (savable : state.Savable config)
    (matrix : RegimeTransitionMatrix) {price : δ}
    (truthy : DecimalOps.truthy price = true) :
    (state.updated matrix price).Priced config := by
  have entered := update_priced savable truthy
  unfold updated
  dsimp only
  split
  · exact classifyRegime_priced entered (some matrix)
  · exact entered

theorem SymbolState.asked_priced (priced : state.Priced config)
    (question : RegimeQuestion) :
    (state.asked question).Priced config := by
  have values : ∀ {other : SymbolState δ φ}, other.Priced config →
      other.getAdx.1.getSqueezeScore.1.Priced config :=
    fun priced => getSqueezeScore_priced (getAdx_priced priced)
  have regime : (state.asked .regime).Priced config := by
    unfold asked
    dsimp only
    split
    · exact classifyRegime_priced priced none
    · exact priced
  cases question with
  | regime => exact regime
  | indicators => exact values priced
  | adx => exact getAdx_priced priced
  | squeeze => exact getSqueezeScore_priced priced
  | size enableVolatilityScaling =>
      cases enableVolatilityScaling with
      | false => exact values regime
      | true => exact values (values regime)

end

/-! ## The detector stays savable -/

namespace Detector

/-- The detector has a configuration, and its states are those of symbols that have
seen a price. -/
structure Priced (config : RegimeConfig φ) (detector : Detector δ φ) : Prop where
  configured : detector.config = config
  states : ∀ symbol state, detector.symbolStates.get? symbol = some state →
    state.Priced config

omit [FloatOps φ] [NumberConversions δ φ] in
theorem Priced.savable {config : RegimeConfig φ} {detector : Detector δ φ}
    (priced : detector.Priced config) : detector.Savable := by
  intro symbol state found
  rw [priced.configured]
  exact (priced.states symbol state found).savable

omit [FloatOps φ] [NumberConversions δ φ] in
theorem fresh_priced (config : RegimeConfig φ) :
    (fresh config : Detector δ φ).Priced config where
  configured := rfl
  states := fun _ _ found => nomatch found

/-- Every price written is above zero. -/
def Positive : DetectorStep δ → Prop
  | .write (_, price) => dec 0 < price
  | .read _ => True

theorem update_priced {config : RegimeConfig φ} {detector : Detector δ φ}
    (priced : detector.Priced config) (symbol : String) {price : δ}
    (positive : dec 0 < price) : (detector.update symbol price).1.Priced config := by
  have truthy := DecimalOps.truthy_of_pos price positive
  have before : (detector.stateOf symbol).Savable config := by
    rw [stateOf_eq]
    cases found : detector.symbolStates.get? symbol with
    | none =>
        rw [priced.configured]
        exact SymbolState.fresh_savable config
    | some state => exact (priced.states symbol state found).savable
  obtain ⟨same, ⟨matrix, own, _⟩, others⟩ := detector.update_updated symbol price
  refine ⟨same.trans priced.configured, ?_⟩
  intro other state found
  by_cases updated : other = symbol
  · subst updated
    rw [own] at found
    cases found
    exact SymbolState.updated_priced before matrix truthy
  · rw [others other updated] at found
    exact priced.states other state found

theorem read_priced {config : RegimeConfig φ} {detector : Detector δ φ}
    (priced : detector.Priced config) (symbol : String) (question : RegimeQuestion) :
    (detector.read symbol question).Priced config := by
  obtain ⟨same, own, others⟩ := detector.read_moved symbol question
  refine ⟨same.trans priced.configured, ?_⟩
  intro other state found
  by_cases asked : other = symbol
  · subst asked
    rw [own] at found
    obtain ⟨before, stored, rfl⟩ := Option.map_eq_some_iff.mp found
    exact SymbolState.asked_priced (priced.states other before stored) question
  · rw [others other asked] at found
    exact priced.states other state found

theorem run_priced (config : RegimeConfig φ) (steps : List (DetectorStep δ))
    (positive : ∀ taken ∈ steps, Positive taken) :
    (machine.run (fresh config : Detector δ φ) steps).Priced config := by
  have met : machine.Along (fun (_ : Detector δ φ) taken => Positive taken)
      (fresh config) steps :=
    ReadWrite.along_of_forall _ fun taken member _ => positive taken member
  refine @ReadWrite.run_keeps _ _ _ _ machine _ (fun _ detector => detector.Priced config)
    _ (fresh_priced config) ?_ steps met
  intro _ detector taken priced entered
  cases taken with
  | write update => exact update_priced priced update.1 entered
  | read question => exact read_priced priced question.1 question.2

/-- After steps at positive prices the restored detector answers every later step as the
detector that was never stopped. -/
theorem restart_leaves_no_trace [DecimalText δ] [FloatJson φ] (codec : JsonCodec)
    (config : RegimeConfig φ) (before later : List (DetectorStep δ))
    (positive : ∀ symbol price, .write (symbol, price) ∈ before → dec 0 < price) :
    ∃ restarted,
      (machine.run (fresh config) before).restored codec = .ok restarted ∧
        machine.answers (fresh config) (before ++ later) =
          machine.answers (fresh config) before ++
            machine.answers restarted later := by
  have entered : ∀ taken ∈ before, Positive taken := by
    intro taken member
    cases taken with
    | write update => exact positive update.1 update.2 member
    | read question => trivial
  have priced := run_priced config before entered
  exact ⟨_, restored_eq codec priced.savable, ReadWrite.answers_append _ before later⟩

end Detector

/-! ## A restart before a regime is confirmed -/

section Example

open ExactNumbers

local instance two_ne_zero_ticks : NeZero 2 := ⟨by decide⟩

local instance twenty_ne_zero : NeZero 20 := ⟨by decide⟩

def dyadicConfig : RegimeConfig ℚ :=
  { shortEmaPeriod := 2
    longEmaPeriod := 3
    atrPeriod := 2
    volatilityLookback := 20
    momentumPeriod := 2
    trendThreshold := 1 / 2
    volatilityHighPercentile := 3 / 4
    volatilityLowPercentile := 1 / 4
    crisisVolatilityMultiplier := 3
    crisisDrawdownThreshold := 1 / 8
    minRegimeTicks := 3
    transitionSmoothing := 1 / 2
    crisisPositionMultiplier := 1 / 4 }

def priceSpelling : Spelling ℚ where
  entries := [("0", 0), ("2", 2), ("100", 100), ("200", 200), ("500", 500)]
  nodup := by decide
  unmarked := by decide

local instance priceText : DecimalText ℚ :=
  tableDecimalText priceSpelling (by decide)

local instance thresholdJson : FloatJson ℚ :=
  exactFloatJson

def coinUpdates (count : ℕ) : List (DetectorStep ℚ) :=
  List.replicate count (.write ("BTC-USD", 100))

def warmedUp : Detector ℚ ℚ :=
  Detector.machine.run (.fresh dyadicConfig) (coinUpdates 22)

def savedZeros : String :=
  "\x7b\"max_size\": 20, \"values\": [" ++ ", ".intercalate (.replicate 20 "\"0\"") ++
    "], \"running_sum\": \"0\"\x7d"

def savedAverage : String :=
  "\x7b\"period\": 2, \"smoothing\": \"2\", \"value\": \"0\", \"initialized\": " ++
    "true, \"warmup_values\": []\x7d"

/-- The fields that are saved of the warmed-up detector: a regime is pending. -/
def savedFields : String :=
  "\"config\": \x7b\"short_ema_period\": 2, \"long_ema_period\": 3, " ++
    "\"atr_period\": 2, \"volatility_lookback\": 20, \"momentum_period\": 2, " ++
    "\"trend_threshold\": 0.5, \"volatility_high_percentile\": 0.75, " ++
    "\"volatility_low_percentile\": 0.25, \"crisis_volatility_multiplier\": " ++
    "3.0, \"crisis_drawdown_threshold\": 0.125, \"min_regime_ticks\": 3, " ++
    "\"transition_smoothing\": 0.5, \"crisis_position_multiplier\": 0.25\x7d, " ++
    "\"symbols\": \x7b\"BTC-USD\": \x7b\"short_ema\": \x7b\"period\": 2, " ++
    "\"smoothing\": \"2\", \"value\": \"100\", \"initialized\": true, " ++
    "\"warmup_values\": []\x7d, \"long_ema\": \x7b\"period\": 3, \"smoothing\": " ++
    "\"2\", \"value\": \"100\", \"initialized\": true, \"warmup_values\": " ++
    "[]\x7d, \"ema_slope_window\": \x7b\"max_size\": 5, \"values\": [\"100\", " ++
    "\"100\", \"100\", \"100\", \"100\"], \"running_sum\": \"500\"\x7d, " ++
    "\"returns_welford\": \x7b\"count\": 21, \"mean\": \"0\", \"m2\": " ++
    "\"0\"\x7d, \"volatility_history\": " ++
    savedZeros ++
    ", \"price_window\": \x7b\"max_size\": 2, \"values\": [\"100\", \"100\"], " ++
    "\"running_sum\": \"200\"\x7d, \"atr\": \x7b\"period\": 2, \"atr\": \"0\", " ++
    "\"prev_price\": \"100\", \"warmup_trs\": [], \"initialized\": true\x7d, " ++
    "\"bollinger\": \x7b\"period\": 2, \"num_std\": 2.0, \"prices\": " ++
    "\x7b\"max_size\": 2, \"values\": [\"100\", \"100\"], \"running_sum\": " ++
    "\"200\"\x7d, \"current_price\": \"100\"\x7d, \"trend_strength\": " ++
    "\x7b\"period\": 2, \"plus_dm_ema\": " ++
    savedAverage ++
    ", \"minus_dm_ema\": " ++
    savedAverage ++
    ", \"tr_ema\": " ++
    savedAverage ++
    ", \"adx_ema\": \x7b\"period\": 2, \"smoothing\": \"2\", \"value\": null, " ++
    "\"initialized\": false, \"warmup_values\": []\x7d, \"prev_price\": " ++
    "\"100\", \"prev_high\": \"100\", \"prev_low\": \"100\"\x7d, " ++
    "\"atr_history\": " ++
    savedZeros ++
    ", \"prev_price\": \"100\", \"peak_price\": \"100\", \"tick_count\": 22, " ++
    "\"current_regime\": \"UNKNOWN\", \"regime_ticks\": 2, \"pending_regime\": " ++
    "\"SIDEWAYS_QUIET\", \"pending_ticks\": 2\x7d\x7d, \"transition_matrices\": " ++
    "\x7b\"BTC-USD\": \x7b\"transitions\": \x7b\x7d, \"last_regime\": null, " ++
    "\"total_transitions\": 0\x7d\x7d\x7d"

def savedText : String :=
  "\x7b" ++ savedFields

def savedSpelling : Spelling Json where
  entries := [(savedText, warmedUp.serializeState)]
  nodup := List.nodup_singleton _
  unmarked := by
    intro entry member
    rw [List.mem_singleton.mp member]
    simp [savedText]

theorem tableCodec_savedText :
    (tableCodec savedSpelling).dumps warmedUp.serializeState = savedText := by
  have listed : savedSpelling.entries = [] ++ [(savedText, warmedUp.serializeState)] :=
    rfl
  have dumped : ∀ value, (tableCodec savedSpelling).dumps value =
      savedSpelling.toText value := fun _ => rfl
  rw [dumped]
  exact savedSpelling.toText_last listed fun _ member => absurd member List.not_mem_nil

/-- A coin whose detector is restored between the updates that confirm a regime reaches
it with the next price. -/
theorem restart_after_warm_up :
    (tableCodec savedSpelling).dumps warmedUp.serializeState = savedText ∧
      (warmedUp.stateOf "BTC-USD").pendingRegime = some .sidewaysQuiet ∧
      ∃ restarted, warmedUp.restored (tableCodec savedSpelling) = .ok restarted ∧
        (Detector.machine.answers restarted (coinUpdates 1)).map
          (fun answer => answer.2.regime) = [.sidewaysQuiet] := by
  have positive : ∀ symbol price, .write (symbol, price) ∈ coinUpdates 22 →
      dec 0 < price := by
    intro symbol price member
    obtain ⟨_, same⟩ := List.mem_replicate.mp member
    cases same
    decide
  obtain ⟨restarted, restored, answers⟩ := Detector.restart_leaves_no_trace
    (tableCodec savedSpelling) dyadicConfig (coinUpdates 22) (coinUpdates 1) positive
  have reported : (Detector.machine.answers (.fresh dyadicConfig)
      (coinUpdates 22 ++ coinUpdates 1)).map (fun answer => answer.2.regime) =
        .replicate 22 .unknown ++ [.sidewaysQuiet] := by
    decide +kernel
  have before : (Detector.machine.answers (.fresh dyadicConfig)
      (coinUpdates 22)).map (fun answer => answer.2.regime) = .replicate 22 .unknown := by
    decide +kernel
  rw [answers, List.map_append, before] at reported
  exact ⟨tableCodec_savedText, by decide +kernel, restarted, restored,
    List.append_cancel_left reported⟩

end Example

end Regime

end GptTrader
