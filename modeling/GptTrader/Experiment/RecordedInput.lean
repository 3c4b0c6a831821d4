import GptTrader.Experiment.Inputs
import GptTrader.Python.Values

/-!
# Recorded inputs

What `parse_input` (`features/experiment/inputs.py`) and `parse_versions`
(`features/experiment/rulebook.py`) accept: contiguous hourly bars, a decision
channel and what configures it.  The checks are fields of the structures.
Settings and rows are kept as they were given; the instants of times are in
microseconds.
-/

namespace GptTrader

/-- An aware time: the instant it denotes, and its offset from UTC. -/
structure AwareTime where
  instant : ℤ
  offset : ℤ
  deriving DecidableEq

/-- `time + timedelta(microseconds=elapsed)`. -/
def AwareTime.plus (time : AwareTime) (elapsed : ℤ) : AwareTime :=
  { time with instant := time.instant + elapsed }

/-- `timedelta(hours=1)`. -/
def hour : ℤ := 3600000000

/-- `Candle`, as a recorded bar has it. -/
structure Candle where
  ts : AwareTime
  openPrice : ℚ
  high : ℚ
  low : ℚ
  close : ℚ
  volume : ℚ
  positive : 0 < openPrice ∧ 0 < high ∧ 0 < low ∧ 0 < close
  consistent : low ≤ min openPrice close ∧ max openPrice close ≤ high
  traded : 0 ≤ volume

/-- A recorded bar: the row of the input, and the candle it says. -/
structure RecordedBar extends Candle where
  row : Json

/-- A decision channel (`BENCHMARKS`). -/
inductive Benchmark where
  | baseline
  | meanReversion
  | aiTradeManager
  | aiRulebook
  deriving DecidableEq

def Benchmark.value : Benchmark → String
  | .baseline => "baseline"
  | .meanReversion => "mean-reversion"
  | .aiTradeManager => "ai-trade-manager"
  | .aiRulebook => "ai-rulebook"

/-- `ENTRY_RULES`. -/
inductive EntryRule where
  | trend
  | meanReversion
  | hold
  | cash
  deriving DecidableEq

def EntryRule.value : EntryRule → String
  | .trend => "trend"
  | .meanReversion => "mean-reversion"
  | .hold => "hold"
  | .cash => "cash"

/-- `Rulebook`, of the first schema version, with the checks of
`parse_rulebook`. -/
structure Rulebook where
  version : ℕ
  entry : EntryRule
  fastBars : ℕ
  slowBars : ℕ
  reversionBars : ℕ
  entryZ : ℚ
  trendFilterBars : ℕ
  exposureFraction : ℚ
  stopFraction : ℚ
  targetFraction : ℚ
  expiryHours : ℕ
  exitOnSignal : Bool
  versioned : 1 ≤ version ∧ version ≤ 10000
  fast : 1 ≤ fastBars ∧ fastBars < slowBars
  slow : 2 ≤ slowBars ∧ slowBars ≤ 500
  reversion : 2 ≤ reversionBars ∧ reversionBars ≤ 500
  filter : trendFilterBars ≤ 500
  expiry : 1 ≤ expiryHours ∧ expiryHours ≤ 720
  z : 0 < entryZ ∧ entryZ ≤ 10
  exposure : 0 < exposureFraction
  stop : 0 < stopFraction ∧ stopFraction ≤ 95 / 100
  target : 0 < targetFraction ∧ targetFraction ≤ 100

/-- A version of the schedule. -/
structure RulebookVersion where
  effectiveFrom : AwareTime
  rules : Rulebook

/-- The checks of `parse_versions`: versions count from one, start at the first
scored bar and take effect at later and later bars. -/
structure Schedule (candles : List RecordedBar) (scoredIndex : ℕ) (cap : ℚ)
    (versions : List RulebookVersion) : Prop where
  counted : versions.length ≤ 2000
  capped : ∀ version ∈ versions, version.rules.exposureFraction ≤ cap
  numbered : versions.map (·.rules.version) =
    List.range' 1 versions.length
  placed : ∃ indices : List ℕ,
    indices.head? = some scoredIndex ∧
    indices.Pairwise (· < ·) ∧
    versions.map (fun version => some version.effectiveFrom.instant) =
      indices.map fun index => (candles[index]?).map (·.ts.instant)

/-- Full match of `[A-Z0-9]{2,12}-USD`. -/
def isUsdSymbol (symbol : String) : Bool :=
  let base := symbol.toList.takeWhile (· ≠ '-')
  decide (symbol.toList.drop base.length = ['-', 'U', 'S', 'D']) &&
    decide (2 ≤ base.length ∧ base.length ≤ 12) &&
    base.all fun char =>
      ('A' ≤ char && char ≤ 'Z') || ('0' ≤ char && char ≤ '9')

/-- `ExperimentInput`, as `parse_input` returns it.  Its identity is the
checksum of the payload. -/
structure ExperimentInput where
  identity : String
  label : String
  symbol : String
  candles : List RecordedBar
  settings : ExperimentSettings
  benchmark : Benchmark
  scoredIndex : ℕ
  manager : Option ManagerSettings
  rulebooks : List RulebookVersion
  labelled : isBlank label = false
  traded : isUsdSymbol symbol = true
  counted : 1 ≤ candles.length ∧ candles.length ≤ 2000
  contiguous : candles.IsChain fun bar next =>
    next.ts.instant = bar.ts.instant + hour
  scored : scoredIndex < candles.length
  managed : manager.isSome ↔ benchmark = .aiTradeManager
  ruled : if benchmark = .aiRulebook then
      Schedule candles scoredIndex settings.exposureFraction rulebooks
    else rulebooks = []

namespace ExperimentInput

variable (source : ExperimentInput)

theorem symbol_ne_empty : source.symbol ≠ "" := by
  intro empty
  have traded := source.traded
  rw [empty] at traded
  exact absurd traded (by decide)

theorem rulebooks_ne_nil (ruled : source.benchmark = .aiRulebook) :
    source.rulebooks ≠ [] := by
  intro empty
  have schedule := source.ruled
  rw [if_pos ruled, empty] at schedule
  obtain ⟨indices, first, _, placed⟩ := schedule.placed
  have none : indices = [] := List.map_eq_nil_iff.mp placed.symm
  rw [none] at first
  cases first

theorem ts_succ {index : ℕ} {bar next : RecordedBar}
    (found : source.candles[index]? = some bar)
    (later : source.candles[index + 1]? = some next) :
    next.ts.instant = bar.ts.instant + hour := by
  obtain ⟨bound, rfl⟩ := List.getElem?_eq_some_iff.mp found
  obtain ⟨bound', rfl⟩ := List.getElem?_eq_some_iff.mp later
  exact List.isChain_iff_getElem.mp source.contiguous index bound'

end ExperimentInput

end GptTrader
