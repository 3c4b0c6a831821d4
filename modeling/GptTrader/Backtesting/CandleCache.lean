import GptTrader.Backtesting.FillModel
import GptTrader.Library.Ranges

/-!
# The candle cache

`backtesting/data/manager.py`: candles are kept in a file for each symbol and
granularity, the windows that were fetched are kept in an index, and a request
fetches only the gaps that the index leaves.  Times are instants, whose texts in a
file differ and sort like the times; the quality check is any function of the bars.
-/

namespace GptTrader

/-- `HistoricalDataManager`, with its fetcher and its quality check. -/
structure HistoricalDataManager where
  validateQuality : Bool
  rejectOnQualityFailure : Bool
  isAcceptable : String → List PriceBar → Bool
  fetchCandles : String → String → ℤ → ℤ → List PriceBar

/-- The files of the cache directory, and the coverage index. -/
structure CandleCache where
  files : Dict String (List PriceBar)
  coverageIndex : Dict String (Dict String (List (ℤ × ℤ)))

/-- A call of `get_candles`. -/
structure CandleRequest where
  symbol : String
  granularity : String
  start : ℤ
  stop : ℤ

namespace CandleRequest

def Wants (request : CandleRequest) (bar : PriceBar) : Prop :=
  request.start ≤ bar.ts ∧ bar.ts < request.stop

instance (request : CandleRequest) (bar : PriceBar) :
    Decidable (request.Wants bar) :=
  inferInstanceAs (Decidable (_ ∧ _))

/-- `_get_cache_path`, in the cache directory. -/
def cachePath (request : CandleRequest) : String :=
  let safe := request.symbol.toList.map fun char =>
    if char = '/' ∨ char = '-' then '_' else char
  String.ofList safe ++ "_" ++ request.granularity ++ ".json"

end CandleRequest

def sortedBars (bars : List PriceBar) : List PriceBar :=
  bars.insertionSort fun left right => left.ts ≤ right.ts

namespace CandleCache

def empty : CandleCache :=
  { files := .empty
    coverageIndex := .empty }

variable (cache : CandleCache) (request : CandleRequest)

def stored : List PriceBar :=
  (cache.files.get? request.cachePath).getD []

/-- The stored bars inside the requested window. -/
def readFromCache : List PriceBar :=
  (cache.stored request).filter fun bar => decide (request.Wants bar)

/-- The ranges the index says are on disk, if any. -/
def coveredRanges : Option (List (ℤ × ℤ)) :=
  (cache.coverageIndex.get? request.symbol).bind fun granularities =>
    granularities.get? request.granularity

/-- The parts of the window no covered range holds. -/
def identifyGaps : List (ℤ × ℤ) :=
  match cache.coveredRanges request with
  | none => [(request.start, request.stop)]
  | some ranges => Ranges.gaps ranges request.start request.stop

/-- `_write_to_cache`: bars whose times are stored already are left out. -/
def writeToCache (bars : List PriceBar) : CandleCache :=
  let existing := cache.stored request
  let added := bars.filter fun bar =>
    decide (bar.ts ∉ existing.map PriceBar.ts)
  { cache with
    files := cache.files.set request.cachePath (sortedBars (existing ++ added)) }

/-- The index with a fetched gap merged in. -/
def updateCoverage (gap : ℤ × ℤ) : CandleCache :=
  let granularities := (cache.coverageIndex.get? request.symbol).getD .empty
  let ranges := (granularities.get? request.granularity).getD []
  { cache with
    coverageIndex := cache.coverageIndex.set request.symbol
      (granularities.set request.granularity (ranges ++ [gap])) }

end CandleCache

namespace HistoricalDataManager

variable (manager : HistoricalDataManager)

/-- The loop of `get_candles`: fetch each gap and cache what was fetched. -/
def fetchGaps (request : CandleRequest) :
    CandleCache → List (ℤ × ℤ) → List PriceBar × CandleCache
  | cache, [] => ([], cache)
  | cache, gap :: rest =>
      let bars := manager.fetchCandles request.symbol request.granularity
        gap.1 gap.2
      let (later, cache) := fetchGaps request
        ((cache.writeToCache request bars).updateCoverage request gap) rest
      (bars ++ later, cache)

/-- The quality check fails and is to be obeyed. -/
def rejects (granularity : String) (bars : List PriceBar) : Bool :=
  manager.validateQuality && !bars.isEmpty &&
    !manager.isAcceptable granularity bars && manager.rejectOnQualityFailure

def getCandles (cache : CandleCache) (request : CandleRequest) :
    List PriceBar × CandleCache :=
  let cached := cache.readFromCache request
  match cache.identifyGaps request with
  | [] => (cached, cache)
  | gaps =>
      let (fetched, cache) := manager.fetchGaps request cache gaps
      let bars := (sortedBars (cached ++ fetched)).filter fun bar =>
        decide (request.Wants bar)
      if manager.rejects request.granularity bars then ([], cache)
      else (bars, cache)

def answers : CandleCache → List CandleRequest → List (List PriceBar)
  | _, [] => []
  | cache, request :: rest =>
      let (bars, cache) := manager.getCandles cache request
      bars :: answers cache rest

end HistoricalDataManager

end GptTrader
