import GptTrader.Backtesting.CacheTransparency
import GptTrader.Library.Outcome
import GptTrader.Library.TimeWindows

/-!
# Chunked candle downloads

`CoinbaseHistoricalFetcher` (`features/brokerages/coinbase/historical_candles.py`):
a range is split into chunks that share their ends, one request is made for each,
and the candles are sorted and deduplicated by their times.  Moments are
microseconds.  The rate limit and the response sink are left out.
-/

namespace GptTrader

/-- The `start` of a raw candle: seconds, or a text that is parsed. -/
inductive RawStart where
  | seconds (value : ℤ)
  | moment (instant : ℤ)

/-- A raw candle; a missing field is `none`. -/
structure RawCandle where
  start : Option RawStart
  openPrice : Option ℚ
  high : Option ℚ
  low : Option ℚ
  close : Option ℚ
  volume : Option ℚ

inductive FetchError where
  | keyError (key : String)
  | valueError (message : String)
  deriving DecidableEq

/-- `client.get_candles`: the raw candles for a symbol, granularity, limit, start
and end, where what is not a dictionary is `none`; nothing without candles. -/
abbrev CandleClient : Type :=
  String → String → ℕ → ℤ → ℤ → Option (List (Option RawCandle))

namespace HistoricalCandles

/-- `GRANULARITY_SECONDS`, with the default of `_granularity_to_seconds`. -/
def granularityToSeconds (granularity : String) : ℤ :=
  if granularity = "ONE_MINUTE" then 60
  else if granularity = "FIVE_MINUTE" then 300
  else if granularity = "FIFTEEN_MINUTE" then 900
  else if granularity = "THIRTY_MINUTE" then 1800
  else if granularity = "ONE_HOUR" then 3600
  else if granularity = "TWO_HOUR" then 7200
  else if granularity = "FOUR_HOUR" then 14400
  else if granularity = "SIX_HOUR" then 21600
  else if granularity = "ONE_DAY" then 86400
  else 60

/-- `data[key]`. -/
def field (key : String) (value : Option ℚ) : Except FetchError ℚ :=
  match value with
  | none => .error (.keyError key)
  | some value => .ok value

/-- A candle needs all its fields. -/
def parseCandle (data : RawCandle) : Except FetchError PriceBar := do
  let ts ← match data.start with
    | none => .error (.keyError "Missing candle start timestamp")
    | some (.seconds value) => .ok (value * 1000000)
    | some (.moment instant) => .ok instant
  let openPrice ← field "open" data.openPrice
  let high ← field "high" data.high
  let low ← field "low" data.low
  let close ← field "close" data.close
  let volume ← field "volume" data.volume
  .ok
    { ts := ts
      openPrice := openPrice
      high := high
      low := low
      close := close
      volume := volume }

def parseResponse (items : List (Option RawCandle)) :
    Except FetchError (List PriceBar) :=
  (items.filterMap id).mapM parseCandle

def fetchChunk (client : CandleClient) (symbol granularity : String)
    (chunk : ℤ × ℤ) : Except FetchError (List PriceBar) :=
  match client symbol granularity 300 chunk.1 chunk.2 with
  | none => .ok []
  | some items => parseResponse items

/-- `_create_chunks`, as far as the fuel goes. -/
def createChunks (fuel : ℕ) (start finish candleSeconds maxCandles : ℤ) :
    Except FetchError (Option (List (ℤ × ℤ))) :=
  if maxCandles < 2 then
    .error (.valueError
      "max_candles must be at least 2 for inclusive chunk bounds")
  else
    let chunkDuration := candleSeconds * (maxCandles - 1) * 1000000
    .ok (TimeWindows.windows finish chunkDuration fuel start)

/-- The first candle of each time. -/
def unseenCandles : List ℤ → List PriceBar → List PriceBar
  | _, [] => []
  | seen, candle :: rest =>
      if candle.ts ∈ seen then unseenCandles seen rest
      else candle :: unseenCandles (candle.ts :: seen) rest

def deduplicateCandles (candles : List PriceBar) : List PriceBar :=
  unseenCandles [] (sortedBars candles)

/-- `fetch_candles`, with the seconds of each granularity; nothing while the chunk
loop has not ended. -/
def fetchCandles (toSeconds : String → ℤ) (fuel : ℕ) (client : CandleClient)
    (symbol granularity : String) (start finish : ℤ) :
    Except FetchError (Option (List PriceBar)) := do
  match ← createChunks fuel start finish (toSeconds granularity) 300 with
  | none => .ok none
  | some chunks =>
      let fetched ← chunks.mapM (fetchChunk client symbol granularity)
      .ok (some (deduplicateCandles fetched.flatten))

end HistoricalCandles

open HistoricalCandles

/-- A series of bars, no two in one slot of a grid, and a venue that answers each
request with the newest three hundred bars from its start to its end, both
included, in any order. -/
structure CandleSource (seconds : ℤ) (symbol granularity : String) where
  bars : List PriceBar
  client : CandleClient
  origin : ℤ
  positive : 0 < seconds
  ordered : InTimeOrder bars
  once : (bars.map fun bar =>
    TimeWindows.slot origin (seconds * 1000000) bar.ts).Nodup
  answers : ∀ start finish, ∃ items answered,
    client symbol granularity 300 start finish = some items ∧
      parseResponse items = .ok answered ∧
      answered.Perm (((bars.filter fun bar =>
        decide (start ≤ bar.ts ∧ bar.ts ≤ finish)).reverse).take 300)

namespace HistoricalCandles

/-! ## Sorting and deduplicating -/

theorem unseenCandles_sublist (seen : List ℤ) (candles : List PriceBar) :
    (unseenCandles seen candles).Sublist candles := by
  induction candles generalizing seen with
  | nil => exact List.Sublist.refl _
  | cons candle rest induction =>
      unfold unseenCandles
      split
      · exact (induction seen).cons candle
      · exact (induction _).cons_cons candle

theorem unseenCandles_unseen (seen : List ℤ) (candles : List PriceBar) :
    (∀ candle ∈ unseenCandles seen candles, candle.ts ∉ seen) ∧
      ((unseenCandles seen candles).map PriceBar.ts).Nodup := by
  induction candles generalizing seen with
  | nil => exact ⟨fun _ member => (List.not_mem_nil member).elim, List.nodup_nil⟩
  | cons candle rest induction =>
      unfold unseenCandles
      split
      · exact induction seen
      · next unseen =>
          obtain ⟨apart, nodup⟩ := induction (candle.ts :: seen)
          constructor
          · intro other member
            rcases List.mem_cons.mp member with rfl | later
            · exact unseen
            · exact fun known => apart other later
                (List.mem_cons_of_mem _ known)
          · rw [List.map_cons, List.nodup_cons]
            refine ⟨?_, nodup⟩
            intro listed
            obtain ⟨other, member, same⟩ := List.mem_map.mp listed
            exact apart other member (by rw [same]; exact List.mem_cons_self)

theorem unseenCandles_covers (seen : List ℤ) {candles : List PriceBar}
    {candle : PriceBar} (member : candle ∈ candles)
    (unseen : candle.ts ∉ seen) :
    ∃ other ∈ unseenCandles seen candles, other.ts = candle.ts := by
  induction candles generalizing seen with
  | nil => cases member
  | cons first rest induction =>
      unfold unseenCandles
      by_cases known : first.ts ∈ seen
      · rw [if_pos known]
        rcases List.mem_cons.mp member with rfl | later
        · exact absurd known unseen
        · exact induction seen later unseen
      · rw [if_neg known]
        by_cases same : candle.ts = first.ts
        · exact ⟨first, List.mem_cons_self, same.symm⟩
        · rcases List.mem_cons.mp member with rfl | later
          · exact absurd rfl same
          · obtain ⟨other, kept, equal⟩ := induction (first.ts :: seen) later
              (by
                rw [List.mem_cons]
                rintro (equal | known)
                · exact same equal
                · exact unseen known)
            exact ⟨other, List.mem_cons_of_mem _ kept, equal⟩

theorem deduplicateCandles_spec {candles : List PriceBar}
    (known : ∀ left ∈ candles, ∀ right ∈ candles,
      left.ts = right.ts → left = right) :
    InTimeOrder (deduplicateCandles candles) ∧
      ∀ candle, candle ∈ deduplicateCandles candles ↔ candle ∈ candles := by
  unfold deduplicateCandles
  have sublist := unseenCandles_sublist [] (sortedBars candles)
  constructor
  · have sorted := (List.pairwise_insertionSort
      (fun left right : PriceBar => left.ts ≤ right.ts) candles).sublist sublist
    have different := (unseenCandles_unseen [] (sortedBars candles)).2
    refine (sorted.and (List.pairwise_map.mp different)).imp ?_
    intro left right ⟨before, apart⟩
    exact lt_of_le_of_ne before apart
  · intro candle
    constructor
    · intro member
      exact mem_sortedBars.mp (sublist.subset member)
    · intro member
      obtain ⟨other, kept, same⟩ := unseenCandles_covers []
        (mem_sortedBars.mpr member) List.not_mem_nil
      have found := known other (mem_sortedBars.mp (sublist.subset kept))
        candle member same
      rwa [found] at kept

/-! ## One chunk -/

section Source

variable {seconds : ℤ} {symbol granularity : String}
  (source : CandleSource seconds symbol granularity)

include source

theorem chunk_fits {start finish : ℤ}
    (narrow : finish ≤ start + seconds * 299 * 1000000) :
    (source.bars.filter fun bar =>
      decide (start ≤ bar.ts ∧ bar.ts ≤ finish)).length ≤ 300 := by
  have wide : 0 < seconds * 1000000 := by linarith [source.positive]
  have kept : ((source.bars.filter fun bar =>
      decide (start ≤ bar.ts ∧ bar.ts ≤ finish)).map PriceBar.ts).map
        (TimeWindows.slot source.origin (seconds * 1000000)) |>.Nodup := by
    rw [List.map_map]
    exact (List.filter_sublist.map _).nodup source.once
  have reach : finish ≤ start + (299 : ℕ) * (seconds * 1000000) := by
    push_cast
    linarith
  have count := TimeWindows.length_le_slots wide reach _ kept (by
      intro moment member
      obtain ⟨bar, listed, rfl⟩ := List.mem_map.mp member
      simpa using (List.mem_filter.mp listed).2)
  rwa [List.length_map] at count

theorem fetchChunk_spec {chunk : ℤ × ℤ}
    (narrow : chunk.2 ≤ chunk.1 + seconds * 299 * 1000000) :
    ∃ fetched, fetchChunk source.client symbol granularity chunk = .ok fetched ∧
      ∀ bar, bar ∈ fetched ↔
        bar ∈ source.bars ∧ chunk.1 ≤ bar.ts ∧ bar.ts ≤ chunk.2 := by
  obtain ⟨items, fetched, given, parsed, perm⟩ :=
    source.answers chunk.1 chunk.2
  refine ⟨fetched, ?_, ?_⟩
  · unfold fetchChunk
    rw [given]
    exact parsed
  · intro bar
    rw [List.take_of_length_le (by
      rw [List.length_reverse]
      exact chunk_fits source narrow)] at perm
    rw [perm.mem_iff, List.mem_reverse, List.mem_filter, decide_eq_true_iff]

end Source

end HistoricalCandles

/-- With enough fuel the chunk loop ends, and every bar of the range is returned
once, in time order, and no other. -/
theorem fetch_candles_whole_range (toSeconds : String → ℤ)
    (symbol granularity : String)
    (source : CandleSource (toSeconds granularity) symbol granularity)
    (start finish : ℤ) (ordered : start < finish) :
    ∃ enough, ∀ fuel, enough ≤ fuel →
      ∃ candles, fetchCandles toSeconds fuel source.client symbol granularity
          start finish = .ok (some candles) ∧
        InTimeOrder candles ∧
        ∀ bar, bar ∈ candles ↔
          bar ∈ source.bars ∧ start ≤ bar.ts ∧ bar.ts ≤ finish := by
  have wide : 0 < toSeconds granularity * (300 - 1) * 1000000 := by
    linarith [source.positive]
  have reach : finish ≤ start + ((finish - start).toNat : ℤ) *
      (toSeconds granularity * (300 - 1) * 1000000) := by
    rw [Int.toNat_of_nonneg (by linarith)]
    nlinarith
  obtain ⟨tiles, ended, tiled⟩ :=
    TimeWindows.windows_tile wide (finish - start).toNat start reach
  refine ⟨(finish - start).toNat, ?_⟩
  intro fuel enough
  have created : createChunks fuel start finish (toSeconds granularity) 300 =
      .ok (some tiles) := by
    unfold createChunks
    rw [if_neg (by norm_num)]
    dsimp only
    rw [TimeWindows.windows_mono enough ended]
  have each : ∀ tile ∈ tiles, ∃ fetched,
      fetchChunk source.client symbol granularity tile = .ok fetched ∧
        ∀ bar, bar ∈ fetched ↔
          bar ∈ source.bars ∧ tile.1 ≤ bar.ts ∧ bar.ts ≤ tile.2 := by
    intro tile member
    obtain ⟨_, _, _, narrow⟩ := tiled.within tile member
    exact fetchChunk_spec source (by linarith)
  obtain ⟨fetched, traversed⟩ := Outcome.exists_mapM.mpr fun tile member =>
    (each tile member).imp fun _ found => found.1
  -- What was fetched are the bars of the range.
  have member : ∀ bar, bar ∈ fetched.flatten ↔
      bar ∈ source.bars ∧ start ≤ bar.ts ∧ bar.ts ≤ finish := by
    intro bar
    rw [List.mem_flatten]
    constructor
    · rintro ⟨part, listed, held⟩
      obtain ⟨tile, tileMember, same⟩ := Outcome.mem_mapM traversed listed
      obtain ⟨found, given, bars⟩ := each tile tileMember
      obtain ⟨after, _, before, _⟩ := tiled.within tile tileMember
      cases given.symm.trans same
      obtain ⟨known, first, last⟩ := (bars bar).mp held
      exact ⟨known, after.trans first, last.trans before⟩
    · rintro ⟨known, after, before⟩
      obtain ⟨tile, tileMember, first, last⟩ :=
        tiled.touch ordered bar.ts after before
      obtain ⟨part, listed, same⟩ := Outcome.result_mem_mapM traversed tileMember
      obtain ⟨found, given, bars⟩ := each tile tileMember
      cases given.symm.trans same
      exact ⟨_, listed, (bars bar).mpr ⟨known, first, last⟩⟩
  have known : ∀ left ∈ fetched.flatten, ∀ right ∈ fetched.flatten,
      left.ts = right.ts → left = right :=
    fun left first right second equal => source.ordered.eq_of_ts
      ((member left).mp first).1 ((member right).mp second).1 equal
  obtain ⟨sorted, same⟩ := deduplicateCandles_spec known
  refine ⟨deduplicateCandles fetched.flatten, ?_, sorted, ?_⟩
  · unfold fetchCandles
    rw [created]
    dsimp only [bind, Except.bind]
    rw [traversed]
  · intro bar
    rw [same, member]

/-! ## A venue that knows three bars -/

/-- A bar as the venue sends it. -/
def PriceBar.raw (bar : PriceBar) : RawCandle :=
  { start := some (.moment bar.ts)
    openPrice := some bar.openPrice
    high := some bar.high
    low := some bar.low
    close := some bar.close
    volume := some bar.volume }

theorem HistoricalCandles.parseResponse_raw (bars : List PriceBar) :
    parseResponse (bars.map fun bar => some bar.raw) = .ok bars := by
  unfold parseResponse
  rw [List.filterMap_map, Outcome.mapM_eq_ok]
  have kept : bars.filterMap (id ∘ fun bar => some bar.raw) =
      bars.map PriceBar.raw := congrFun List.filterMap_eq_map bars
  rw [kept, List.forall₂_map_left_iff, List.forall₂_same]
  exact fun _ _ => rfl

def CandleSource.ofBars {seconds : ℤ} (symbol granularity : String)
    (bars : List PriceBar) (origin : ℤ) (positive : 0 < seconds)
    (ordered : InTimeOrder bars)
    (once : (bars.map fun bar =>
      TimeWindows.slot origin (seconds * 1000000) bar.ts).Nodup) :
    CandleSource seconds symbol granularity :=
  { bars := bars
    client := fun _ _ limit start finish => some
      ((((bars.filter fun bar =>
        decide (start ≤ bar.ts ∧ bar.ts ≤ finish)).reverse).take limit).map
          fun bar => some bar.raw)
    origin := origin
    positive := positive
    ordered := ordered
    once := once
    answers := fun _ _ => ⟨_, _, rfl, parseResponse_raw _, .refl _⟩ }

def minuteBars : CandleSource (granularityToSeconds "ONE_MINUTE") "BTC-USD"
    "ONE_MINUTE" :=
  .ofBars "BTC-USD" "ONE_MINUTE"
    ([0, 60, 18060].map fun seconds =>
      { ts := seconds * 1000000
        openPrice := 100
        high := 100
        low := 100
        close := 100
        volume := 1 })
    0 (by decide) (by unfold InTimeOrder; decide) (by decide)

/-- The range takes two chunks, and the last bar lies in the second. -/
theorem minute_bars_fetched :
    ∃ enough, ∀ fuel, enough ≤ fuel →
      ∃ candles, fetchCandles granularityToSeconds fuel minuteBars.client
          "BTC-USD" "ONE_MINUTE" 60000000 18060000000 = .ok (some candles) ∧
        InTimeOrder candles ∧
        ∀ bar, bar ∈ candles ↔ bar ∈ minuteBars.bars ∧
          60000000 ≤ bar.ts ∧ bar.ts ≤ 18060000000 :=
  fetch_candles_whole_range granularityToSeconds "BTC-USD" "ONE_MINUTE"
    minuteBars 60000000 18060000000 (by decide)

end GptTrader
