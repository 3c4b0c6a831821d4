import GptTrader.Backtesting.CandleCache

/-!
# Which requests the candle cache answers like its source

A fetcher returns the bars of a fixed series, both ends of the window included.
Every request is answered with the bars of its window as long as no stored bar of
the window is foreign or lies in a gap, and nothing is withheld from the cache.
-/

namespace GptTrader

/-- The bars come in order of their times. -/
def InTimeOrder (bars : List PriceBar) : Prop :=
  bars.Pairwise fun left right => left.ts < right.ts

/-- The bars of every symbol and granularity, in the order of their times. -/
structure BarSeries where
  bars : String → String → List PriceBar
  ordered : ∀ symbol granularity, InTimeOrder (bars symbol granularity)

/-- What `fetch_candles` returns of the series: both ends are included. -/
def BarSeries.between (series : BarSeries) (symbol granularity : String)
    (start stop : ℤ) : List PriceBar :=
  (series.bars symbol granularity).filter fun bar =>
    decide (start ≤ bar.ts ∧ bar.ts ≤ stop)

/-- The bars of the series that a request wants. -/
def BarSeries.window (series : BarSeries) (request : CandleRequest) :
    List PriceBar :=
  (series.bars request.symbol request.granularity).filter fun bar =>
    decide (request.Wants bar)

def HistoricalDataManager.expected (manager : HistoricalDataManager)
    (series : BarSeries) (request : CandleRequest) : List PriceBar :=
  if manager.rejects request.granularity (series.window request) then []
  else series.window request

/-! ## Bars in time order -/

section Bars

variable {bars other : List PriceBar}

theorem InTimeOrder.filter (ordered : InTimeOrder bars)
    (keeps : PriceBar → Bool) : InTimeOrder (bars.filter keeps) :=
  List.Pairwise.filter keeps ordered

theorem InTimeOrder.nodup_times (ordered : InTimeOrder bars) :
    (bars.map PriceBar.ts).Nodup :=
  List.pairwise_map.mpr (List.Pairwise.imp (fun before => before.ne) ordered)

theorem InTimeOrder.eq_of_ts (ordered : InTimeOrder bars) {left right : PriceBar}
    (first : left ∈ bars) (second : right ∈ bars) (same : left.ts = right.ts) :
    left = right :=
  List.inj_on_of_nodup_map ordered.nodup_times first second same

theorem InTimeOrder.ext (ordered : InTimeOrder bars) (others : InTimeOrder other)
    (same : ∀ bar, bar ∈ bars ↔ bar ∈ other) : bars = other := by
  apply List.Perm.eq_of_pairwise _ ordered others
  · rw [List.perm_ext_iff_of_nodup]
    · exact same
    · exact ordered.nodup_times.of_map _
    · exact others.nodup_times.of_map _
  · intro left right _ _ before after
    exact absurd (before.trans after) (lt_irrefl _)

instance : Std.Total fun left right : PriceBar => left.ts ≤ right.ts :=
  ⟨fun left right => le_total left.ts right.ts⟩

instance : IsTrans PriceBar fun left right => left.ts ≤ right.ts :=
  ⟨fun _ _ _ first second => first.trans second⟩

theorem mem_sortedBars {bar : PriceBar} : bar ∈ sortedBars bars ↔ bar ∈ bars :=
  List.mem_insertionSort _

theorem sortedBars_inTimeOrder (nodup : (bars.map PriceBar.ts).Nodup) :
    InTimeOrder (sortedBars bars) := by
  have sorted := List.pairwise_insertionSort
    (fun left right : PriceBar => left.ts ≤ right.ts) bars
  have different : ((sortedBars bars).map PriceBar.ts).Nodup :=
    (((List.perm_insertionSort _ bars).map PriceBar.ts).nodup_iff).mpr nodup
  refine (sorted.and (List.pairwise_map.mp different)).imp ?_
  intro left right ⟨before, apart⟩
  exact lt_of_le_of_ne before apart

end Bars

/-! ## What the cache holds -/

namespace CandleCache

variable {series : BarSeries} {cache : CandleCache}
  {request other : CandleRequest}

/-- A covered bar is stored, and the files are in time order. -/
structure Holds (series : BarSeries) (cache : CandleCache) : Prop where
  sorted : ∀ request, InTimeOrder (cache.stored request)
  covered : ∀ request, ∀ bar ∈ series.bars request.symbol request.granularity,
    Ranges.Covers ((cache.coveredRanges request).getD []) bar.ts →
      bar ∈ cache.stored request

theorem holds_empty (series : BarSeries) : Holds series empty where
  sorted := fun _ => .nil
  covered := by
    rintro request bar _ ⟨range, member, _⟩
    cases member

theorem mem_readFromCache {bar : PriceBar} :
    bar ∈ cache.readFromCache request ↔
      bar ∈ cache.stored request ∧ request.Wants bar := by
  unfold readFromCache
  rw [List.mem_filter, decide_eq_true_iff]

/-- What the cache reads for the request is the series' own. -/
def OwnWindow (series : BarSeries) (cache : CandleCache)
    (request : CandleRequest) : Prop :=
  ∀ bar ∈ cache.readFromCache request,
    bar ∈ series.bars request.symbol request.granularity

theorem identifyGaps_spec (cache : CandleCache)
    (proper : request.start < request.stop) :
    Ranges.GapsOf ((cache.coveredRanges request).getD []) request.start
      request.stop (cache.identifyGaps request) := by
  unfold identifyGaps
  cases cache.coveredRanges request with
  | none => exact Ranges.gaps_spec [] proper
  | some ranges => exact Ranges.gaps_spec ranges proper

/-- The gaps of a request are what its window is without the recorded ranges. -/
theorem gaps_are_uncovered_time (cache : CandleCache)
    (proper : request.start < request.stop) :
    let gaps := cache.identifyGaps request
    (∀ gap ∈ gaps,
        request.start ≤ gap.1 ∧ gap.1 < gap.2 ∧ gap.2 ≤ request.stop) ∧
      gaps.Pairwise (fun left right => left.2 < right.1) ∧
      ∀ moment, request.start ≤ moment → moment < request.stop →
        ((∃ gap ∈ gaps, gap.1 ≤ moment ∧ moment < gap.2) ↔
          ¬∃ range ∈ (cache.coveredRanges request).getD [],
            range.1 ≤ moment ∧ moment < range.2) := by
  have found := identifyGaps_spec cache proper
  exact ⟨found.within, found.apart, fun moment from' to' =>
    found.covers moment ⟨from', to'⟩⟩

/-- A window with a touching and a reversed range in the middle. -/
theorem gaps_around_ranges :
    let request : CandleRequest :=
      { symbol := "BTC-USD", granularity := "ONE_HOUR", start := 0, stop := 10 }
    let cache := (((empty.updateCoverage request (3, 4)).updateCoverage request
      (8, 5)).updateCoverage request (2, 3))
    cache.identifyGaps request = [(0, 2), (4, 10)] ∧
      ∀ moment, 0 ≤ moment → moment < 10 →
        ((∃ gap ∈ cache.identifyGaps request, gap.1 ≤ moment ∧ moment < gap.2) ↔
          ¬∃ range ∈ (cache.coveredRanges request).getD [],
            range.1 ≤ moment ∧ moment < range.2) := by
  intro request cache
  have proper : request.start < request.stop := by decide
  exact ⟨by decide, (gaps_are_uncovered_time cache proper).2.2⟩

/-! ## Fetching a gap -/

/-- The cache after one gap was fetched and written. -/
def afterGap (series : BarSeries) (cache : CandleCache) (request : CandleRequest)
    (gap : ℤ × ℤ) : CandleCache :=
  (cache.writeToCache request (series.between request.symbol
    request.granularity gap.1 gap.2)).updateCoverage request gap

theorem mem_stored_writeToCache {bars : List PriceBar} {bar : PriceBar} :
    bar ∈ (cache.writeToCache request bars).stored other ↔
      bar ∈ cache.stored other ∨
        other.cachePath = request.cachePath ∧ bar ∈ bars ∧
          bar.ts ∉ (cache.stored request).map PriceBar.ts := by
  unfold stored writeToCache
  dsimp only
  rw [Dict.get?_set]
  split
  · next same =>
      rw [Option.getD_some, mem_sortedBars, List.mem_append, List.mem_filter,
        decide_eq_true_iff, same]
      simp only [stored, true_and]
  · next different =>
      constructor
      · exact .inl
      · rintro (listed | ⟨same, _⟩)
        · exact listed
        · exact absurd same different

theorem writeToCache_sorted {bars : List PriceBar}
    (sorted : ∀ request, InTimeOrder (cache.stored request))
    (ordered : InTimeOrder bars) (other : CandleRequest) :
    InTimeOrder ((cache.writeToCache request bars).stored other) := by
  have kept := sorted other
  have existing := sorted request
  unfold stored at kept ⊢
  unfold writeToCache
  dsimp only
  rw [Dict.get?_set]
  split
  · apply sortedBars_inTimeOrder
    rw [List.map_append, List.nodup_append]
    refine ⟨existing.nodup_times, (ordered.filter _).nodup_times, ?_⟩
    intro left first right second same
    obtain ⟨bar, member, time⟩ := List.mem_map.mp second
    have fresh := (List.mem_filter.mp member).2
    rw [decide_eq_true_iff, time, ← same] at fresh
    exact fresh first
  · exact kept

theorem covers_afterGap {gap : ℤ × ℤ} {point : ℤ} :
    Ranges.Covers (((afterGap series cache request gap).coveredRanges
        other).getD []) point ↔
      Ranges.Covers ((cache.coveredRanges other).getD []) point ∨
        (other.symbol = request.symbol ∧
          other.granularity = request.granularity) ∧
          gap.1 ≤ point ∧ point < gap.2 := by
  have unchanged : (cache.writeToCache request (series.between request.symbol
      request.granularity gap.1 gap.2)).coverageIndex = cache.coverageIndex := rfl
  unfold afterGap updateCoverage coveredRanges
  dsimp only
  rw [unchanged, Dict.get?_set]
  by_cases symbol : other.symbol = request.symbol
  · rw [if_pos symbol, Option.bind_some, Dict.get?_set]
    by_cases granularity : other.granularity = request.granularity
    · rw [if_pos granularity, Option.getD_some, Ranges.covers_append, symbol,
        granularity]
      have before : ((((cache.coverageIndex.get? request.symbol).getD
          .empty).get? request.granularity).getD []) =
          ((cache.coverageIndex.get? request.symbol).bind fun granularities =>
            granularities.get? request.granularity).getD [] := by
        cases cache.coverageIndex.get? request.symbol <;> rfl
      rw [before]
      apply or_congr_right
      unfold Ranges.Covers
      simp
    · rw [if_neg granularity, symbol]
      have before : (((cache.coverageIndex.get? request.symbol).getD
          .empty).get? other.granularity) =
          (cache.coverageIndex.get? request.symbol).bind fun granularities =>
            granularities.get? other.granularity := by
        cases cache.coverageIndex.get? request.symbol <;> rfl
      rw [before]
      constructor
      · exact .inl
      · rintro (covered | ⟨⟨_, same⟩, _⟩)
        · exact covered
        · exact absurd same granularity
  · rw [if_neg symbol]
    constructor
    · exact .inl
    · rintro (covered | ⟨⟨same, _⟩, _⟩)
      · exact covered
      · exact absurd same symbol

theorem mem_between {symbol granularity : String} {start stop : ℤ}
    {bar : PriceBar} :
    bar ∈ series.between symbol granularity start stop ↔
      bar ∈ series.bars symbol granularity ∧ start ≤ bar.ts ∧ bar.ts ≤ stop := by
  unfold BarSeries.between
  rw [List.mem_filter, decide_eq_true_iff]

theorem between_ordered (symbol granularity : String) (start stop : ℤ) :
    InTimeOrder (series.between symbol granularity start stop) :=
  (series.ordered symbol granularity).filter _

theorem cachePath_congr (symbol : other.symbol = request.symbol)
    (granularity : other.granularity = request.granularity) :
    other.cachePath = request.cachePath := by
  unfold CandleRequest.cachePath
  rw [symbol, granularity]

theorem afterGap_holds (holds : Holds series cache)
    (own : OwnWindow series cache request) {gap : ℤ × ℤ}
    (within : request.start ≤ gap.1 ∧ gap.2 ≤ request.stop) :
    Holds series (afterGap series cache request gap) ∧
      OwnWindow series (afterGap series cache request gap) request := by
  have stored : ∀ other, (afterGap series cache request gap).stored other =
      (cache.writeToCache request (series.between request.symbol
        request.granularity gap.1 gap.2)).stored other := fun _ => rfl
  refine ⟨⟨?_, ?_⟩, ?_⟩
  · intro other
    rw [stored]
    exact writeToCache_sorted holds.sorted (between_ordered _ _ _ _) other
  · intro other bar listed covered
    rw [stored, mem_stored_writeToCache]
    rcases covers_afterGap.mp covered with before | ⟨⟨symbol, granularity⟩, inside⟩
    · exact .inl (holds.covered other bar listed before)
    · have path := cachePath_congr symbol granularity
      rw [symbol, granularity] at listed
      have fetched : bar ∈ series.between request.symbol request.granularity
          gap.1 gap.2 := mem_between.mpr ⟨listed, inside.1, inside.2.le⟩
      by_cases fresh : bar.ts ∈ (cache.stored request).map PriceBar.ts
      · -- the time is stored already, and the stored bar is the symbol's own
        obtain ⟨old, found, time⟩ := List.mem_map.mp fresh
        have wanted : request.Wants old := by
          unfold CandleRequest.Wants
          omega
        have same : old = bar :=
          (series.ordered request.symbol request.granularity).eq_of_ts
            (own old (mem_readFromCache.mpr ⟨found, wanted⟩)) listed time
        left
        unfold CandleCache.stored at found ⊢
        rw [path, ← same]
        exact found
      · exact .inr ⟨path, fetched, fresh⟩
  · intro bar member
    obtain ⟨found, wanted⟩ := mem_readFromCache.mp member
    rw [stored, mem_stored_writeToCache] at found
    rcases found with old | ⟨_, fetched, _⟩
    · exact own bar (mem_readFromCache.mpr ⟨old, wanted⟩)
    · exact (mem_between.mp fetched).1

end CandleCache

namespace HistoricalDataManager

variable {manager : HistoricalDataManager} {series : BarSeries}
  {cache : CandleCache} {request : CandleRequest}

theorem fetchGaps_holds (fetches : manager.fetchCandles = series.between)
    (holds : cache.Holds series) (own : cache.OwnWindow series request)
    {gaps : List (ℤ × ℤ)}
    (within : ∀ gap ∈ gaps, request.start ≤ gap.1 ∧ gap.2 ≤ request.stop) :
    (manager.fetchGaps request cache gaps).1 =
        gaps.flatMap (fun gap => series.between request.symbol
          request.granularity gap.1 gap.2) ∧
      (manager.fetchGaps request cache gaps).2.Holds series := by
  induction gaps generalizing cache with
  | nil => exact ⟨rfl, holds⟩
  | cons gap rest induction =>
      obtain ⟨holds', own'⟩ := CandleCache.afterGap_holds holds own
        (within gap List.mem_cons_self)
      obtain ⟨fetched, kept⟩ := induction holds' own' fun other member =>
        within other (List.mem_cons_of_mem _ member)
      unfold fetchGaps
      rw [fetches]
      exact ⟨congrArg _ fetched, kept⟩

/-- What a request needs of the cache: no stored bar of its window is foreign or
in a gap, its window is proper, and bars that the check refuses are not cached. -/
structure Sound (manager : HistoricalDataManager) (series : BarSeries)
    (cache : CandleCache) (request : CandleRequest) : Prop where
  proper : request.start < request.stop
  own : cache.OwnWindow series request
  apart : ∀ bar ∈ cache.readFromCache request,
    ∀ gap ∈ cache.identifyGaps request, ¬(gap.1 ≤ bar.ts ∧ bar.ts ≤ gap.2)
  checked : cache.identifyGaps request = [] →
    manager.rejects request.granularity (series.window request) = false
  filed : request.cachePath ≠ "_coverage_index.json"

theorem mem_window {bar : PriceBar} :
    bar ∈ series.window request ↔
      bar ∈ series.bars request.symbol request.granularity ∧
        request.Wants bar := by
  unfold BarSeries.window
  rw [List.mem_filter, decide_eq_true_iff]

theorem window_ordered : InTimeOrder (series.window request) :=
  (series.ordered _ _).filter _

/-- A sound request is answered with the bars of its window, and the cache holds
what is covered afterwards. -/
theorem getCandles_sound (fetches : manager.fetchCandles = series.between)
    (holds : cache.Holds series) (sound : manager.Sound series cache request) :
    (manager.getCandles cache request).1 = manager.expected series request ∧
      (manager.getCandles cache request).2.Holds series := by
  have gaps := cache.identifyGaps_spec sound.proper
  have readOrdered : InTimeOrder (cache.readFromCache request) :=
    (holds.sorted request).filter _
  unfold getCandles
  dsimp only
  split
  · next none =>
      refine ⟨?_, holds⟩
      unfold expected
      rw [if_neg (by rw [sound.checked none]; exact Bool.false_ne_true)]
      apply readOrdered.ext window_ordered
      intro bar
      rw [mem_window]
      constructor
      · intro member
        exact ⟨sound.own bar member, (CandleCache.mem_readFromCache.mp member).2⟩
      · intro ⟨listed, wanted⟩
        apply CandleCache.mem_readFromCache.mpr
        refine ⟨holds.covered request bar listed ?_, wanted⟩
        by_contra uncovered
        obtain ⟨gap, member, _⟩ := (gaps.covers bar.ts wanted).mpr uncovered
        rw [none] at member
        cases member
  · next missing _ =>
      obtain ⟨fetched, kept⟩ := fetchGaps_holds fetches holds sound.own
        fun gap member => ⟨(gaps.within gap member).1, (gaps.within gap member).2.2⟩
      rcases split : manager.fetchGaps request cache (cache.identifyGaps request)
        with ⟨bars, after⟩
      rw [split] at fetched kept
      dsimp only at fetched kept ⊢
      have fetchedOrdered : InTimeOrder bars := by
        rw [fetched, InTimeOrder, List.pairwise_flatMap]
        refine ⟨fun gap _ => CandleCache.between_ordered _ _ _ _, ?_⟩
        refine gaps.apart.imp ?_
        intro left right before first firstIn second secondIn
        have upper := (CandleCache.mem_between.mp firstIn).2.2
        have lower := (CandleCache.mem_between.mp secondIn).2.1
        omega
      have nodup : ((cache.readFromCache request ++ bars).map
          PriceBar.ts).Nodup := by
        rw [List.map_append, List.nodup_append]
        refine ⟨readOrdered.nodup_times, fetchedOrdered.nodup_times, ?_⟩
        intro left first right second same
        obtain ⟨old, stored, oldTime⟩ := List.mem_map.mp first
        obtain ⟨new, listed, newTime⟩ := List.mem_map.mp second
        rw [fetched] at listed
        obtain ⟨gap, gapListed, inside⟩ := List.mem_flatMap.mp listed
        apply sound.apart old stored gap gapListed
        have bounds := (CandleCache.mem_between.mp inside).2
        omega
      have answer : ((sortedBars (cache.readFromCache request ++ bars)).filter
          fun bar => decide (request.Wants bar)) = series.window request := by
        apply ((sortedBars_inTimeOrder nodup).filter _).ext window_ordered
        intro bar
        rw [List.mem_filter, decide_eq_true_iff, mem_sortedBars, List.mem_append,
          mem_window]
        constructor
        · rintro ⟨stored | listed, wanted⟩
          · exact ⟨sound.own bar stored, wanted⟩
          · rw [fetched] at listed
            obtain ⟨gap, _, inside⟩ := List.mem_flatMap.mp listed
            exact ⟨(CandleCache.mem_between.mp inside).1, wanted⟩
        · intro ⟨listed, wanted⟩
          refine ⟨?_, wanted⟩
          by_cases covered : Ranges.Covers
              ((cache.coveredRanges request).getD []) bar.ts
          · exact .inl (CandleCache.mem_readFromCache.mpr
              ⟨holds.covered request bar listed covered, wanted⟩)
          · obtain ⟨gap, member, from', to'⟩ :=
              (gaps.covers bar.ts wanted).mpr covered
            right
            rw [fetched]
            exact List.mem_flatMap.mpr ⟨gap, member,
              CandleCache.mem_between.mpr ⟨listed, from', to'.le⟩⟩
      rw [answer]
      unfold expected
      split
      · exact ⟨rfl, kept⟩
      · exact ⟨rfl, kept⟩

def SoundRun (manager : HistoricalDataManager) (series : BarSeries) :
    CandleCache → List CandleRequest → Prop
  | _, [] => True
  | cache, request :: rest =>
      manager.Sound series cache request ∧
        SoundRun manager series (manager.getCandles cache request).2 rest

instance (request : CandleRequest) :
    Decidable (manager.Sound series cache request) :=
  decidable_of_iff
    (request.start < request.stop ∧
      (∀ bar ∈ cache.readFromCache request,
        bar ∈ series.bars request.symbol request.granularity) ∧
      (∀ bar ∈ cache.readFromCache request,
        ∀ gap ∈ cache.identifyGaps request,
          ¬(gap.1 ≤ bar.ts ∧ bar.ts ≤ gap.2)) ∧
      (cache.identifyGaps request = [] →
        manager.rejects request.granularity (series.window request) = false) ∧
      request.cachePath ≠ "_coverage_index.json")
    ⟨fun ⟨proper, own, apart, checked, filed⟩ =>
        ⟨proper, own, apart, checked, filed⟩,
      fun sound => ⟨sound.proper, sound.own, sound.apart, sound.checked,
        sound.filed⟩⟩

instance decidableSoundRun (manager : HistoricalDataManager)
    (series : BarSeries) : (cache : CandleCache) →
    (requests : List CandleRequest) →
    Decidable (manager.SoundRun series cache requests)
  | _, [] => .isTrue trivial
  | cache, request :: rest =>
      have := decidableSoundRun manager series
        (manager.getCandles cache request).2 rest
      inferInstanceAs (Decidable (_ ∧ _))

theorem answers_sound (fetches : manager.fetchCandles = series.between)
    (holds : cache.Holds series) {requests : List CandleRequest}
    (sound : manager.SoundRun series cache requests) :
    manager.answers cache requests =
      requests.map (manager.expected series) := by
  induction requests generalizing cache with
  | nil => rfl
  | cons request rest induction =>
      obtain ⟨first, later⟩ := sound
      obtain ⟨answered, kept⟩ := getCandles_sound fetches holds first
      unfold answers
      rw [List.map_cons, ← answered, ← induction kept later]

end HistoricalDataManager

/-- Sound requests are answered from the cache as from the series. -/
theorem candle_cache_is_transparent (manager : HistoricalDataManager)
    (series : BarSeries) (fetches : manager.fetchCandles = series.between)
    (requests : List CandleRequest)
    (sound : manager.SoundRun series .empty requests) :
    manager.answers .empty requests = requests.map (manager.expected series) :=
  HistoricalDataManager.answers_sound fetches (CandleCache.holds_empty series)
    sound

/-! ## Four bars -/

def flatBar (ts : ℤ) (price : ℚ) : PriceBar :=
  { ts := ts
    openPrice := price
    high := price
    low := price
    close := price
    volume := 1 }

def fourHours : BarSeries where
  bars := fun symbol _ =>
    let price := if symbol = "COIN-USD" then 1 else 2
    [flatBar 0 price, flatBar 1 price, flatBar 2 price, flatBar 3 price]
  ordered := by
    intro symbol granularity
    unfold InTimeOrder flatBar
    simp

def fourHourManager (isAcceptable : Bool) : HistoricalDataManager :=
  { validateQuality := true
    rejectOnQualityFailure := true
    isAcceptable := fun _ _ => isAcceptable
    fetchCandles := fourHours.between }

def hours (symbol : String) (start stop : ℤ) : CandleRequest :=
  { symbol := symbol
    granularity := "ONE_HOUR"
    start := start
    stop := stop }

/-- A bar at the end, a shared path and unacceptable bars show. -/
theorem candle_cache_is_not_transparent :
    (∃ request, (fourHourManager true).answers .empty
        [hours "COIN-USD" 0 2, request] ≠
      [hours "COIN-USD" 0 2, request].map
        ((fourHourManager true).expected fourHours) ∧
      request.symbol = "COIN-USD") ∧
    (fourHourManager true).answers .empty
        [hours "COIN-USD" 0 2, hours "COIN/USD" 0 2] ≠
      [hours "COIN-USD" 0 2, hours "COIN/USD" 0 2].map
        ((fourHourManager true).expected fourHours) ∧
    (fourHourManager false).answers .empty
        [hours "COIN-USD" 0 2, hours "COIN-USD" 0 2] ≠
      [hours "COIN-USD" 0 2, hours "COIN-USD" 0 2].map
        ((fourHourManager false).expected fourHours) := by
  refine ⟨⟨hours "COIN-USD" 2 4, ?_, rfl⟩, ?_, ?_⟩ <;> decide +kernel

/-- Windows whose ends meet no cached bar are answered from the cache. -/
theorem four_hours_answered :
    (fourHourManager true).answers .empty
        [hours "COIN-USD" 0 2, hours "COIN-USD" 3 4, hours "COIN-USD" 0 1] =
      [[flatBar 0 1, flatBar 1 1], [flatBar 3 1], [flatBar 0 1]] := by
  have answered := candle_cache_is_transparent (fourHourManager true) fourHours
    rfl [hours "COIN-USD" 0 2, hours "COIN-USD" 3 4, hours "COIN-USD" 0 1]
    (by decide +kernel)
  rw [answered]
  decide +kernel

end GptTrader
