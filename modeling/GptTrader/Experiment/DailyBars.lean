import GptTrader.Library.KeyedLists
import GptTrader.Experiment.RecordedFills
import GptTrader.Python.DecimalContext

/-!
# Daily bars

`daily_bars` (`features/experiment/rulebook_author.py`) groups closed hourly bars
by the date each bar is written with, in its own offset from UTC, and keeps the
groups of 24 bars whose first is written with hour 0.  This module compares these
groups with the complete days of UTC.
-/

namespace GptTrader

open KeyedLists

/-- `timedelta(days=1)`. -/
def dayLength : ℤ := 24 * hour

namespace AwareTime

variable (time : AwareTime)

def wall : ℤ := time.instant + time.offset

/-- `time.date()`, as the number of the day. -/
def date : ℤ := time.wall / dayLength

/-- `time.hour`. -/
def hourOfDay : ℤ := time.wall % dayLength / hour

end AwareTime

/-- An item of `daily_bars`. -/
structure DailyBar where
  ts : AwareTime
  openPrice : ℚ
  high : ℚ
  low : ℚ
  close : ℚ
  volume : ℚ

def aggregateDay (context : DecimalContext) : List RecordedBar → Option DailyBar
  | [] => none
  | first :: rest =>
      some
        { ts := first.ts
          openPrice := first.openPrice
          high := rest.foldl (fun value bar => max value bar.high) first.high
          low := rest.foldl (fun value bar => min value bar.low) first.low
          close := ((first :: rest).getLast (List.cons_ne_nil _ _)).close
          volume := context.sum ((first :: rest).map (·.volume)) }

/-- `items[-count:]`. -/
def lastItems {α : Type} (count : ℕ) (items : List α) : List α :=
  if count = 0 then items else items.drop (items.length - count)

/-- `len(bars) == 24 and bars[0].ts.hour == 0`. -/
def isWholeDay (bars : List RecordedBar) : Bool :=
  decide (bars.length = 24) &&
    bars.head?.any fun first => decide (first.ts.hourOfDay = 0)

section Days

variable (context : DecimalContext) (source : ExperimentInput)
  (sequence days : ℕ)

def closedCandles : List RecordedBar :=
  source.candles.take (sequence + 1)

def dayGroups : List (List RecordedBar) :=
  (collected (fun bar : RecordedBar => bar.ts.date)
    (closedCandles source sequence)).values.filter isWholeDay

/-- The last complete days. -/
def dailyBars : List DailyBar :=
  lastItems days ((dayGroups source sequence).filterMap (aggregateDay context))

/-- The groups of the bars that `daily_bars` returns. -/
def returnedGroups : List (List RecordedBar) :=
  lastItems days (dayGroups source sequence)

end Days

/-- What a daily bar says of its hourly bars. -/
structure Aggregates (context : DecimalContext) (hours : List RecordedBar)
    (bar : DailyBar) : Prop where
  opens : ∃ first ∈ hours.head?, bar.ts = first.ts ∧
    bar.openPrice = first.openPrice
  closes : ∃ last ∈ hours.getLast?, bar.close = last.close
  highest : (∃ peak ∈ hours, bar.high = peak.high) ∧
    ∀ other ∈ hours, other.high ≤ bar.high
  lowest : (∃ trough ∈ hours, bar.low = trough.low) ∧
    ∀ other ∈ hours, bar.low ≤ other.low
  volume : bar.volume = context.sum (hours.map (·.volume))

section UtcDays

def hoursOf (midnight : ℤ) : List ℤ :=
  (List.range 24).map fun count : ℕ => midnight + count * hour

def utcDay (bars : List RecordedBar) (midnight : ℤ) :
    Option (List RecordedBar) :=
  let hours := bars.filter fun bar => decide (bar.ts.instant ∈ hoursOf midnight)
  if hours.map (·.ts.instant) = hoursOf midnight then some hours else none

def utcDays (bars : List RecordedBar) : List (List RecordedBar) :=
  bars.filterMap fun bar =>
    if bar.ts.instant % dayLength = 0 then utcDay bars bar.ts.instant else none

end UtcDays

/-- The bars returned are those of the last complete days of UTC. -/
structure ReturnsUtcDays (context : DecimalContext) (source : ExperimentInput)
    (sequence : ℕ) : Prop where
  groups : ∀ days, 0 < days → returnedGroups source sequence days =
    lastItems days (utcDays (closedCandles source sequence))
  bars : ∀ days, List.Forall₂ (Aggregates context)
    (returnedGroups source sequence days) (dailyBars context source sequence days)

/-- How bars have to be written: the dates and hours of their own offsets put
the hours of every complete day of UTC, and of no other day, together. -/
structure SpellsUtcDays (bars : List RecordedBar) : Prop where
  whole : ∀ first ∈ bars, first.ts.instant % dayLength = 0 →
    (∃ last ∈ bars, last.ts.instant = first.ts.instant + 23 * hour) →
    first.ts.hourOfDay = 0 ∧ ∀ bar ∈ bars, bar.ts.date = first.ts.date ↔
      first.ts.instant ≤ bar.ts.instant ∧
        bar.ts.instant < first.ts.instant + dayLength
  other : ∀ date first rest,
    bars.filter (fun bar => decide (bar.ts.date = date)) = first :: rest →
    rest.length = 23 → first.ts.hourOfDay = 0 →
    first.ts.instant % dayLength = 0 ∧
      ∀ bar ∈ rest, bar.ts.instant < first.ts.instant + dayLength

section LastItems

variable {α β : Type}

theorem lastItems_of_length_lt {count : ℕ} {items : List α}
    (fits : items.length < count) : lastItems count items = items := by
  unfold lastItems
  rw [if_neg (by omega), Nat.sub_eq_zero_of_le (by omega), List.drop_zero]

theorem eq_iff_lastItems {left right : List α} :
    (∀ count, 0 < count → lastItems count left = lastItems count right) ↔
      left = right := by
  constructor
  · intro same
    have ends := same (left.length + right.length + 1) (by omega)
    rw [lastItems_of_length_lt (by omega),
      lastItems_of_length_lt (by omega)] at ends
    exact ends
  · rintro rfl count _
    rfl

end LastItems

section Hours

theorem mem_hoursOf {midnight instant : ℤ} :
    instant ∈ hoursOf midnight ↔
      ∃ count : ℕ, count < 24 ∧ instant = midnight + count * hour := by
  unfold hoursOf
  rw [List.mem_map]
  constructor
  · rintro ⟨count, member, rfl⟩
    exact ⟨count, List.mem_range.mp member, rfl⟩
  · rintro ⟨count, bound, rfl⟩
    exact ⟨count, List.mem_range.mpr bound, rfl⟩

theorem length_hoursOf (midnight : ℤ) : (hoursOf midnight).length = 24 := by
  unfold hoursOf
  rw [List.length_map, List.length_range]

theorem hoursOf_increasing (midnight : ℤ) :
    (hoursOf midnight).Pairwise (· < ·) := by
  unfold hoursOf
  rw [List.pairwise_map]
  apply List.pairwise_lt_range.imp
  intro left right less
  unfold hour
  omega

theorem head?_hoursOf (midnight : ℤ) :
    (hoursOf midnight).head? = some midnight := by
  unfold hoursOf
  simp [List.range_succ_eq_map]

end Hours

/-- Closed bars start an hour after each other. -/
structure Hourly (bars : List RecordedBar) : Prop where
  increasing : bars.Pairwise fun bar later => bar.ts.instant < later.ts.instant
  aligned : ∀ bar ∈ bars, ∀ other ∈ bars,
    ∃ count : ℤ, other.ts.instant = bar.ts.instant + count * hour
  dense : ∀ bar ∈ bars, ∀ later ∈ bars, ∀ count : ℕ,
    bar.ts.instant + count * hour ≤ later.ts.instant →
    ∃ between ∈ bars, between.ts.instant = bar.ts.instant + count * hour

theorem hourly_closedCandles (source : ExperimentInput) (sequence : ℕ) :
    Hourly (closedCandles source sequence) := by
  have placed : ∀ bar, bar ∈ closedCandles source sequence ↔
      ∃ index ≤ sequence, source.candles[index]? = some bar := by
    intro bar
    unfold closedCandles
    rw [List.mem_iff_getElem?]
    constructor
    · rintro ⟨index, found⟩
      rw [List.getElem?_take] at found
      split at found
      · exact ⟨index, by omega, found⟩
      · cases found
    · rintro ⟨index, bound, found⟩
      exact ⟨index, by rw [List.getElem?_take, if_pos (by omega), found]⟩
  refine ⟨?_, ?_, ?_⟩
  · unfold closedCandles
    apply List.Pairwise.take
    rw [List.pairwise_iff_getElem]
    intro left right leftBound rightBound less
    rw [source.ts_eq (List.getElem?_eq_getElem leftBound),
      source.ts_eq (List.getElem?_eq_getElem rightBound)]
    unfold hour
    omega
  · intro bar member other otherMember
    obtain ⟨index, _, found⟩ := (placed bar).mp member
    obtain ⟨index', _, found'⟩ := (placed other).mp otherMember
    refine ⟨index' - index, ?_⟩
    rw [source.ts_eq found, source.ts_eq found']
    ring
  · intro bar member later laterMember count bound
    obtain ⟨index, _, found⟩ := (placed bar).mp member
    obtain ⟨index', within, found'⟩ := (placed later).mp laterMember
    have instant := source.ts_eq found
    rw [instant, source.ts_eq found'] at bound
    have index_le : index + count ≤ index' := by
      unfold hour at bound
      omega
    obtain ⟨length, _⟩ := List.getElem?_eq_some_iff.mp found'
    have between := List.getElem?_eq_getElem (l := source.candles)
      (i := index + count) (by omega)
    refine ⟨_, (placed _).mpr ⟨index + count, by omega, between⟩, ?_⟩
    rw [source.ts_eq between, instant]
    push_cast
    ring

namespace Hourly

variable {bars hours : List RecordedBar} {first bar : RecordedBar} {midnight : ℤ}

theorem mem_hoursOf_iff (hourly : Hourly bars) (start : first ∈ bars)
    (member : bar ∈ bars) :
    bar.ts.instant ∈ hoursOf first.ts.instant ↔
      first.ts.instant ≤ bar.ts.instant ∧
        bar.ts.instant < first.ts.instant + dayLength := by
  obtain ⟨count, placed⟩ := hourly.aligned first start bar member
  rw [mem_hoursOf, placed]
  unfold dayLength hour
  constructor
  · rintro ⟨number, bound, same⟩
    omega
  · rintro ⟨low, high⟩
    exact ⟨count.toNat, by omega, by omega⟩

theorem map_hours (hourly : Hourly bars) (start : first ∈ bars)
    {last : RecordedBar} (final : last ∈ bars)
    (ends : last.ts.instant = first.ts.instant + 23 * hour) :
    (bars.filter fun bar =>
      decide (bar.ts.instant ∈ hoursOf first.ts.instant)).map (·.ts.instant) =
      hoursOf first.ts.instant := by
  have increasing : ((bars.filter fun bar =>
      decide (bar.ts.instant ∈ hoursOf first.ts.instant)).map
        (·.ts.instant)).Pairwise (· < ·) :=
    List.pairwise_map.mpr (hourly.increasing.filter _)
  apply increasing.eq_of_mem_iff (hoursOf_increasing _)
  intro instant
  rw [List.mem_map]
  constructor
  · rintro ⟨bar, kept, rfl⟩
    exact of_decide_eq_true (List.mem_filter.mp kept).2
  · intro member
    obtain ⟨count, bound, same⟩ := mem_hoursOf.mp member
    obtain ⟨bar, present, placed⟩ := hourly.dense first start last final count
      (by
        rw [ends]
        unfold hour
        omega)
    have reads := placed.trans same.symm
    exact ⟨bar, List.mem_filter.mpr ⟨present, by rw [reads]; simpa using member⟩,
      reads⟩

theorem eq_of_instant (hourly : Hourly bars) {other : RecordedBar}
    (member : bar ∈ bars) (otherMember : other ∈ bars)
    (same : bar.ts.instant = other.ts.instant) : bar = other := by
  have nodup : (bars.map (·.ts.instant)).Nodup :=
    (List.pairwise_map.mpr hourly.increasing).imp fun less => less.ne
  exact List.inj_on_of_nodup_map nodup member otherMember same

theorem utcDay_eq_some (day : utcDay bars midnight = some hours) :
    hours = bars.filter (fun bar =>
        decide (bar.ts.instant ∈ hoursOf midnight)) ∧
      hours.map (·.ts.instant) = hoursOf midnight := by
  unfold utcDay at day
  dsimp only at day
  split at day
  · next complete =>
      cases day
      exact ⟨rfl, complete⟩
  · cases day

theorem head?_utcDay (hourly : Hourly bars) (start : first ∈ bars)
    (day : utcDay bars first.ts.instant = some hours) :
    hours.head? = some first := by
  obtain ⟨kept, complete⟩ := utcDay_eq_some day
  have head := congrArg List.head? complete
  rw [List.head?_map, head?_hoursOf] at head
  obtain ⟨bar, found, instant⟩ := Option.map_eq_some_iff.mp head
  have member := List.mem_of_mem_head? found
  rw [kept] at member
  rw [found, hourly.eq_of_instant (List.mem_filter.mp member).1 start instant]

theorem mem_utcDays :
    hours ∈ utcDays bars ↔ ∃ first ∈ bars,
      first.ts.instant % dayLength = 0 ∧
        utcDay bars first.ts.instant = some hours := by
  unfold utcDays
  rw [List.mem_filterMap]
  constructor
  · rintro ⟨first, member, day⟩
    split at day
    · next aligned => exact ⟨first, member, aligned, day⟩
    · cases day
  · rintro ⟨first, member, aligned, day⟩
    exact ⟨first, member, by rw [if_pos aligned, day]⟩

/-- The first day starts before the second. -/
def StartsBefore (left right : List RecordedBar) : Prop :=
  ∃ first ∈ left.head?, ∃ second ∈ right.head?,
    first.ts.instant < second.ts.instant

instance : Std.Irrefl StartsBefore where
  irrefl group := by
    rintro ⟨first, head, second, head', less⟩
    obtain rfl := Option.some.inj (head.symm.trans head')
    exact lt_irrefl _ less

instance : Std.Antisymm StartsBefore where
  antisymm left right := by
    rintro ⟨first, head, second, head', less⟩ ⟨other, start, last, start', more⟩
    obtain rfl := Option.some.inj (head.symm.trans start')
    obtain rfl := Option.some.inj (head'.symm.trans start)
    exact absurd more less.not_gt

theorem utcDays_sorted (hourly : Hourly bars) :
    (utcDays bars).Pairwise StartsBefore := by
  unfold utcDays
  rw [List.pairwise_filterMap]
  apply hourly.increasing.imp_of_mem
  intro bar later member laterMember less hours day others dayAfter
  split at day
  · split at dayAfter
    · exact ⟨bar, hourly.head?_utcDay member day, later,
        hourly.head?_utcDay laterMember dayAfter, less⟩
    · cases dayAfter
  · cases day

theorem isWholeDay_iff {group : List RecordedBar} :
    isWholeDay group = true ↔ ∃ first rest, group = first :: rest ∧
      rest.length = 23 ∧ first.ts.hourOfDay = 0 := by
  unfold isWholeDay
  cases group with
  | nil => simp
  | cons first rest => simp

def keptGroups (bars : List RecordedBar) : List (List RecordedBar) :=
  (collected (fun bar : RecordedBar => bar.ts.date) bars).values.filter isWholeDay

theorem keptGroups_sorted (hourly : Hourly bars) :
    (keptGroups bars).Pairwise StartsBefore :=
  (pairwise_collected _ hourly.increasing).filter _

theorem mem_keptGroups {group : List RecordedBar} :
    group ∈ keptGroups bars ↔ ∃ first rest, group = first :: rest ∧
      bars.filter (fun bar => decide (bar.ts.date = first.ts.date)) = group ∧
        rest.length = 23 ∧ first.ts.hourOfDay = 0 := by
  unfold keptGroups
  rw [List.mem_filter, mem_values_collected, isWholeDay_iff]
  constructor
  · rintro ⟨⟨bar, member, own⟩, first, rest, rfl, count, early⟩
    have inside : first ∈ bars.filter fun other =>
        decide (other.ts.date = bar.ts.date) := own ▸ List.mem_cons_self ..
    have same := of_decide_eq_true (List.mem_filter.mp inside).2
    exact ⟨first, rest, rfl, by rw [same, ← own], count, early⟩
  · rintro ⟨first, rest, rfl, own, count, early⟩
    have inside : first ∈ bars.filter fun other =>
        decide (other.ts.date = first.ts.date) := own ▸ List.mem_cons_self ..
    exact ⟨⟨first, (List.mem_filter.mp inside).1, own.symm⟩, first, rest, rfl,
      count, early⟩

theorem map_kept (hourly : Hourly bars) {rest : List RecordedBar} {date : ℤ}
    (own : bars.filter (fun bar => decide (bar.ts.date = date)) = first :: rest)
    (count : rest.length = 23)
    (within : ∀ bar ∈ rest, bar.ts.instant < first.ts.instant + dayLength) :
    (first :: rest).map (·.ts.instant) = hoursOf first.ts.instant := by
  have inside : ∀ bar ∈ first :: rest, bar ∈ bars := by
    intro bar member
    rw [← own] at member
    exact (List.mem_filter.mp member).1
  have increasing : ((first :: rest).map (·.ts.instant)).Pairwise (· < ·) := by
    rw [← own]
    exact List.pairwise_map.mpr (hourly.increasing.filter _)
  have after := (List.pairwise_cons.mp (List.pairwise_map.mp increasing)).1
  have covered : (first :: rest).map (·.ts.instant) ⊆
      hoursOf first.ts.instant := by
    intro instant member
    obtain ⟨bar, present, rfl⟩ := List.mem_map.mp member
    apply (hourly.mem_hoursOf_iff (inside first (List.mem_cons_self ..))
      (inside bar present)).mpr
    rcases List.mem_cons.mp present with rfl | later
    · refine ⟨le_rfl, ?_⟩
      unfold dayLength hour
      omega
    · exact ⟨(after bar later).le, within bar later⟩
  have permuted := (List.subperm_of_subset
    (increasing.imp fun less => less.ne) covered).perm_of_length_le (by
      rw [length_hoursOf, List.length_map, List.length_cons, count])
  exact permuted.eq_of_pairwise
    (fun _ _ _ _ less more => absurd more less.not_gt) increasing
    (hoursOf_increasing _)

theorem ends_of_map {rest : List RecordedBar}
    (inside : ∀ bar ∈ first :: rest, bar ∈ bars)
    (complete : (first :: rest).map (·.ts.instant) =
      hoursOf first.ts.instant) :
    ∃ last ∈ bars, last.ts.instant = first.ts.instant + 23 * hour := by
  have final : first.ts.instant + 23 * hour ∈ hoursOf first.ts.instant :=
    mem_hoursOf.mpr ⟨23, by omega, rfl⟩
  rw [← complete] at final
  obtain ⟨last, member, instant⟩ := List.mem_map.mp final
  exact ⟨last, inside last member, instant⟩

/-- The groups are the days of UTC exactly when the bars are written so. -/
theorem keptGroups_eq_utcDays_iff (hourly : Hourly bars) :
    keptGroups bars = utcDays bars ↔ SpellsUtcDays bars := by
  constructor
  · intro same
    refine ⟨?_, ?_⟩
    · rintro first start aligned ⟨last, final, ends⟩
      have complete := hourly.map_hours start final ends
      have day : utcDay bars first.ts.instant = some (bars.filter fun bar =>
          decide (bar.ts.instant ∈ hoursOf first.ts.instant)) := by
        unfold utcDay
        exact if_pos complete
      have kept := mem_utcDays.mpr ⟨first, start, aligned, day⟩
      have head := hourly.head?_utcDay start day
      rw [← same] at kept
      obtain ⟨other, rest, listed, own, count, early⟩ := mem_keptGroups.mp kept
      rw [listed] at head
      obtain rfl := (Option.some.inj head).symm
      refine ⟨early, ?_⟩
      intro bar member
      rw [← hourly.mem_hoursOf_iff start member]
      have equal : bar ∈ bars.filter (fun bar =>
            decide (bar.ts.date = first.ts.date)) ↔
          bar ∈ bars.filter fun bar =>
            decide (bar.ts.instant ∈ hoursOf first.ts.instant) := by rw [own]
      simpa [List.mem_filter, member] using equal
    · intro date first rest own count early
      have inside : first ∈ bars.filter fun bar =>
          decide (bar.ts.date = date) := own ▸ List.mem_cons_self ..
      have dated := of_decide_eq_true (List.mem_filter.mp inside).2
      have kept : first :: rest ∈ keptGroups bars :=
        mem_keptGroups.mpr ⟨first, rest, rfl, by rw [dated, own], count, early⟩
      rw [same] at kept
      obtain ⟨start, member, aligned, day⟩ := mem_utcDays.mp kept
      obtain rfl := Option.some.inj (hourly.head?_utcDay member day)
      refine ⟨aligned, ?_⟩
      intro bar later
      have hours := (utcDay_eq_some day).1
      have present := List.mem_cons_of_mem first later
      rw [hours] at present
      obtain ⟨listed, hourly_eq⟩ := List.mem_filter.mp present
      exact ((hourly.mem_hoursOf_iff member listed).mp
        (of_decide_eq_true hourly_eq)).2
  · intro spelled
    apply (keptGroups_sorted hourly).eq_of_mem_iff (utcDays_sorted hourly)
    intro group
    constructor
    · intro kept
      obtain ⟨first, rest, rfl, own, count, early⟩ := mem_keptGroups.mp kept
      obtain ⟨aligned, within⟩ :=
        spelled.other first.ts.date first rest own count early
      have complete := hourly.map_kept own count within
      have inside : ∀ bar ∈ first :: rest, bar ∈ bars := by
        intro bar member
        rw [← own] at member
        exact (List.mem_filter.mp member).1
      have start := inside first (List.mem_cons_self ..)
      have dates :=
        (spelled.whole first start aligned (ends_of_map inside complete)).2
      have hours : bars.filter (fun bar =>
          decide (bar.ts.instant ∈ hoursOf first.ts.instant)) =
          first :: rest := by
        rw [← own]
        apply List.filter_congr
        intro bar member
        exact decide_eq_decide.mpr
          ((hourly.mem_hoursOf_iff start member).trans (dates bar member).symm)
      refine mem_utcDays.mpr ⟨first, start, aligned, ?_⟩
      unfold utcDay
      dsimp only
      rw [hours]
      exact if_pos complete
    · intro listed
      obtain ⟨first, start, aligned, day⟩ := mem_utcDays.mp listed
      obtain ⟨hours, complete⟩ := utcDay_eq_some day
      have head := hourly.head?_utcDay start day
      cases group with
      | nil => cases head
      | cons other rest =>
          obtain rfl := Option.some.inj head
          have inside : ∀ bar ∈ other :: rest, bar ∈ bars := by
            intro bar member
            rw [hours] at member
            exact (List.mem_filter.mp member).1
          obtain ⟨early, dates⟩ :=
            spelled.whole other start aligned (ends_of_map inside complete)
          have counted := congrArg List.length complete
          rw [length_hoursOf, List.length_map, List.length_cons] at counted
          refine mem_keptGroups.mpr ⟨other, rest, rfl, ?_, by omega, early⟩
          rw [hours]
          apply List.filter_congr
          intro bar member
          exact decide_eq_decide.mpr
            ((dates bar member).trans (hourly.mem_hoursOf_iff start member).symm)

end Hourly

section Extrema

variable {α : Type} {choose : ℚ → ℚ → ℚ} {before : ℚ → ℚ → Prop}

theorem foldl_choose [Std.Refl before] [IsTrans ℚ before]
    (chosen : ∀ left right, choose left right = left ∨ choose left right = right)
    (first_left : ∀ left right, before (choose left right) left)
    (first_right : ∀ left right, before (choose left right) right)
    (value : α → ℚ) (first : α) (rest : List α) :
    (∃ item ∈ first :: rest,
      rest.foldl (fun best item => choose best (value item)) (value first) =
        value item) ∧
    ∀ item ∈ first :: rest,
      before (rest.foldl (fun best item => choose best (value item))
        (value first)) (value item) := by
  induction rest generalizing first with
  | nil =>
      refine ⟨⟨first, List.mem_cons_self .., rfl⟩, ?_⟩
      intro item member
      rw [List.mem_singleton.mp member]
      exact refl _
  | cons next rest induction =>
      rw [List.foldl_cons]
      rcases chosen (value first) (value next) with keeps | moves
      · obtain ⟨⟨item, member, same⟩, least⟩ := induction first
        rw [keeps]
        refine ⟨⟨item, ?_, same⟩, ?_⟩
        · rcases List.mem_cons.mp member with rfl | later
          · exact List.mem_cons_self ..
          · exact .tail _ (.tail _ later)
        · intro other otherMember
          rcases List.mem_cons.mp otherMember with rfl | later
          · exact least _ (List.mem_cons_self ..)
          rcases List.mem_cons.mp later with rfl | later
          · have ahead := first_right (value first) (value other)
            rw [keeps] at ahead
            exact Trans.trans (least first (List.mem_cons_self ..)) ahead
          · exact least other (.tail _ later)
      · obtain ⟨⟨item, member, same⟩, least⟩ := induction next
        rw [moves]
        refine ⟨⟨item, .tail _ member, same⟩, ?_⟩
        intro other otherMember
        rcases List.mem_cons.mp otherMember with rfl | later
        · have ahead := first_left (value other) (value next)
          rw [moves] at ahead
          exact Trans.trans (least next (List.mem_cons_self ..)) ahead
        · exact least other later

end Extrema

section Returned

variable (context : DecimalContext)

theorem aggregateDay_cons (first : RecordedBar) (rest : List RecordedBar) :
    ∃ bar, aggregateDay context (first :: rest) = some bar ∧
      Aggregates context (first :: rest) bar := by
  refine ⟨_, rfl, ?_⟩
  exact
    { opens := ⟨first, rfl, rfl, rfl⟩
      closes :=
        ⟨_, List.getLast?_eq_some_getLast (List.cons_ne_nil first rest), rfl⟩
      highest := @foldl_choose RecordedBar max (· ≥ ·) _ _ max_choice le_max_left
        le_max_right (fun bar => bar.high) first rest
      lowest := foldl_choose min_choice min_le_left min_le_right _ first rest
      volume := rfl }

theorem forall₂_aggregateDay {groups : List (List RecordedBar)}
    (filled : ∀ group ∈ groups, group ≠ []) :
    List.Forall₂ (Aggregates context) groups
      (groups.filterMap (aggregateDay context)) := by
  induction groups with
  | nil => exact .nil
  | cons group groups induction =>
      cases group with
      | nil => exact absurd rfl (filled [] (List.mem_cons_self ..))
      | cons first rest =>
          obtain ⟨bar, made, aggregates⟩ :=
            aggregateDay_cons context first rest
          rw [List.filterMap_cons_some made]
          exact .cons aggregates
            (induction fun other member => filled other (.tail _ member))

theorem forall₂_dailyBars (source : ExperimentInput) (sequence days : ℕ) :
    List.Forall₂ (Aggregates context) (returnedGroups source sequence days)
      (dailyBars context source sequence days) := by
  have filled : ∀ group ∈ dayGroups source sequence, group ≠ [] := by
    rintro group member rfl
    obtain ⟨first, rest, empty, _⟩ := Hourly.mem_keptGroups.mp member
    cases empty
  have aggregated := forall₂_aggregateDay context filled
  unfold returnedGroups dailyBars lastItems
  split
  · exact aggregated
  · rw [aggregated.length_eq]
    exact List.forall₂_drop _ aggregated

/-- The bars are those of the last days of UTC exactly when the closed bars are
written with dates and hours that keep the days of UTC together. -/
theorem returnsUtcDays_iff (source : ExperimentInput) (sequence : ℕ) :
    ReturnsUtcDays context source sequence ↔
      SpellsUtcDays (closedCandles source sequence) := by
  have hourly := hourly_closedCandles source sequence
  rw [← hourly.keptGroups_eq_utcDays_iff, ← eq_iff_lastItems]
  constructor
  · intro returns
    exact returns.groups
  · intro groups
    exact ⟨groups, forall₂_dailyBars context source sequence⟩

end Returned

def easternBar (count : ℕ) : RecordedBar :=
  { ts := { instant := 19 * hour + count * hour, offset := 5 * hour }
    openPrice := 1
    high := 1
    low := 1
    close := 1
    volume := 0
    positive := by decide +kernel
    consistent := by decide +kernel
    traded := le_rfl
    row := .obj [
      ("close", .str "1"), ("high", .str "1"), ("low", .str "1"),
      ("open", .str "1"),
      ("ts", .str ("1970-01-02T" ++ (if count < 10 then "0" else "") ++
        toString count ++ ":00:00+05:00")),
      ("volume", .str "0")] }

/-- The 24 hours of a date east of UTC, which begin at 19:00 UTC. -/
def easternInput : ExperimentInput :=
  { identity := "00112233445566778899aabbccddeeff"
    label := "recorded"
    symbol := "COIN-USD"
    candles := (List.range 24).map easternBar
    settings :=
      { initialCash := 1000
        riskFraction := 1 / 100
        exposureFraction := 1 / 5
        drawdownFraction := 1 / 10
        feeBps := 10
        slippageBps := 5
        quantityIncrement := 1 / 100000000
        funded := by decide +kernel
        risk := by decide +kernel
        exposure := by decide +kernel
        drawdown := by decide +kernel
        feeRate := by decide +kernel
        slippageRate := by decide +kernel
        incremented := by decide +kernel }
    benchmark := .baseline
    scoredIndex := 0
    manager := none
    rulebooks := []
    labelled := by decide
    traded := by decide
    counted := by decide
    contiguous := by decide +kernel
    scored := by decide
    managed := by decide
    ruled := by rw [if_neg (by decide)] }

/-- A bar is returned although no day of UTC is complete. -/
theorem easternDay_returned : ¬ ∀ (context : DecimalContext)
    (source : ExperimentInput) (sequence : ℕ),
    ReturnsUtcDays context source sequence := by
  intro always
  have groups := (always .exact easternInput 23).groups 1 (by decide)
  have returned := congrArg List.length groups
  revert returned
  decide +kernel

end GptTrader
