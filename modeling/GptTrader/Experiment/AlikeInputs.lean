import GptTrader.Experiment.RecordedFills

/-!
# Inputs that look alike up to a bar

Two inputs that agree on everything but the values of later bars and the later
rulebook versions show a decision the same bars and the same version.
-/

namespace GptTrader

/-- The rulebook versions in force by `ts`. -/
def versionsUntil (source : ExperimentInput) (ts : ℤ) : List RulebookVersion :=
  source.rulebooks.filter fun version =>
    decide (version.effectiveFrom.instant ≤ ts)

/-- Inputs of a channel that agree up to a bar: on the configuration and the times of
all bars, and on what a model sees so far. -/
structure SeenAlike (source other : ExperimentInput) (last : ℕ) : Prop where
  benchmark : other.benchmark = source.benchmark
  symbol : other.symbol = source.symbol
  label : other.label = source.label
  settings : other.settings = source.settings
  scoredIndex : other.scoredIndex = source.scoredIndex
  scoredFrom : other.scoredFrom = source.scoredFrom
  manager : other.manager = source.manager
  times : other.candles.map (·.ts) = source.candles.map (·.ts)
  bars : (other.candles.take (last + 1)).map (·.toCandle) =
    (source.candles.take (last + 1)).map (·.toCandle)
  rows : source.benchmark = .aiTradeManager →
    (other.candles.take (last + 1)).map (·.row) =
      (source.candles.take (last + 1)).map (·.row)
  versions : ∀ bar, source.candles[last]? = some bar →
    versionsUntil other bar.ts.instant = versionsUntil source bar.ts.instant

/-! ## Versions -/

namespace ExperimentInput

variable (source : ExperimentInput)

section

variable {earlier later : ℕ} {bar next : RecordedBar}
variable (found : source.candles[earlier]? = some bar)
variable (foundLater : source.candles[later]? = some next)

include earlier later bar next found foundLater

theorem ts_lt (less : earlier < later) :
    bar.ts.instant < next.ts.instant := by
  have here := source.ts_eq found
  have there := source.ts_eq foundLater
  have cast : (earlier : ℤ) < later := by exact_mod_cast less
  unfold hour at here there
  omega

theorem ts_le (le : earlier ≤ later) :
    bar.ts.instant ≤ next.ts.instant := by
  rcases le.eq_or_lt with rfl | less
  · rw [found] at foundLater
    cases foundLater
    exact le_rfl
  · exact (source.ts_lt found foundLater less).le

end

/-- The versions of a schedule take effect one after the other, the first one
with the first scored bar. -/
theorem rulebooks_ordered (ruled : source.benchmark = .aiRulebook) :
    (source.rulebooks.Pairwise fun version later =>
      version.effectiveFrom.instant < later.effectiveFrom.instant) ∧
    ∀ first, source.rulebooks.head? = some first →
      ∃ bar, source.candles[source.scoredIndex]? = some bar ∧
        first.effectiveFrom.instant = bar.ts.instant := by
  have schedule := source.ruled
  rw [if_pos ruled] at schedule
  obtain ⟨indices, start, increasing, placed⟩ := schedule.placed
  constructor
  · have optional : (source.rulebooks.map fun version =>
        some version.effectiveFrom.instant).Pairwise fun left right =>
          ∀ moment ∈ left, ∀ other ∈ right, moment < other := by
      rw [placed, List.pairwise_map]
      apply increasing.imp
      intro earlier later less moment here other there
      obtain ⟨bar, found, rfl⟩ := Option.map_eq_some_iff.mp here
      obtain ⟨next, foundLater, rfl⟩ := Option.map_eq_some_iff.mp there
      exact source.ts_lt found foundLater less
    rw [List.pairwise_map] at optional
    exact optional.imp fun less => less _ rfl _ rfl
  · intro first head
    have heads := congrArg List.head? placed
    rw [List.head?_map, List.head?_map, head, start] at heads
    obtain ⟨bar, found, same⟩ :=
      Option.map_eq_some_iff.mp (Option.some.inj heads).symm
    exact ⟨bar, found, same.symm⟩

end ExperimentInput

theorem takeWhile_eq_filter {versions : List RulebookVersion} {ts : ℤ}
    (ordered : versions.Pairwise fun version later =>
      version.effectiveFrom.instant < later.effectiveFrom.instant) :
    (versions.takeWhile fun version =>
        decide (version.effectiveFrom.instant ≤ ts)) =
      versions.filter fun version =>
        decide (version.effectiveFrom.instant ≤ ts) := by
  induction versions with
  | nil => rfl
  | cons version rest induction =>
      obtain ⟨later, tail⟩ := List.pairwise_cons.mp ordered
      by_cases effective : version.effectiveFrom.instant ≤ ts
      · rw [List.takeWhile_cons_of_pos (by simpa using effective),
          List.filter_cons_of_pos (by simpa using effective), induction tail]
      · rw [List.takeWhile_cons_of_neg (by simpa using effective),
          List.filter_cons_of_neg (by simpa using effective)]
        symm
        rw [List.filter_eq_nil_iff]
        intro other member
        have after := later other member
        simp only [decide_eq_true_eq]
        omega

theorem activeVersion_eq {source : ExperimentInput}
    (ruled : source.benchmark = .aiRulebook) {sequence : ℕ}
    {bar : RecordedBar} (found : source.candles[sequence]? = some bar)
    (scored : source.scoredIndex ≤ sequence) :
    activeVersion source.rulebooks bar.ts.instant =
      (versionsUntil source bar.ts.instant).getLast? := by
  obtain ⟨ordered, starts⟩ := source.rulebooks_ordered ruled
  unfold versionsUntil
  cases versions : source.rulebooks with
  | nil => rfl
  | cons first later =>
      rw [versions] at ordered
      obtain ⟨startBar, startFound, start⟩ := starts first
        (by rw [versions]; rfl)
      have effective : first.effectiveFrom.instant ≤ bar.ts.instant := by
        rw [start]
        exact source.ts_le startFound found scored
      unfold activeVersion
      dsimp only
      rw [takeWhile_eq_filter (List.pairwise_cons.mp ordered).2,
        List.filter_cons_of_pos (by simpa using effective),
        List.getLast?_cons, List.getLastD_eq_getLast?]

namespace SeenAlike

variable {source other : ExperimentInput} {last sequence : ℕ}

theorem bar (alike : SeenAlike source other last) (within : sequence ≤ last)
    {bar : RecordedBar} (found : source.candles[sequence]? = some bar) :
    ∃ row, other.candles[sequence]? = some { bar with row := row } := by
  have candles := congrArg (fun candles => candles[sequence]?) alike.bars
  rw [List.getElem?_map, List.getElem?_map,
    List.getElem?_take_of_lt (by omega), List.getElem?_take_of_lt (by omega),
    found] at candles
  obtain ⟨next, foundNext, same⟩ := Option.map_eq_some_iff.mp candles
  refine ⟨next.row, ?_⟩
  dsimp only at same
  rw [foundNext, ← same]

theorem closedBars_map {β : Type} {f : RecordedBar → β} (count : ℕ)
    (same : (other.candles.take (last + 1)).map f =
      (source.candles.take (last + 1)).map f) (within : sequence ≤ last) :
    (closedBars other sequence count).map f =
      (closedBars source sequence count).map f := by
  have earlier : ∀ candles : List RecordedBar,
      (candles.take (sequence + 1)).map f =
        ((candles.take (last + 1)).map f).take (sequence + 1) := by
    intro candles
    rw [← List.map_take, List.take_take, min_eq_left (by omega)]
  unfold closedBars
  rw [List.map_drop, List.map_drop, earlier, earlier, same]

theorem closes (alike : SeenAlike source other last)
    (within : sequence ≤ last) (count : ℕ) :
    (closedBars other sequence count).map (·.close) =
      (closedBars source sequence count).map (·.close) := by
  have candles := closedBars_map count alike.bars within
  have seen := congrArg (List.map Candle.close) candles
  rwa [List.map_map, List.map_map] at seen

theorem active (alike : SeenAlike source other last)
    (ruled : source.benchmark = .aiRulebook) (within : sequence ≤ last)
    {bar : RecordedBar} (found : source.candles[sequence]? = some bar)
    (exists_ : last < source.candles.length)
    (scored : source.scoredIndex ≤ sequence) :
    activeVersion other.rulebooks bar.ts.instant =
      activeVersion source.rulebooks bar.ts.instant := by
  obtain ⟨row, foundOther⟩ := alike.bar within found
  have lastFound := List.getElem?_eq_getElem exists_
  have until_ := source.ts_le found lastFound within
  have seen := alike.versions _ lastFound
  have versions : versionsUntil other bar.ts.instant =
      versionsUntil source bar.ts.instant := by
    have sooner : ∀ input : ExperimentInput,
        versionsUntil input bar.ts.instant =
          (versionsUntil input source.candles[last].ts.instant).filter
            fun version =>
              decide (version.effectiveFrom.instant ≤ bar.ts.instant) := by
      intro input
      unfold versionsUntil
      rw [List.filter_filter]
      apply List.filter_congr
      intro version _
      rw [← Bool.decide_and]
      congr 1
      rw [eq_iff_iff]
      constructor
      · exact fun effective => ⟨effective, effective.trans until_⟩
      · exact And.left
    rw [sooner, sooner, seen]
  have here := activeVersion_eq ruled found scored
  have there := activeVersion_eq (alike.benchmark.trans ruled) foundOther
    (alike.scoredIndex.le.trans scored)
  dsimp only at there
  rw [here, there, versions]

theorem endsAt (alike : SeenAlike source other last) (bar : RecordedBar)
    (row : Json) :
    other.endsAt { bar with row := row } = source.endsAt bar := by
  have ends : ∀ (input : ExperimentInput) (bar : RecordedBar),
      input.endsAt bar =
        (((input.candles.map (·.ts)).getLast?).getD bar.ts).plus hour := by
    intro input bar
    unfold ExperimentInput.endsAt
    rw [List.getLast?_map]
    cases input.candles.getLast? <;> rfl
  rw [ends, ends, alike.times]

end SeenAlike

end GptTrader
