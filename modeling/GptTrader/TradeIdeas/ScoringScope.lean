import GptTrader.Library.KeyedLists
import GptTrader.TradeIdeas.Scoring

/-!
# What a score looks at

Both scorers look at the candles they admit only, in no order but that of time, and a
score that ends at the stop or the target does not look past its exit.  A target is
only reported for a candle after the entry, when no candle up to it touches the stop.
-/

namespace GptTrader

namespace Scoring

/-! ## Candles in time order -/

section Candles

variable {bars other : List PriceBar}

theorem sortedBars_perm (nodup : (bars.map PriceBar.ts).Nodup)
    (same : bars.Perm other) : sortedBars bars = sortedBars other := by
  apply InTimeOrder.ext (sortedBars_inTimeOrder nodup)
  · apply sortedBars_inTimeOrder
    exact ((same.map PriceBar.ts).nodup_iff).mp nodup
  · intro bar
    rw [mem_sortedBars, mem_sortedBars]
    exact same.mem_iff

theorem filter_sortedBars (keep : PriceBar → Bool) (bars : List PriceBar) :
    (sortedBars bars).filter keep = sortedBars (bars.filter keep) := by
  exact KeyedLists.filter_insertionSort keep bars

theorem sortedBars_split (bars : List PriceBar) (time : ℤ) :
    sortedBars bars =
      (sortedBars bars).filter (fun bar => decide (bar.ts ≤ time)) ++
        (sortedBars bars).filter fun bar => decide (time < bar.ts) := by
  have sorted : (sortedBars bars).Pairwise fun left right => left.ts ≤ right.ts :=
    List.pairwise_insertionSort _ bars
  generalize sortedBars bars = walked at sorted
  induction walked with
  | nil => rfl
  | cons bar rest induction =>
      obtain ⟨least, tail⟩ := List.pairwise_cons.mp sorted
      by_cases early : bar.ts ≤ time
      · rw [List.filter_cons_of_pos (by simpa using early),
          List.filter_cons_of_neg (by simpa using early), List.cons_append,
          ← induction tail]
      · have late : ∀ other ∈ bar :: rest, time < other.ts := by
          intro other member
          rcases List.mem_cons.mp member with rfl | later
          · exact not_le.mp early
          · exact lt_of_lt_of_le (not_le.mp early) (least other later)
        have none : (bar :: rest).filter (fun bar => decide (bar.ts ≤ time)) = [] := by
          rw [List.filter_eq_nil_iff]
          intro other member
          simpa using late other member
        have all : (bar :: rest).filter (fun bar => decide (time < bar.ts)) =
            bar :: rest := by
          rw [List.filter_eq_self]
          intro other member
          simpa using late other member
        rw [none, all, List.nil_append]

end Candles

/-! ## Touches and the first exit -/

section Exits

variable {direction : TradeDirection} {levels : ScoringLevels}

def TouchesStop (direction : TradeDirection) (levels : ScoringLevels)
    (candle : PriceBar) : Prop :=
  if direction = .long then candle.low ≤ levels.stop else levels.stop ≤ candle.high

def TouchesTarget (direction : TradeDirection) (levels : ScoringLevels)
    (candle : PriceBar) : Prop :=
  if direction = .long then levels.target ≤ candle.high
  else candle.low ≤ levels.target

instance (direction : TradeDirection) (levels : ScoringLevels) :
    DecidablePred (TouchesStop direction levels) := by
  intro candle
  unfold TouchesStop
  infer_instance

instance (direction : TradeDirection) (levels : ScoringLevels) :
    DecidablePred (TouchesTarget direction levels) := by
  intro candle
  unfold TouchesTarget
  infer_instance

theorem barOutcomePrice_eq (candle : PriceBar) (favorable adverse : Bool) :
    barOutcomePrice direction candle levels favorable adverse =
      if adverse = true ∧ TouchesStop direction levels candle then
        some (.stopHit, levels.stop)
      else if favorable = true ∧ TouchesTarget direction levels candle then
        some (.targetHit, levels.target)
      else none := by
  unfold barOutcomePrice TouchesStop TouchesTarget
  by_cases long : direction = .long
  · simp only [if_pos long]
  · simp only [if_neg long]

theorem barOutcomePrice_cases {candle : PriceBar} {favorable adverse : Bool}
    {outcome : ReplayOutcome} {price : ℚ}
    (exits : barOutcomePrice direction candle levels favorable adverse =
      some (outcome, price)) :
    (outcome = .stopHit ∧ price = levels.stop ∧
        TouchesStop direction levels candle) ∨
      (outcome = .targetHit ∧ price = levels.target ∧ favorable = true ∧
        TouchesTarget direction levels candle ∧
        ¬(adverse = true ∧ TouchesStop direction levels candle)) := by
  rw [barOutcomePrice_eq] at exits
  split at exits
  · next stops =>
      cases exits
      exact .inl ⟨rfl, rfl, stops.2⟩
  · next open' =>
      split at exits
      · next reaches =>
          cases exits
          exact .inr ⟨rfl, rfl, reaches.1, reaches.2, open'⟩
      · cases exits

theorem firstExit_eq_some {bars : ℕ} {candles : List PriceBar} {count : ℕ}
    {candle : PriceBar} {outcome : ReplayOutcome} {price : ℚ}
    (exits : firstExit direction levels false bars candles =
      some (count, candle, outcome, price)) :
    ∃ before after, candles = before ++ candle :: after ∧
      (∀ other ∈ before, barOutcomePrice direction other levels true true = none) ∧
      barOutcomePrice direction candle levels true true =
        some (outcome, price) := by
  induction candles generalizing bars with
  | nil => cases exits
  | cons first rest induction =>
      unfold firstExit at exits
      split at exits
      · next found =>
          cases exits
          exact ⟨[], rest, rfl, by simp, found⟩
      · next stays =>
          obtain ⟨before, after, rfl, none, found⟩ := induction exits
          refine ⟨first :: before, after, rfl, ?_, found⟩
          intro other member
          rcases List.mem_cons.mp member with rfl | later
          · exact stays
          · exact none other later

theorem firstExit_mem {isEntry : Bool} {bars : ℕ} {candles : List PriceBar}
    {count : ℕ} {candle : PriceBar} {outcome : ReplayOutcome} {price : ℚ}
    (exits : firstExit direction levels isEntry bars candles =
      some (count, candle, outcome, price)) : candle ∈ candles := by
  induction candles generalizing isEntry bars with
  | nil => cases exits
  | cons first rest induction =>
      unfold firstExit at exits
      split at exits
      · cases exits
        exact List.mem_cons_self
      · exact List.mem_cons_of_mem _ (induction exits)

theorem firstExit_append {isEntry : Bool} {bars : ℕ}
    {candles : List PriceBar} (later : List PriceBar)
    {exit : ℕ × PriceBar × ReplayOutcome × ℚ}
    (exits : firstExit direction levels isEntry bars candles = some exit) :
    firstExit direction levels isEntry bars (candles ++ later) = some exit := by
  induction candles generalizing isEntry bars with
  | nil => cases exits
  | cons first rest induction =>
      rw [List.cons_append]
      unfold firstExit at exits ⊢
      split at exits
      · exact exits
      · exact induction exits

theorem firstExit_append_mem {isEntry : Bool} {bars : ℕ}
    {candles later : List PriceBar} {count : ℕ} {candle : PriceBar}
    {outcome : ReplayOutcome} {price : ℚ}
    (stays : firstExit direction levels isEntry bars candles = none)
    (exits : firstExit direction levels isEntry bars (candles ++ later) =
      some (count, candle, outcome, price)) : candle ∈ later := by
  induction candles generalizing isEntry bars with
  | nil => exact firstExit_mem exits
  | cons first rest induction =>
      rw [List.cons_append] at exits
      unfold firstExit at stays exits
      split at stays
      · cases stays
      · next found =>
          rw [found] at exits
          exact induction stays exits

end Exits

/-! ## Results -/

section Results

variable {recordHash : TradeIdea → String} {idea : TradeIdea}
variable {levels : ScoringLevels} {returned : ReplayResult}

theorem result_eq_ok {asOf : ℤ} {outcome : ReplayOutcome}
    {entryTime exitTime : Option ℤ} {entryPrice exitPrice : Option ℚ} {bars : ℕ}
    (built : result recordHash idea asOf levels outcome entryTime entryPrice exitTime
      exitPrice bars = .ok returned) :
    returned.outcome = outcome ∧ returned.entryTime = entryTime ∧
      returned.exitTime = exitTime := by
  unfold result at built
  split at built
  · cases built
  · cases built
    exact ⟨rfl, rfl, rfl⟩

def Exited (outcome : ReplayOutcome) : Prop :=
  outcome = .stopHit ∨ outcome = .targetHit

theorem scoreFromFill_cases {filledAt : ℤ} {fillPrice : Option ℚ}
    {candles : List PriceBar}
    (scored : scoreFromFill recordHash idea filledAt fillPrice levels candles =
      .ok returned) :
    (∃ count candle outcome price,
      firstExit idea.direction levels false 1 candles =
        some (count, candle, outcome, price) ∧
      returned.outcome = outcome ∧ returned.exitTime = some candle.ts) ∨
    (firstExit idea.direction levels false 1 candles = none ∧
      ¬Exited returned.outcome) := by
  cases candles with
  | nil =>
      right
      obtain ⟨outcome, _, _⟩ := result_eq_ok scored
      refine ⟨rfl, ?_⟩
      rw [outcome]
      rintro (same | same) <;> cases same
  | cons first rest =>
      unfold scoreFromFill at scored
      dsimp only at scored
      split at scored
      · next count candle outcome price exits =>
          left
          obtain ⟨same, _, exit⟩ := result_eq_ok scored
          exact ⟨count, candle, outcome, price, exits, same, exit⟩
      · next stays =>
          right
          obtain ⟨outcome, _, _⟩ := result_eq_ok scored
          refine ⟨stays, ?_⟩
          rw [outcome]
          rintro (same | same) <;> cases same

theorem scoreFromFill_exit {filledAt : ℤ} {fillPrice : Option ℚ}
    {candles : List PriceBar} {count : ℕ} {candle : PriceBar}
    {outcome : ReplayOutcome} {price : ℚ}
    (exits : firstExit idea.direction levels false 1 candles =
      some (count, candle, outcome, price)) :
    scoreFromFill recordHash idea filledAt fillPrice levels candles =
      result recordHash idea filledAt levels outcome (some filledAt)
        (some (fillPrice.getD levels.entryMidpoint)) (some candle.ts) (some price)
        count := by
  cases candles with
  | nil => cases exits
  | cons first rest =>
      unfold scoreFromFill
      dsimp only
      rw [exits]

theorem scoreFromFill_append {filledAt time : ℤ} {fillPrice : Option ℚ}
    {kept later : List PriceBar} (other : List PriceBar)
    (scored : scoreFromFill recordHash idea filledAt fillPrice levels
      (kept ++ later) = .ok returned)
    (exited : Exited returned.outcome) (exit : returned.exitTime = some time)
    (after : ∀ candle ∈ later, time < candle.ts) :
    scoreFromFill recordHash idea filledAt fillPrice levels (kept ++ other) =
      .ok returned := by
  rcases scoreFromFill_cases scored with
    ⟨count, candle, outcome, price, exits, _, exitTime⟩ | ⟨_, stays⟩
  · rw [exitTime] at exit
    cases exit
    rcases stays : firstExit idea.direction levels false 1 kept with _ | found
    · have late := after candle (firstExit_append_mem stays exits)
      exact absurd late (lt_irrefl _)
    · have same := firstExit_append later stays
      rw [exits] at same
      cases same
      rw [scoreFromFill_exit exits] at scored
      rw [scoreFromFill_exit (firstExit_append other stays)]
      exact scored
  · exact absurd exited stays

def Enters (levels : ScoringLevels) (candle : PriceBar) : Prop :=
  candle.low ≤ levels.entryMidpoint ∧ levels.entryMidpoint ≤ candle.high

def EntersAt (levels : ScoringLevels) (candles before : List PriceBar)
    (entry : PriceBar) (after : List PriceBar) : Prop :=
  candles = before ++ entry :: after ∧ Enters levels entry ∧
    ∀ candle ∈ before, ¬Enters levels candle

theorem firstEntryCandle_eq_some {candles : List PriceBar} {entry : PriceBar} :
    firstEntryCandle candles levels = some entry ↔
      ∃ before after, EntersAt levels candles before entry after := by
  unfold firstEntryCandle
  rw [List.find?_eq_some_iff_append]
  constructor
  · rintro ⟨enters, before, after, rfl, none⟩
    refine ⟨before, after, rfl, by simpa [Enters] using enters, ?_⟩
    intro candle member
    have outside := none candle member
    rwa [Bool.not_eq_true', decide_eq_false_iff_not] at outside
  · rintro ⟨before, after, rfl, enters, none⟩
    refine ⟨by simpa [Enters] using enters, before, after, rfl, ?_⟩
    intro candle member
    rw [Bool.not_eq_true', decide_eq_false_iff_not]
    exact none candle member

theorem EntersAt.index {candles before after : List PriceBar} {entry : PriceBar}
    (enters : EntersAt levels candles before entry after) :
    candles.idxOf entry = before.length ∧
      candles.drop before.length = entry :: after := by
  obtain ⟨rfl, inside, outside⟩ := enters
  have absent : entry ∉ before := by
    intro member
    exact outside entry member inside
  constructor
  · rw [List.idxOf_append_of_notMem absent, List.idxOf_cons_self, Nat.add_zero]
  · exact List.drop_left

theorem scoreFromEntry_exit {asOf : ℤ} {candles before after : List PriceBar}
    {entry candle : PriceBar} {count : ℕ} {outcome : ReplayOutcome} {price : ℚ}
    (enters : EntersAt levels candles before entry after)
    (exits : firstExit idea.direction levels true 1 (entry :: after) =
      some (count, candle, outcome, price)) :
    scoreFromEntry recordHash idea asOf levels candles =
      result recordHash idea asOf levels outcome (some entry.ts)
        (some levels.entryMidpoint) (some candle.ts) (some price)
        (before.length + count) := by
  obtain ⟨index, dropped⟩ := enters.index
  have found := firstEntryCandle_eq_some.mpr ⟨before, after, enters⟩
  have filled : candles.isEmpty = false := by
    rw [enters.1]
    cases before <;> rfl
  unfold scoreFromEntry
  rw [filled, found]
  dsimp only
  rw [index, dropped, exits]
  simp

/-- A score from the entry zone that ends at the stop or the target enters at the
first candle that can and exits at the first exit after it. -/
theorem scoreFromEntry_cases {asOf : ℤ} {candles : List PriceBar}
    (scored : scoreFromEntry recordHash idea asOf levels candles = .ok returned)
    (exited : Exited returned.outcome) :
    ∃ before entry after count candle price,
      EntersAt levels candles before entry after ∧
      firstExit idea.direction levels true 1 (entry :: after) =
        some (count, candle, returned.outcome, price) ∧
      returned.entryTime = some entry.ts ∧
      returned.exitTime = some candle.ts := by
  have not : ∀ outcome, ¬Exited outcome → returned.outcome ≠ outcome := by
    rintro outcome other rfl
    exact other exited
  unfold scoreFromEntry at scored
  split at scored
  · exact absurd (result_eq_ok scored).1 (not _ (by simp [Exited]))
  · split at scored
    · exact absurd (result_eq_ok scored).1 (not _ (by simp [Exited]))
    · next entry found =>
        obtain ⟨before, after, enters⟩ := firstEntryCandle_eq_some.mp found
        obtain ⟨index, dropped⟩ := enters.index
        dsimp only at scored
        rw [index, dropped] at scored
        split at scored
        · next count candle outcome price exits =>
            obtain ⟨rfl, entered, exit⟩ := result_eq_ok scored
            exact ⟨before, entry, after, count, candle, price, enters, exits,
              entered, exit⟩
        · exact absurd (result_eq_ok scored).1 (not _ (by simp [Exited]))

/-- A score from the entry zone that ends at the stop or the target does not look
past its exit. -/
theorem scoreFromEntry_append {asOf time : ℤ} {kept later : List PriceBar}
    (other : List PriceBar)
    (scored : scoreFromEntry recordHash idea asOf levels (kept ++ later) =
      .ok returned)
    (exited : Exited returned.outcome) (exit : returned.exitTime = some time)
    (after : ∀ candle ∈ later, time < candle.ts) :
    scoreFromEntry recordHash idea asOf levels (kept ++ other) = .ok returned := by
  obtain ⟨earlier, entry, rest, count, candle, price, enters, exits, _, exitTime⟩ :=
    scoreFromEntry_cases scored exited
  rw [exitTime] at exit
  cases exit
  rw [scoreFromEntry_exit enters exits] at scored
  obtain ⟨whole, inside, outside⟩ := enters
  have late : ∀ found ∈ later, found ≠ candle := by
    rintro found member rfl
    exact lt_irrefl _ (after found member)
  rcases List.append_eq_append_iff.mp whole with
    ⟨between, rfl, tail⟩ | ⟨between, rfl, tail⟩
  · -- the entry candle is among the later ones, and so is the exit
    exact absurd rfl (late candle (by
      rw [tail]
      exact List.mem_append_right _ (firstExit_mem exits)))
  · cases between with
    | nil =>
        exact absurd rfl (late candle (by
          rw [← List.nil_append later, ← tail]
          exact firstExit_mem exits))
    | cons first middle =>
        rw [List.cons_append] at tail
        obtain ⟨rfl, rfl⟩ := List.cons.inj tail
        have entersToo : EntersAt levels (earlier ++ entry :: middle ++ other) earlier
            entry (middle ++ other) := by
          refine ⟨?_, inside, outside⟩
          rw [List.append_assoc, List.cons_append]
        rcases stays : firstExit idea.direction levels true 1 (entry :: middle) with
          _ | found
        · exact absurd rfl (late candle (firstExit_append_mem stays exits))
        · have same := firstExit_append later stays
          rw [List.cons_append, exits] at same
          cases same
          have exitsToo := firstExit_append other stays
          rw [List.cons_append] at exitsToo
          rw [scoreFromEntry_exit entersToo exitsToo]
          exact scored

end Results

/-! ## What both scorers look at -/

/-- A scorer that looks at nothing but the admitted candles, in any order, up to its
exit. -/
structure LooksAtAdmitted (admitted : PriceBar → Bool)
    (score : List PriceBar → Except ReplayScoringError ReplayResult) : Prop where
  reordered : ∀ candles other : List PriceBar,
    (candles.map PriceBar.ts).Nodup → candles.Perm other →
    score other = score candles
  replaced : ∀ candles other : List PriceBar, (candles.map PriceBar.ts).Nodup →
    (candles.filter admitted).Perm (other.filter admitted) →
    score other = score candles
  exited : ∀ (candles other : List PriceBar) returned time, (candles.map PriceBar.ts).Nodup →
    score candles = .ok returned → Exited returned.outcome →
    returned.exitTime = some time →
    (candles.filter fun candle => admitted candle && decide (candle.ts ≤ time)).Perm
      (other.filter fun candle => admitted candle && decide (candle.ts ≤ time)) →
    score other = .ok returned

/-- A scorer that sorts the admitted candles looks at nothing else, when a score of
the sorted ones does not look past its exit. -/
theorem looksAtAdmitted_of_sorted {admitted : PriceBar → Bool}
    (score : List PriceBar → Except ReplayScoringError ReplayResult)
    (append : ∀ kept later other returned time, score (kept ++ later) = .ok returned →
      Exited returned.outcome → returned.exitTime = some time →
      (∀ candle ∈ later, time < candle.ts) → score (kept ++ other) = .ok returned) :
    LooksAtAdmitted admitted fun candles =>
      score (sortedBars (candles.filter admitted)) := by
  have nodupFilter : ∀ {candles : List PriceBar} (keep : PriceBar → Bool),
      (candles.map PriceBar.ts).Nodup →
      ((candles.filter keep).map PriceBar.ts).Nodup := by
    intro candles keep nodup
    exact nodup.sublist (List.filter_sublist.map PriceBar.ts)
  have replaced : ∀ candles other : List PriceBar, (candles.map PriceBar.ts).Nodup →
      (candles.filter admitted).Perm (other.filter admitted) →
      score (sortedBars (other.filter admitted)) =
        score (sortedBars (candles.filter admitted)) := by
    intro candles other nodup same
    rw [sortedBars_perm (nodupFilter admitted nodup) same]
  constructor
  case reordered =>
    intro candles other nodup same
    exact replaced candles other nodup (same.filter admitted)
  case replaced => exact replaced
  case exited =>
    intro candles other returned time nodup scored exited exit same
    -- both sorted lists begin with the same candles, those up to the exit
    have kept : (sortedBars (other.filter admitted)).filter
          (fun candle => decide (candle.ts ≤ time)) =
        (sortedBars (candles.filter admitted)).filter
          fun candle => decide (candle.ts ≤ time) := by
      rw [filter_sortedBars, filter_sortedBars, List.filter_filter,
        List.filter_filter]
      simp only [Bool.and_comm (decide _)]
      exact (sortedBars_perm (nodupFilter _ nodup) same).symm
    rw [sortedBars_split _ time] at scored ⊢
    rw [kept]
    apply append _ _ _ _ _ scored exited exit
    intro candle member
    simpa using (List.mem_filter.mp member).2

section Scorers

variable (recordHash : TradeIdea → String)
variable (levelExtractor : TradeIdea → Except ReplayScoringError ScoringLevels)
variable (idea : TradeIdea) (start : ℤ) (candleDuration : Option ℤ)

def admittedFor (candle : PriceBar) : Bool :=
  match idea.timeHorizon.expiresAt with
  | none => false
  | some expiresAt => admits start expiresAt candleDuration candle

/-- A target is reported only for a candle after the entry candle that touches it, when
no candle before it touches the stop after the entry. -/
def TargetEarned (levels : ScoringLevels) (candles : List PriceBar)
    (returned : ReplayResult) : Prop :=
  ∃ entry ∈ candles, ∃ exit ∈ candles,
    admittedFor idea start candleDuration entry = true ∧
    admittedFor idea start candleDuration exit = true ∧
    returned.entryTime = some entry.ts ∧ returned.exitTime = some exit.ts ∧
    entry.ts < exit.ts ∧ TouchesTarget idea.direction levels exit ∧
    ∀ candle ∈ candles, admittedFor idea start candleDuration candle = true →
      entry.ts ≤ candle.ts → candle.ts ≤ exit.ts →
      TouchesStop idea.direction levels candle →
      candle = entry ∧
        entryCandleProvesPrefillStop idea.direction candle levels = true

variable {idea start candleDuration}

/-- A target hit is earned by the candles it is scored on. -/
theorem targetEarned_of_scored {recordHash : TradeIdea → String}
    {levels : ScoringLevels} {expiresAt : ℤ} {candles : List PriceBar}
    {returned : ReplayResult}
    (expires : idea.timeHorizon.expiresAt = some expiresAt)
    (nodup : (candles.map PriceBar.ts).Nodup)
    (scored : scoreFromEntry recordHash idea start levels
      (scoredCandles start expiresAt candleDuration candles) = .ok returned)
    (hit : returned.outcome = .targetHit) :
    TargetEarned idea start candleDuration levels candles returned := by
  have admitted : admittedFor idea start candleDuration =
      admits start expiresAt candleDuration := by
    funext candle
    unfold admittedFor
    rw [expires]
  have ordered : InTimeOrder (scoredCandles start expiresAt candleDuration candles) :=
    sortedBars_inTimeOrder (nodup.sublist (List.filter_sublist.map PriceBar.ts))
  have listed : ∀ candle,
      candle ∈ scoredCandles start expiresAt candleDuration candles ↔
        candle ∈ candles ∧ admittedFor idea start candleDuration candle = true := by
    intro candle
    unfold scoredCandles
    rw [mem_sortedBars, List.mem_filter, admitted]
  obtain ⟨before, entry, after, count, exit, price, enters, exits, entered, ended⟩ :=
    scoreFromEntry_cases scored (.inr hit)
  rw [hit] at exits
  generalize scoredCandles start expiresAt candleDuration candles = walked at *
  obtain ⟨rfl, _, _⟩ := enters
  unfold firstExit at exits
  split at exits
  · next outcome found price found' =>
      -- the entry candle exits at the stop only
      cases exits
      rcases barOutcomePrice_cases found' with ⟨other, _⟩ | ⟨_, _, allowed, _⟩
      · cases other
      · cases allowed
  · next stays =>
      obtain ⟨between, rest, rfl, none, found⟩ := firstExit_eq_some exits
      have entryListed := (listed entry).mp (by simp)
      have exitListed := (listed exit).mp (by simp)
      rcases barOutcomePrice_cases found with ⟨other, _⟩ |
        ⟨_, _, _, reaches, open'⟩
      · cases other
      · have tail := (List.pairwise_append.mp ordered).2.1
        obtain ⟨afterEntry, tail⟩ := List.pairwise_cons.mp tail
        refine ⟨entry, entryListed.1, exit, exitListed.1, entryListed.2,
          exitListed.2, entered, ended, afterEntry exit (by simp), reaches, ?_⟩
        intro candle member allowed from' until' stops
        have walked := (listed candle).mpr ⟨member, allowed⟩
        rcases List.mem_append.mp walked with early | late
        · have sooner := (List.pairwise_append.mp ordered).2.2 candle early entry
            (by simp)
          exact absurd from' (not_le.mpr sooner)
        · rcases List.mem_cons.mp late with rfl | late
          · refine ⟨rfl, ?_⟩
            rw [barOutcomePrice_eq] at stays
            by_contra unproved
            rw [Bool.not_eq_true] at unproved
            simp [unproved, stops] at stays
          · rcases List.mem_append.mp late with inside | later
            · have untouched := none candle inside
              rw [barOutcomePrice_eq] at untouched
              simp [stops] at untouched
            · rcases List.mem_cons.mp later with rfl | later
              · exact absurd ⟨rfl, stops⟩ open'
              · have past := (List.pairwise_append.mp tail).2.1
                have after' := (List.pairwise_cons.mp past).1 candle later
                exact absurd until' (not_le.mpr after')

end Scorers

/-- Both scorers look at the admitted candles only, and a target hit is earned. -/
structure LooksAtNothingElse (recordHash : TradeIdea → String)
    (levelExtractor : TradeIdea → Except ReplayScoringError ScoringLevels)
    (idea : TradeIdea) (start : ℤ) (candleDuration : Option ℤ) : Prop where
  fromEntry : LooksAtAdmitted (admittedFor idea start candleDuration) fun candles =>
    scoreTradeIdea recordHash levelExtractor idea start candles candleDuration
  fromFill : ∀ fillPrice,
    LooksAtAdmitted (admittedFor idea start candleDuration) fun candles =>
      scoreFilledTradeIdea recordHash levelExtractor idea start fillPrice candles
        candleDuration
  earned : ∀ (candles : List PriceBar) returned, (candles.map PriceBar.ts).Nodup →
    scoreTradeIdea recordHash levelExtractor idea start candles candleDuration =
      .ok returned →
    returned.outcome = .targetHit →
    ∃ levels, levelExtractor idea = .ok levels ∧
      TargetEarned idea start candleDuration levels candles returned

theorem scoringPlan_eq_ok
    {levelExtractor : TradeIdea → Except ReplayScoringError ScoringLevels}
    {idea : TradeIdea} {expiresAt : ℤ} {levels : ScoringLevels}
    (planned : scoringPlan levelExtractor idea = .ok (expiresAt, levels)) :
    idea.timeHorizon.expiresAt = some expiresAt ∧
      (idea.direction = .long ∨ idea.direction = .short) ∧
      levelExtractor idea = .ok levels := by
  unfold scoringPlan at planned
  split at planned
  · cases planned
  · next found expires =>
      rw [Outcome.branch_eq_ok, Outcome.map_eq_ok] at planned
      obtain ⟨scoreable, other, extracted, same⟩ := planned
      cases same
      exact ⟨expires, scoreable, extracted⟩

theorem looksAtAdmitted_error {admitted : PriceBar → Bool}
    (error : ReplayScoringError) :
    LooksAtAdmitted admitted fun _ => .error error where
  reordered := fun _ _ _ _ => rfl
  replaced := fun _ _ _ _ => rfl
  exited := by
    intro candles other returned time _ scored
    cases scored

/-- Replay scoring looks at nothing it should not. -/
theorem scores_look_at_nothing_else (recordHash : TradeIdea → String)
    (levelExtractor : TradeIdea → Except ReplayScoringError ScoringLevels)
    (idea : TradeIdea) (start : ℤ) (candleDuration : Option ℤ) :
    LooksAtNothingElse recordHash levelExtractor idea start candleDuration := by
  rcases planned : scoringPlan levelExtractor idea with error | ⟨expiresAt, levels⟩
  · constructor
    case fromEntry =>
      unfold scoreTradeIdea
      rw [planned]
      exact looksAtAdmitted_error error
    case fromFill =>
      intro fillPrice
      unfold scoreFilledTradeIdea
      rw [planned]
      exact looksAtAdmitted_error error
    case earned =>
      intro candles returned _ scored
      unfold scoreTradeIdea at scored
      rw [planned] at scored
      cases scored
  · obtain ⟨expires, _, extracted⟩ := scoringPlan_eq_ok planned
    have admitted : admittedFor idea start candleDuration =
        admits start expiresAt candleDuration := by
      funext candle
      unfold admittedFor
      rw [expires]
    constructor
    case fromEntry =>
      unfold scoreTradeIdea
      rw [planned, admitted]
      apply looksAtAdmitted_of_sorted (scoreFromEntry recordHash idea start levels)
      intro kept later other returned time scored exited exit after
      exact scoreFromEntry_append other scored exited exit after
    case fromFill =>
      intro fillPrice
      unfold scoreFilledTradeIdea
      rw [planned, admitted]
      apply looksAtAdmitted_of_sorted
        (scoreFromFill recordHash idea start fillPrice levels)
      intro kept later other returned time scored exited exit after
      exact scoreFromFill_append other scored exited exit after
    case earned =>
      intro candles returned nodup scored hit
      unfold scoreTradeIdea at scored
      rw [planned] at scored
      exact ⟨levels, extracted, targetEarned_of_scored expires nodup scored hit⟩

end Scoring

end GptTrader
