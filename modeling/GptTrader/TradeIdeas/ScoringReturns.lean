import Mathlib.Algebra.Order.Field.Basic
import Mathlib.Tactic.FieldSimp
import Mathlib.Tactic.Linarith
import Mathlib.Tactic.Positivity
import GptTrader.TradeIdeas.ScoringScope
import GptTrader.TradeIdeas.ServiceRuns

/-!
# The signs of scored returns

The risk of a score is measured from the entry price to the stop.  From a planned
entry it is positive; a recorded fill may lie beyond the stop, where the risk is
negative and the two returns have opposite signs, or beyond the target, where a
target hit loses money.
-/

namespace GptTrader

namespace Scoring

/-- Both are above zero, or both below. -/
def SameSign (left right : ℚ) : Prop :=
  (0 < left ↔ 0 < right) ∧ (left < 0 ↔ right < 0)

/-- `_realized_amount` of the exit monitor. -/
def realizedAmount (direction : TradeDirection) (quantity entry exit : ℚ) : ℚ :=
  quantity * profit direction entry exit

/-- The returns of a score have the sign of the money, and a stop or a target hit
has the sign of its name. -/
structure MoneySigned (returned : ReplayResult) : Prop where
  percent : ∀ r pct, returned.returnR = some r → returned.returnPct = some pct →
    SameSign r pct
  booked : ∀ r entry exit quantity, returned.returnR = some r →
    returned.entryPrice = some entry → returned.exitPrice = some exit →
    0 < quantity →
    SameSign r (realizedAmount returned.direction quantity entry exit)
  stopped : returned.outcome = .stopHit →
    (∀ r, returned.returnR = some r → r ≤ 0) ∧
      ∀ pct, returned.returnPct = some pct → pct ≤ 0
  targeted : returned.outcome = .targetHit →
    (∀ r, returned.returnR = some r → 0 ≤ r) ∧
      ∀ pct, returned.returnPct = some pct → 0 ≤ pct

theorem sameSign_div_of_pos {gain divisor : ℚ} (positive : 0 < divisor) :
    SameSign (gain / divisor) gain := by
  constructor
  · exact div_pos_iff_of_pos_right positive
  · rw [div_lt_iff₀ positive, zero_mul]

theorem SameSign.symm {left right : ℚ} (same : SameSign left right) :
    SameSign right left :=
  ⟨same.1.symm, same.2.symm⟩

theorem SameSign.trans {left middle right : ℚ} (first : SameSign left middle)
    (second : SameSign middle right) : SameSign left right :=
  ⟨first.1.trans second.1, first.2.trans second.2⟩

theorem sameSign_mul_of_pos {gain factor : ℚ} (positive : 0 < factor) :
    SameSign (factor * gain) gain := by
  constructor
  · exact mul_pos_iff_of_pos_left positive
  · rw [← lt_div_iff₀' positive, zero_div]

theorem SameSign.nonpos_iff {left right : ℚ} (same : SameSign left right) :
    left ≤ 0 ↔ right ≤ 0 := by
  rw [← not_lt, ← not_lt, same.1]

theorem SameSign.nonneg_iff {left right : ℚ} (same : SameSign left right) :
    0 ≤ left ↔ 0 ≤ right := by
  rw [← not_lt, ← not_lt, same.2]

theorem sameSign_div_of_neg_iff {gain divisor : ℚ} (negative : divisor < 0) :
    SameSign (gain / divisor) gain ↔ gain = 0 := by
  constructor
  · intro ⟨positive, negative'⟩
    rcases lt_trichotomy gain 0 with below | none | above
    · have ratio : 0 < gain / divisor := div_pos_of_neg_of_neg below negative
      exact absurd (positive.mp ratio) (not_lt.mpr below.le)
    · exact none
    · have ratio : gain / divisor < 0 := div_neg_of_pos_of_neg above negative
      exact absurd (negative'.mp ratio) (not_lt.mpr above.le)
  · rintro rfl
    rw [zero_div]
    exact ⟨Iff.rfl, Iff.rfl⟩

section Exit

variable {returned : ReplayResult} {entry exit : ℚ}

/-- When the returns of an exit have the sign of the money: the risk is not negative,
or nothing is gained, and the gain suits the outcome. -/
theorem moneySigned_iff (levels : ScoringLevels) (positive : 0 < entry)
    (entered : returned.entryPrice = some entry)
    (exited : returned.exitPrice = some exit)
    (hasR : returned.returnR =
      returnR returned.direction levels (some entry) (some exit))
    (hasPct : returned.returnPct =
      returnPct returned.direction (some entry) (some exit)) :
    MoneySigned returned ↔
      (risk returned.direction levels entry < 0 →
        profit returned.direction entry exit = 0) ∧
      (returned.outcome = .stopHit → profit returned.direction entry exit ≤ 0) ∧
      (returned.outcome = .targetHit →
        0 ≤ profit returned.direction entry exit) := by
  have percent : SameSign (profit returned.direction entry exit / entry * 100)
      (profit returned.direction entry exit) := by
    rw [mul_comm]
    exact (sameSign_mul_of_pos (by norm_num)).trans (sameSign_div_of_pos positive)
  have pct : returned.returnPct =
      some (profit returned.direction entry exit / entry * 100) := by
    rw [hasPct]
    exact if_pos positive.ne'
  constructor
  · intro signed
    refine ⟨?_, ?_, ?_⟩
    · intro negative
      have r : returned.returnR = some (profit returned.direction entry exit /
          risk returned.direction levels entry) := by
        rw [hasR]
        exact if_pos negative.ne
      rw [← sameSign_div_of_neg_iff negative]
      exact (signed.percent _ _ r pct).trans percent
    · intro stop
      exact percent.nonpos_iff.mp ((signed.stopped stop).2 _ pct)
    · intro target
      exact percent.nonneg_iff.mp ((signed.targeted target).2 _ pct)
  · rintro ⟨suits, stops, targets⟩
    have ratio : ∀ r, returned.returnR = some r →
        SameSign r (profit returned.direction entry exit) := by
      intro r found
      rw [hasR] at found
      unfold returnR at found
      dsimp only at found
      split at found
      · next some' =>
          cases found
          rcases lt_or_gt_of_ne some' with negative | above
          · exact (sameSign_div_of_neg_iff negative).mpr (suits negative)
          · exact sameSign_div_of_pos above
      · cases found
    constructor
    case percent =>
      intro r other foundR foundPct
      rw [pct] at foundPct
      cases foundPct
      exact (ratio r foundR).trans percent.symm
    case booked =>
      intro r from' to' quantity foundR foundEntry foundExit some'
      rw [entered] at foundEntry
      rw [exited] at foundExit
      cases foundEntry
      cases foundExit
      exact (ratio r foundR).trans (sameSign_mul_of_pos some').symm
    case stopped =>
      intro stop
      constructor
      · intro r found
        exact (ratio r found).nonpos_iff.mpr (stops stop)
      · intro other found
        rw [pct] at found
        cases found
        exact percent.nonpos_iff.mpr (stops stop)
    case targeted =>
      intro target
      constructor
      · intro r found
        exact (ratio r found).nonneg_iff.mpr (targets target)
      · intro other found
        rw [pct] at found
        cases found
        exact percent.nonneg_iff.mpr (targets target)

end Exit

/-! ## Scores from a fill -/

section Fill

variable {direction : TradeDirection} {levels : ScoringLevels}

/-- The fill is past the stop. -/
def BeyondStop (direction : TradeDirection) (levels : ScoringLevels) (fill : ℚ) :
    Prop :=
  if direction = .long then fill < levels.stop else levels.stop < fill

def BeyondTarget (direction : TradeDirection) (levels : ScoringLevels) (fill : ℚ) :
    Prop :=
  if direction = .long then levels.target < fill else fill < levels.target

theorem risk_neg_iff {fill : ℚ} :
    risk direction levels fill < 0 ↔ BeyondStop direction levels fill := by
  unfold risk BeyondStop
  split
  · exact sub_neg
  · exact sub_neg

theorem profit_stop {fill : ℚ} :
    profit direction fill levels.stop = -risk direction levels fill := by
  unfold profit risk
  split
  · exact (neg_sub _ _).symm
  · exact (neg_sub _ _).symm

theorem profit_target_neg_iff {fill : ℚ} :
    profit direction fill levels.target < 0 ↔
      BeyondTarget direction levels fill := by
  unfold profit BeyondTarget
  split
  · exact sub_neg
  · exact sub_neg

theorem profit_eq_zero_iff {fill exit : ℚ} :
    profit direction fill exit = 0 ↔ exit = fill := by
  unfold profit
  split
  · exact sub_eq_zero
  · exact sub_eq_zero.trans eq_comm

theorem profit_target_pos (scoreable : direction = .long ∨ direction = .short)
    (ordered : LevelsOrdered direction levels) {fill : ℚ}
    (beyond : BeyondStop direction levels fill) :
    0 < profit direction fill levels.target := by
  unfold LevelsOrdered at ordered
  unfold BeyondStop at beyond
  unfold profit
  rcases scoreable with rfl | rfl
  · rw [if_pos rfl] at beyond ⊢
    dsimp only at ordered
    linarith
  · rw [if_neg (by decide)] at beyond ⊢
    dsimp only at ordered
    linarith

/-- The candle reaches the stop or the target. -/
def Touches (direction : TradeDirection) (levels : ScoringLevels)
    (candle : PriceBar) : Prop :=
  TouchesStop direction levels candle ∨ TouchesTarget direction levels candle

/-- The stop is reached no later than the target. -/
def StopsFirst (direction : TradeDirection) (levels : ScoringLevels)
    (candles : List PriceBar) : Prop :=
  ∀ before candle after, candles = before ++ candle :: after →
    (∀ other ∈ before, ¬Touches direction levels other) →
    Touches direction levels candle → TouchesStop direction levels candle

/-- The fill lies within the levels, or beyond the target with the stop touched
first, or beyond the stop with no touch and nothing gained. -/
def FillSuits (direction : TradeDirection) (levels : ScoringLevels) (fill : ℚ)
    (candles : List PriceBar) : Prop :=
  (BeyondStop direction levels fill →
    (∀ candle ∈ candles, ¬Touches direction levels candle) ∧
      ∀ last ∈ candles.getLast?, last.close = fill) ∧
  (¬BeyondStop direction levels fill → BeyondTarget direction levels fill →
    StopsFirst direction levels candles)

theorem barOutcomePrice_eq_none_iff {candle : PriceBar} :
    barOutcomePrice direction candle levels true true = none ↔
      ¬Touches direction levels candle := by
  rw [barOutcomePrice_eq]
  unfold Touches
  by_cases stops : TouchesStop direction levels candle
  · simp [stops]
  · by_cases reaches : TouchesTarget direction levels candle
    · simp [stops, reaches]
    · simp [stops, reaches]

theorem firstExit_eq_none {bars : ℕ} {candles : List PriceBar}
    (stays : firstExit direction levels false bars candles = none) :
    ∀ candle ∈ candles, ¬Touches direction levels candle := by
  induction candles generalizing bars with
  | nil => simp
  | cons first rest induction =>
      unfold firstExit at stays
      split at stays
      · cases stays
      · next found =>
          intro candle member
          rcases List.mem_cons.mp member with rfl | later
          · exact barOutcomePrice_eq_none_iff.mp found
          · exact induction stays candle later

theorem stopsFirst_iff {before after : List PriceBar} {candle : PriceBar}
    (none : ∀ other ∈ before, ¬Touches direction levels other)
    (touches : Touches direction levels candle) :
    StopsFirst direction levels (before ++ candle :: after) ↔
      TouchesStop direction levels candle := by
  constructor
  · intro first
    exact first before candle after rfl none touches
  · intro stops earlier other later same clear touched
    rcases List.append_eq_append_iff.mp same with
      ⟨between, rfl, rest⟩ | ⟨between, rfl, rest⟩
    · cases between with
      | nil =>
          obtain ⟨rfl, _⟩ := List.cons.inj rest
          exact stops
      | cons head middle =>
          obtain ⟨rfl, _⟩ := List.cons.inj rest
          exact absurd touches (clear _ (by simp))
    · cases between with
      | nil =>
          obtain ⟨rfl, _⟩ := List.cons.inj rest
          exact stops
      | cons head middle =>
          obtain ⟨rfl, _⟩ := List.cons.inj rest
          exact absurd touched (none _ (by simp))

end Fill

section Scores

variable {recordHash : TradeIdea → String} {idea : TradeIdea}
variable {levels : ScoringLevels} {expiresAt : ℤ}

theorem result_moneySigned_iff {asOf : ℤ} {outcome : ReplayOutcome}
    {entryTime exitTime : Option ℤ} {entry exit : ℚ} {bars : ℕ}
    (expires : idea.timeHorizon.expiresAt = some expiresAt) (positive : 0 < entry) :
    (∃ returned, result recordHash idea asOf levels outcome entryTime (some entry)
        exitTime (some exit) bars = .ok returned ∧ MoneySigned returned) ↔
      (BeyondStop idea.direction levels entry → exit = entry) ∧
      (outcome = .stopHit → profit idea.direction entry exit ≤ 0) ∧
      (outcome = .targetHit → 0 ≤ profit idea.direction entry exit) := by
  unfold result
  rw [expires]
  dsimp only
  constructor
  · rintro ⟨returned, built, signed⟩
    cases built
    obtain ⟨suits, stops, targets⟩ :=
      (moneySigned_iff levels positive rfl rfl rfl rfl).mp signed
    exact ⟨fun beyond => profit_eq_zero_iff.mp (suits (risk_neg_iff.mpr beyond)),
      stops, targets⟩
  · rintro ⟨suits, stops, targets⟩
    refine ⟨_, rfl, ?_⟩
    refine (moneySigned_iff levels positive rfl rfl rfl rfl).mpr ⟨?_, stops, targets⟩
    intro negative
    exact profit_eq_zero_iff.mpr (suits (risk_neg_iff.mp negative))

theorem result_noFutureData {asOf : ℤ}
    (expires : idea.timeHorizon.expiresAt = some expiresAt) :
    ∃ returned, result recordHash idea asOf levels .noFutureData none none none none
      0 = .ok returned ∧ MoneySigned returned := by
  unfold result
  rw [expires]
  refine ⟨_, rfl, ?_, ?_, ?_, ?_⟩
  · intro r pct found
    cases found
  · intro r entry exit quantity found
    cases found
  · intro same
    cases same
  · intro same
    cases same

/-- The signs agree exactly when the fill suits the levels. -/
theorem scoreFromFill_moneySigned_iff {filledAt : ℤ} {fill : ℚ}
    {candles : List PriceBar}
    (expires : idea.timeHorizon.expiresAt = some expiresAt)
    (scoreable : idea.direction = .long ∨ idea.direction = .short)
    (ordered : LevelsOrdered idea.direction levels) (positive : 0 < fill) :
    (∃ returned, scoreFromFill recordHash idea filledAt (some fill) levels candles =
        .ok returned ∧ MoneySigned returned) ↔
      FillSuits idea.direction levels fill candles := by
  rcases exits : firstExit idea.direction levels false 1 candles with
    _ | ⟨count, candle, outcome, price⟩
  · have untouched := firstExit_eq_none exits
    have noStop : StopsFirst idea.direction levels candles := by
      rintro before candle after rfl _ touches
      exact absurd touches (untouched candle (by simp))
    cases candles with
    | nil =>
        refine iff_of_true (result_noFutureData expires) ⟨?_, ?_⟩
        · intro _
          exact ⟨untouched, by simp⟩
        · intro _ _
          exact noStop
    | cons first rest =>
        have timedOut : scoreFromFill recordHash idea filledAt (some fill) levels
            (first :: rest) = result recordHash idea filledAt levels .timedOut
              (some filledAt) (some fill) (some ((first :: rest).getLastD first).ts)
              (some ((first :: rest).getLastD first).close)
              (first :: rest).length := by
          unfold scoreFromFill
          dsimp only
          rw [exits]
          rfl
        have last : (first :: rest).getLast? =
            some ((first :: rest).getLastD first) := by
          rw [List.getLastD_eq_getLast?]
          rw [List.getLast?_cons]
          rfl
        rw [timedOut, result_moneySigned_iff expires positive]
        unfold FillSuits
        rw [last]
        constructor
        · rintro ⟨suits, _⟩
          refine ⟨?_, ?_⟩
          · intro beyond
            refine ⟨untouched, ?_⟩
            intro other same
            cases same
            exact suits beyond
          · intro _ _
            exact noStop
        · rintro ⟨suits, _⟩
          refine ⟨?_, ?_, ?_⟩
          · intro beyond
            exact (suits beyond).2 _ rfl
          · intro same
            cases same
          · intro same
            cases same
  · rw [scoreFromFill_exit exits]
    obtain ⟨before, after, rfl, none, found⟩ := firstExit_eq_some exits
    have clear : ∀ other ∈ before, ¬Touches idea.direction levels other := by
      intro other member
      exact barOutcomePrice_eq_none_iff.mp (none other member)
    rw [Option.getD_some, result_moneySigned_iff expires positive]
    unfold FillSuits
    rcases barOutcomePrice_cases found with ⟨rfl, rfl, stops⟩ |
      ⟨rfl, rfl, _, reaches, open'⟩
    · have touches : Touches idea.direction levels candle := .inl stops
      rw [stopsFirst_iff clear touches]
      constructor
      · rintro ⟨_, loses, _⟩
        have within : ¬BeyondStop idea.direction levels fill := by
          rw [← risk_neg_iff, not_lt]
          have most := loses rfl
          rw [profit_stop] at most
          linarith
        exact ⟨fun beyond => absurd beyond within, fun _ _ => stops⟩
      · rintro ⟨suits, _⟩
        have within : ¬BeyondStop idea.direction levels fill := by
          intro beyond
          exact (suits beyond).1 candle (by simp) touches
        refine ⟨fun beyond => absurd beyond within, ?_, ?_⟩
        · intro _
          rw [← risk_neg_iff, not_lt] at within
          rw [profit_stop]
          linarith
        · intro same
          cases same
    · have touches : Touches idea.direction levels candle := .inr reaches
      have missed : ¬TouchesStop idea.direction levels candle := by
        intro stops
        exact open' ⟨rfl, stops⟩
      rw [stopsFirst_iff clear touches]
      constructor
      · rintro ⟨suits, _, gains⟩
        have within : ¬BeyondStop idea.direction levels fill := by
          intro beyond
          have some' := profit_target_pos scoreable ordered beyond
          rw [profit_eq_zero_iff.mpr (suits beyond)] at some'
          exact lt_irrefl _ some'
        refine ⟨fun beyond => absurd beyond within, ?_⟩
        intro _ beyond
        exact absurd (profit_target_neg_iff.mpr beyond) (not_lt.mpr (gains rfl))
      · rintro ⟨suits, first⟩
        have within : ¬BeyondStop idea.direction levels fill := by
          intro beyond
          exact (suits beyond).1 candle (by simp) touches
        refine ⟨fun beyond => absurd beyond within, ?_, ?_⟩
        · intro same
          cases same
        · intro _
          rw [← not_lt, profit_target_neg_iff]
          intro beyond
          exact missed (first within beyond)

end Scores

/-! ## Scores from the planned entry -/

section Entry

variable {direction : TradeDirection} {levels : ScoringLevels}

theorem firstExit_price {isEntry : Bool} {bars count : ℕ} {candles : List PriceBar}
    {candle : PriceBar} {outcome : ReplayOutcome} {price : ℚ}
    (exits : firstExit direction levels isEntry bars candles =
      some (count, candle, outcome, price)) :
    (outcome = .stopHit ∧ price = levels.stop) ∨
      (outcome = .targetHit ∧ price = levels.target) := by
  induction candles generalizing isEntry bars with
  | nil => cases exits
  | cons first rest induction =>
      unfold firstExit at exits
      split at exits
      · next found =>
          cases exits
          rcases barOutcomePrice_cases found with ⟨stop, price, _⟩ | ⟨target, price, _⟩
          · exact .inl ⟨stop, price⟩
          · exact .inr ⟨target, price⟩
      · exact induction exits

theorem planned_gains (scoreable : direction = .long ∨ direction = .short)
    (ordered : LevelsOrdered direction levels) :
    0 < risk direction levels levels.entryMidpoint ∧
      0 < profit direction levels.entryMidpoint levels.target := by
  unfold LevelsOrdered at ordered
  unfold risk profit
  rcases scoreable with rfl | rfl
  · rw [if_pos rfl, if_pos rfl]
    exact ⟨sub_pos.mpr ordered.1, sub_pos.mpr ordered.2⟩
  · rw [if_neg (by decide), if_neg (by decide)]
    exact ⟨sub_pos.mpr ordered.2, sub_pos.mpr ordered.1⟩

def PlannedReturns (returned : ReplayResult) : Prop :=
  (returned.outcome = .stopHit → returned.returnR = some (-1)) ∧
    (returned.outcome = .targetHit → ∃ r, returned.returnR = some r ∧ 0 < r)

/-- A planned entry loses its risk at the stop. -/
theorem scoreFromEntry_plannedReturns {recordHash : TradeIdea → String}
    {idea : TradeIdea} {asOf : ℤ} {candles : List PriceBar}
    {returned : ReplayResult}
    (scoreable : idea.direction = .long ∨ idea.direction = .short)
    (ordered : LevelsOrdered idea.direction levels)
    (scored : scoreFromEntry recordHash idea asOf levels candles = .ok returned) :
    PlannedReturns returned := by
  obtain ⟨risks, gains⟩ := planned_gains scoreable ordered
  have returns : Exited returned.outcome →
      ∃ price, returned.returnR =
          some (profit idea.direction levels.entryMidpoint price /
            risk idea.direction levels levels.entryMidpoint) ∧
        ((returned.outcome = .stopHit ∧ price = levels.stop) ∨
          (returned.outcome = .targetHit ∧ price = levels.target)) := by
    intro exited
    obtain ⟨before, entry, after, count, candle, price, enters, exits, _, _⟩ :=
      scoreFromEntry_cases scored exited
    refine ⟨price, ?_, firstExit_price exits⟩
    rw [scoreFromEntry_exit enters exits] at scored
    unfold result at scored
    split at scored
    · cases scored
    · have same := Except.ok.inj scored
      rw [← same]
      exact if_pos risks.ne'
  constructor
  · intro stop
    obtain ⟨price, r, ⟨_, rfl⟩ | ⟨other, _⟩⟩ := returns (.inl stop)
    · rw [r, profit_stop, neg_div, div_self risks.ne']
    · rw [stop] at other
      cases other
  · intro target
    obtain ⟨price, r, ⟨other, _⟩ | ⟨_, rfl⟩⟩ := returns (.inr target)
    · rw [target] at other
      cases other
    · exact ⟨_, r, div_pos gains risks⟩

end Entry

/-! ## Both scorers -/

/-- Scores from the planned entry have the sign of the money, and so do those from a
fill exactly when the fill suits the candles. -/
theorem scores_have_the_sign_of_the_money (recordHash : TradeIdea → String)
    (levelExtractor : TradeIdea → Except ReplayScoringError ScoringLevels)
    (idea : TradeIdea) (expiresAt : ℤ) (levels : ScoringLevels)
    (planned : scoringPlan levelExtractor idea = .ok (expiresAt, levels))
    (ordered : LevelsOrdered idea.direction levels) :
    (∀ filledAt fill candles candleDuration, 0 < fill →
      ((∃ returned, scoreFilledTradeIdea recordHash levelExtractor idea filledAt
          (some fill) candles candleDuration = .ok returned ∧
        MoneySigned returned) ↔
      FillSuits idea.direction levels fill
        (scoredCandles filledAt expiresAt candleDuration candles))) ∧
    ∀ asOf candles candleDuration returned,
      scoreTradeIdea recordHash levelExtractor idea asOf candles candleDuration =
        .ok returned → PlannedReturns returned := by
  obtain ⟨expires, scoreable, _⟩ := scoringPlan_eq_ok planned
  constructor
  · intro filledAt fill candles candleDuration positive
    unfold scoreFilledTradeIdea
    rw [planned]
    exact scoreFromFill_moneySigned_iff expires scoreable ordered positive
  · intro asOf candles candleDuration returned scored
    unfold scoreTradeIdea at scored
    rw [planned] at scored
    exact scoreFromEntry_plannedReturns scoreable ordered scored

def longLevels : ScoringLevels :=
  { entryLower := 100
    entryUpper := 100
    stop := 90
    target := 120 }

theorem longLevels_planned :
    scoringPlan (fun _ => .ok longLevels) entryIdea =
      .ok (ApprovalPolicy.hours 24, longLevels) :=
  rfl

theorem longLevels_ordered : LevelsOrdered entryIdea.direction longLevels := by
  decide +kernel

/-- A long idea from one hundred to its stop or target. -/
theorem longLevels_scores :
    (∀ filledAt fill candles candleDuration, 0 < fill →
      ((∃ returned, scoreFilledTradeIdea paperEnv.recordHash
          (fun _ => .ok longLevels) entryIdea filledAt (some fill) candles
          candleDuration = .ok returned ∧ MoneySigned returned) ↔
      FillSuits entryIdea.direction longLevels fill
        (scoredCandles filledAt (ApprovalPolicy.hours 24) candleDuration
          candles))) ∧
    ∀ asOf candles candleDuration returned,
      scoreTradeIdea paperEnv.recordHash (fun _ => .ok longLevels) entryIdea asOf
        candles candleDuration = .ok returned → PlannedReturns returned :=
  scores_have_the_sign_of_the_money paperEnv.recordHash (fun _ => .ok longLevels)
    entryIdea (ApprovalPolicy.hours 24) longLevels longLevels_planned
    longLevels_ordered

def gapBar : PriceBar :=
  { ts := 0
    openPrice := 88
    high := 95
    low := 86
    close := 92
    volume := 1 }

/-- The stop hit gains five, a loss of one by its risk. -/
theorem gap_fill_gains_at_its_stop :
    ¬∃ returned, scoreFilledTradeIdea paperEnv.recordHash
        (fun _ => .ok longLevels) entryIdea 0 (some 85) [gapBar] none =
      .ok returned ∧ MoneySigned returned := by
  rintro ⟨returned, scored, signed⟩
  have exits : returned.outcome = .stopHit ∧ returned.returnPct = some (100 / 17) := by
    have computed : (scoreFilledTradeIdea paperEnv.recordHash
        (fun _ => .ok longLevels) entryIdea 0 (some 85) [gapBar] none).map
          (fun found => (found.outcome, found.returnPct)) =
        .ok (.stopHit, some (100 / 17)) := by
      decide +kernel
    rw [scored] at computed
    exact ⟨congrArg Prod.fst (Except.ok.inj computed),
      congrArg Prod.snd (Except.ok.inj computed)⟩
  have most := (signed.stopped exits.1).2 _ exits.2
  norm_num at most

end Scoring

end GptTrader
