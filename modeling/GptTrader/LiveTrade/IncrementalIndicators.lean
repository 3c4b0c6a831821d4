import Mathlib.Algebra.Order.BigOperators.Group.List
import Mathlib.Tactic.Linarith
import GptTrader.Library.Statistics
import GptTrader.LiveTrade.StatefulIndicators

/-!
# Incremental indicators equal batch indicators

For each indicator the state after a run is a function of the prices read: what is
collected while it warms up, and what its recurrence needs afterwards.  An update and
a restart keep that, so that every value is the one the whole list gives.
-/

namespace GptTrader

/-! ## Windows -/

section Rtake

variable {α : Type}

theorem rtake_of_length_le {values : List α} {count : ℕ}
    (short : values.length ≤ count) : values.rtake count = values := by
  unfold List.rtake
  rw [Nat.sub_eq_zero_of_le short, List.drop_zero]

theorem length_rtake (values : List α) (count : ℕ) :
    (values.rtake count).length = min count values.length := by
  unfold List.rtake
  rw [List.length_drop]
  omega

theorem rtake_succ_of_lt {values : List α} {count : ℕ} (more : count < values.length) :
    ∃ oldest, values.rtake (count + 1) = oldest :: values.rtake count := by
  have inside : values.length - (count + 1) < values.length := by omega
  have next : values.length - (count + 1) + 1 = values.length - count := by omega
  refine ⟨values.get ⟨values.length - (count + 1), inside⟩, ?_⟩
  unfold List.rtake
  rw [List.drop_eq_getElem_cons inside, next]
  rfl

theorem rtake_rtake_succ (values : List α) (count : ℕ) :
    (values.rtake (count + 1)).rtake count = values.rtake count := by
  rcases Nat.lt_or_ge count values.length with more | short
  · obtain ⟨oldest, first⟩ := rtake_succ_of_lt more
    have length : (values.rtake count).length = count := by
      rw [length_rtake]
      omega
    rw [first]
    show (oldest :: values.rtake count).drop
      ((values.rtake count).length + 1 - count) = values.rtake count
    rw [length, Nat.add_sub_cancel_left]
    rfl
  · rw [rtake_of_length_le (short.trans (Nat.le_succ _))]

theorem rtake_rtake_concat (values : List α) (value : α) (count : ℕ+) :
    (values.rtake count ++ [value]).rtake count =
      (values ++ [value]).rtake count := by
  obtain ⟨before, same⟩ := Nat.exists_eq_succ_of_ne_zero count.ne_zero
  rw [same, List.rtake_concat_succ, List.rtake_concat_succ, rtake_rtake_succ]

end Rtake

namespace RollingWindow

def holding (maxSize : ℕ+) (values : List ℚ) : RollingWindow :=
  { maxSize := maxSize
    values := values.rtake maxSize
    runningSum := (values.rtake maxSize).sum }

theorem holding_nil (maxSize : ℕ+) : holding maxSize [] = { maxSize := maxSize } := by
  unfold holding
  rw [List.rtake_nil]
  rfl

theorem add_holding (maxSize : ℕ+) (values : List ℚ) (value : ℚ) :
    ((holding maxSize values).add value).1 = holding maxSize (values ++ [value]) := by
  obtain ⟨before, same⟩ := Nat.exists_eq_succ_of_ne_zero maxSize.ne_zero
  have sum : (values.rtake maxSize).sum -
      (if (values.rtake maxSize).length = maxSize then
        (values.rtake maxSize).head? else none).getD 0 + value =
      ((values ++ [value]).rtake maxSize).sum := by
    rw [same, List.rtake_concat_succ, List.sum_append, List.sum_singleton,
      length_rtake]
    rcases Nat.lt_or_ge before values.length with more | short
    · obtain ⟨oldest, first⟩ := rtake_succ_of_lt more
      rw [if_pos (by omega), first, List.sum_cons, List.head?_cons,
        Option.getD_some]
      ring
    · rw [if_neg (by omega), rtake_of_length_le (short.trans (Nat.le_succ _)),
        rtake_of_length_le short, Option.getD_none, sub_zero]
  unfold add holding
  rw [RollingWindow.mk.injEq]
  exact ⟨rfl, rtake_rtake_concat values value maxSize, sum⟩

theorem deserialize_holding (maxSize : ℕ+) (values : List ℚ) :
    deserialize (holding maxSize values).serialize = holding maxSize values := by
  have whole : (values.rtake maxSize).length ≤ maxSize := by
    rw [length_rtake]
    exact min_le_left _ _
  unfold deserialize serialize holding
  rw [rtake_of_length_le whole]

theorem isFull_holding (maxSize : ℕ+) (values : List ℚ) :
    (holding maxSize values).isFull = true ↔ (maxSize : ℕ) ≤ values.length := by
  unfold isFull holding
  rw [decide_eq_true_eq, length_rtake]
  exact min_eq_left_iff

theorem mean_holding {maxSize : ℕ+} {values : List ℚ} (nonempty : values ≠ []) :
    (holding maxSize values).mean = some (meanDecimal (values.rtake maxSize)) := by
  have some : (values.rtake maxSize).isEmpty = false := by
    rw [List.isEmpty_eq_false_iff, ← List.length_pos_iff, length_rtake]
    exact lt_min maxSize.pos (List.length_pos_iff.mpr nonempty)
  unfold mean holding meanDecimal
  simp only [some, Bool.false_eq_true, if_false]

end RollingWindow

/-! ## Simple averages -/

namespace OnlineSMA

theorem tracks (period : ℕ+) :
    (process period).Tracks fun prices sma =>
      sma = { period := period, window := .holding period prices } where
  start := congrArg (OnlineSMA.mk period) (RollingWindow.holding_nil period).symm
  update prices sma price known := by
    rw [known]
    exact congrArg (OnlineSMA.mk period)
      (RollingWindow.add_holding period prices price)
  restart prices sma known := by
    rw [known]
    exact congrArg (OnlineSMA.mk period)
      (RollingWindow.deserialize_holding period prices)

theorem equals_batch (period : ℕ+) :
    (process period).AtEveryUpdate fun prices sma value =>
      (sma.isReady = true ↔ (period : ℕ) ≤ prices.length) ∧
      (sma.isReady = true →
        value = simpleMovingAverage prices period ∧
        value = some (meanDecimal (prices.rtake period))) := by
  apply (tracks period).atEveryUpdate
  intro prices sma price known
  have updated : (process period).update sma price =
      ({ period := period, window := .holding period (prices ++ [price]) },
        some (meanDecimal ((prices ++ [price]).rtake period))) := by
    rw [known]
    show (OnlineSMA.mk _ _, RollingWindow.mean _) = (OnlineSMA.mk _ _, _)
    rw [RollingWindow.add_holding, RollingWindow.mean_holding (by simp)]
  rw [updated]
  refine ⟨RollingWindow.isFull_holding _ _, fun ready => ⟨?_, rfl⟩⟩
  have enough := (RollingWindow.isFull_holding _ _).mp ready
  unfold simpleMovingAverage
  rw [if_neg (not_lt.mpr enough)]

end OnlineSMA

/-! ## Exponential averages -/

theorem exponentialMovingAverage_concat {prices : List ℚ} {period : ℕ+}
    (smoothing price : ℚ) (enough : (period : ℕ) ≤ prices.length) :
    ∃ latest, exponentialMovingAverage prices period smoothing = some latest ∧
      exponentialMovingAverage (prices ++ [price]) period smoothing =
        some (price * (smoothing / ((period : ℕ) + 1)) +
          latest * (1 - smoothing / ((period : ℕ) + 1))) := by
  have longer : (period : ℕ) ≤ (prices ++ [price]).length := by
    rw [List.length_append]
    omega
  unfold exponentialMovingAverage
  rw [if_neg (not_lt.mpr enough), if_neg (not_lt.mpr longer),
    List.drop_append_of_le_length enough, List.take_append_of_le_length enough]
  dsimp only
  rw [List.foldl_append]
  exact ⟨_, rfl, rfl⟩

theorem exponentialMovingAverage_first {prices : List ℚ} {period : ℕ+}
    (smoothing : ℚ) (first : prices.length = period) :
    exponentialMovingAverage prices period smoothing =
      some (prices.sum / (period : ℕ)) := by
  have some : prices.isEmpty = false := by
    rw [List.isEmpty_eq_false_iff, ← List.length_pos_iff, first]
    exact period.pos
  unfold exponentialMovingAverage meanDecimal
  rw [if_neg (by omega), ← first, List.drop_length, List.take_length]
  simp only [some, Bool.false_eq_true, if_false, List.foldl_nil]

namespace OnlineEMA

def having (period : ℕ+) (smoothing : ℚ) (prices : List ℚ) : OnlineEMA :=
  if prices.length < period then
    { period := period, smoothing := smoothing, warmupValues := prices }
  else
    { period := period
      smoothing := smoothing
      value := exponentialMovingAverage prices period smoothing
      initialized := true }

theorem update_having (period : ℕ+) (smoothing : ℚ) (prices : List ℚ) (price : ℚ) :
    (having period smoothing prices).update price =
      (having period smoothing (prices ++ [price]),
        exponentialMovingAverage (prices ++ [price]) period smoothing) := by
  have length : (prices ++ [price]).length = prices.length + 1 := by simp
  rcases Nat.lt_or_ge prices.length period with warm | enough
  · rcases Nat.lt_or_ge (prices ++ [price]).length period with short | last
    · have none : exponentialMovingAverage (prices ++ [price]) period smoothing =
          none := if_pos short
      unfold having update
      rw [if_pos warm, if_pos short, none]
      simp only [Bool.not_false, if_true]
      rw [if_neg (not_le.mpr short)]
    · have first : (prices ++ [price]).length = period := by omega
      have seed := exponentialMovingAverage_first smoothing first
      unfold having update
      rw [if_pos warm, if_neg (not_lt.mpr last), seed]
      simp only [Bool.not_false, if_true]
      rw [if_pos last, ← first, List.drop_length, List.take_length]
      rfl
  · obtain ⟨latest, known, next⟩ :=
      exponentialMovingAverage_concat smoothing price enough
    have longer : ¬(prices ++ [price]).length < period := by omega
    unfold having
    rw [if_neg (not_lt.mpr enough), if_neg longer, known, next]
    rfl

theorem tracks (period : ℕ+) (smoothing : ℚ) :
    (process period smoothing).Tracks fun prices ema =>
      ema = having period smoothing prices where
  start := (if_pos period.pos).symm
  update prices ema price known := by
    rw [known]
    exact congrArg Prod.fst (update_having period smoothing prices price)
  restart _ _ known := known

theorem equals_batch (period : ℕ+) (smoothing : ℚ) :
    (process period smoothing).AtEveryUpdate fun prices _ value =>
      value = exponentialMovingAverage prices period smoothing := by
  apply (tracks period smoothing).atEveryUpdate
  intro prices ema price known
  rw [known]
  exact congrArg Prod.snd (update_having period smoothing prices price)

end OnlineEMA

/-! ## Relative strength -/

def movement (change : ℚ) : ℚ × ℚ :=
  (if 0 < change then change else 0, if 0 < change then 0 else |change|)

def priceMovements (prices : List ℚ) : List (ℚ × ℚ) :=
  (priceChanges prices).map movement

/-- Wilder's averages of gains and losses. -/
def wilderAverages (period : ℕ+) (movements : List (ℚ × ℚ)) : ℚ × ℚ :=
  (movements.drop period).foldl (wilderSmoothing period)
    (((movements.take period).map Prod.fst).sum / (period : ℕ),
      ((movements.take period).map Prod.snd).sum / (period : ℕ))

theorem movement_gain (change : ℚ) :
    (if 0 < change then change else 0) = (movement change).1 :=
  rfl

theorem movement_loss (change : ℚ) :
    (if change < 0 then |change| else 0) = (movement change).2 := by
  show _ = if 0 < change then 0 else |change|
  rcases lt_trichotomy change 0 with falls | stays | rises
  · rw [if_pos falls, if_neg falls.not_gt]
  · rw [stays, if_neg (lt_irrefl _), if_neg (lt_irrefl _), abs_zero]
  · rw [if_neg rises.not_gt, if_pos rises]

theorem length_priceMovements (prices : List ℚ) :
    (priceMovements prices).length = prices.length - 1 := by
  unfold priceMovements priceChanges
  rw [List.length_map, List.length_zipWith, List.length_tail]
  omega

theorem priceChanges_concat (earlier : List ℚ) (last price : ℚ) :
    priceChanges (earlier ++ [last] ++ [price]) =
      priceChanges (earlier ++ [last]) ++ [price - last] := by
  induction earlier with
  | nil => rfl
  | cons first rest induction =>
      unfold priceChanges at induction ⊢
      cases rest with
      | nil => rfl
      | cons second rest => exact congrArg (List.cons (second - first)) induction

theorem priceMovements_concat (earlier : List ℚ) (last price : ℚ) :
    priceMovements (earlier ++ [last] ++ [price]) =
      priceMovements (earlier ++ [last]) ++ [movement (price - last)] := by
  unfold priceMovements
  rw [priceChanges_concat, List.map_append]
  rfl

theorem relativeStrengthIndex_eq {prices : List ℚ} {period : ℕ+}
    (enough : (period : ℕ) < prices.length) :
    relativeStrengthIndex prices period =
      some (strengthIndex (wilderAverages period (priceMovements prices)).1
        (wilderAverages period (priceMovements prices)).2) := by
  have changes : ¬(priceChanges prices).length < period := by
    have length := length_priceMovements prices
    unfold priceMovements at length
    rw [List.length_map] at length
    omega
  unfold relativeStrengthIndex
  rw [if_neg (not_lt.mpr enough)]
  dsimp only
  rw [if_neg changes, List.zip_map', ← List.map_take, ← List.map_take]
  unfold wilderAverages priceMovements
  rw [← List.map_take, List.map_map, List.map_map]
  rfl

theorem relativeStrengthIndex_short {prices : List ℚ} {period : ℕ+}
    (short : prices.length ≤ period) : relativeStrengthIndex prices period = none :=
  if_pos (Nat.lt_succ_of_le short)

theorem wilderAverages_concat {period : ℕ+} {movements : List (ℚ × ℚ)}
    (enough : (period : ℕ) ≤ movements.length) (latest : ℚ × ℚ) :
    wilderAverages period (movements ++ [latest]) =
      wilderSmoothing period (wilderAverages period movements) latest := by
  unfold wilderAverages
  rw [List.drop_append_of_le_length enough, List.take_append_of_le_length enough,
    List.foldl_append]
  rfl

theorem wilderAverages_first {period : ℕ+} {movements : List (ℚ × ℚ)}
    (first : movements.length = period) :
    wilderAverages period movements =
      ((movements.map Prod.fst).sum / (period : ℕ),
        (movements.map Prod.snd).sum / (period : ℕ)) := by
  unfold wilderAverages
  rw [← first, List.drop_length, List.take_length]
  rfl

theorem wilderAverages_nonneg (period : ℕ+) (prices : List ℚ) :
    0 ≤ (wilderAverages period (priceMovements prices)).1 ∧
      0 ≤ (wilderAverages period (priceMovements prices)).2 := by
  have movements : ∀ move ∈ priceMovements prices, 0 ≤ move.1 ∧ 0 ≤ move.2 := by
    intro move member
    obtain ⟨change, _, rfl⟩ := List.mem_map.mp member
    unfold movement
    constructor
    · split
      · next rises => exact rises.le
      · exact le_rfl
    · split
      · exact le_rfl
      · exact abs_nonneg _
  have positive : (0 : ℚ) < (period : ℕ) := Nat.cast_pos.mpr period.pos
  have sums : ∀ part : ℚ × ℚ → ℚ, (∀ move ∈ priceMovements prices, 0 ≤ part move) →
      0 ≤ (((priceMovements prices).take period).map part).sum / (period : ℕ) := by
    intro part nonneg
    apply div_nonneg _ positive.le
    apply List.sum_nonneg
    intro value member
    obtain ⟨move, taken, rfl⟩ := List.mem_map.mp member
    exact nonneg move (List.mem_of_mem_take taken)
  unfold wilderAverages
  apply List.foldlRecOn (motive := fun averages : ℚ × ℚ =>
    0 ≤ averages.1 ∧ 0 ≤ averages.2)
  · exact ⟨sums _ fun move member => (movements move member).1,
      sums _ fun move member => (movements move member).2⟩
  · intro averages nonneg move member
    have moved := movements move (List.mem_of_mem_drop member)
    have before : (0 : ℚ) ≤ (period : ℕ) - 1 :=
      sub_nonneg.mpr (Nat.one_le_cast.mpr period.pos)
    unfold wilderSmoothing
    exact
      ⟨div_nonneg (add_nonneg (mul_nonneg nonneg.1 before) moved.1) positive.le,
        div_nonneg (add_nonneg (mul_nonneg nonneg.2 before) moved.2) positive.le⟩

theorem strengthIndex_bounds {avgGain avgLoss : ℚ} (gains : 0 ≤ avgGain)
    (losses : 0 ≤ avgLoss) :
    0 ≤ strengthIndex avgGain avgLoss ∧ strengthIndex avgGain avgLoss ≤ 100 := by
  unfold strengthIndex
  split
  · norm_num
  · have strength : 1 ≤ 1 + avgGain / avgLoss :=
      le_add_of_nonneg_right (div_nonneg gains losses)
    have positive : 0 < 1 + avgGain / avgLoss := one_pos.trans_le strength
    constructor
    · rw [sub_nonneg, div_le_iff₀ positive]
      linarith
    · exact sub_le_self _ (div_nonneg (by norm_num) positive.le)

theorem relativeStrengthIndex_bounds {prices : List ℚ} {period : ℕ+} {index : ℚ}
    (returned : relativeStrengthIndex prices period = some index) :
    0 ≤ index ∧ index ≤ 100 := by
  rcases Nat.lt_or_ge period prices.length with enough | short
  · rw [relativeStrengthIndex_eq enough] at returned
    have same := Option.some.inj returned
    have averages := wilderAverages_nonneg period prices
    rw [← same]
    exact strengthIndex_bounds averages.1 averages.2
  · rw [relativeStrengthIndex_short short] at returned
    cases returned

namespace OnlineRSI

/-- The indicator before its first average. -/
def warming (period : ℕ+) (last : Option ℚ) (movements : List (ℚ × ℚ)) :
    OnlineRSI :=
  { period := period
    prevPrice := last
    warmupGains := movements.map Prod.fst
    warmupLosses := movements.map Prod.snd }

def smoothing (period : ℕ+) (last : Option ℚ) (averages : ℚ × ℚ) : OnlineRSI :=
  { period := period
    prevPrice := last
    avgGain := averages.1
    avgLoss := averages.2
    initialized := true
    value := some (strengthIndex averages.1 averages.2) }

theorem update_warming_short {period : ℕ+} {movements : List (ℚ × ℚ)}
    (last price : ℚ) (short : movements.length + 1 < period) :
    (warming period (some last) movements).update price =
      (warming period (some price) (movements ++ [movement (price - last)]),
        none) := by
  have gains : ¬(period : ℕ) ≤
      (movements.map Prod.fst ++ [(movement (price - last)).1]).length := by
    rw [List.length_append, List.length_map, List.length_singleton]
    omega
  unfold update warming
  simp only [movement_gain, movement_loss, Bool.not_false, if_true]
  rw [if_neg gains, List.map_append, List.map_append]
  rfl

theorem update_warming_full {period : ℕ+} {movements : List (ℚ × ℚ)}
    (last price : ℚ) (full : movements.length + 1 = period) :
    let averages :=
      wilderAverages period (movements ++ [movement (price - last)])
    (warming period (some last) movements).update price =
      (smoothing period (some price) averages,
        some (strengthIndex averages.1 averages.2)) := by
  intro averages
  have gains : (movements.map Prod.fst ++ [(movement (price - last)).1]).length =
      period := by
    rw [List.length_append, List.length_map, List.length_singleton, full]
  have losses : (movements.map Prod.snd ++ [(movement (price - last)).2]).length =
      period := by
    rw [List.length_append, List.length_map, List.length_singleton, full]
  have nothing : ((movements.map Prod.fst ++ [(movement (price - last)).1]).zip
      (movements.map Prod.snd ++ [(movement (price - last)).2])).drop period =
        [] := by
    apply List.drop_eq_nil_of_le
    rw [List.length_zip, gains, losses, min_self]
  have first : averages =
      ((movements.map Prod.fst ++ [(movement (price - last)).1]).sum /
          (period : ℕ),
        (movements.map Prod.snd ++ [(movement (price - last)).2]).sum /
          (period : ℕ)) := by
    have length : (movements ++ [movement (price - last)]).length = period := by
      rw [List.length_append, List.length_singleton, full]
    have means := wilderAverages_first length
    rw [List.map_append, List.map_append] at means
    exact means
  rw [first]
  unfold update warming
  simp only [movement_gain, movement_loss, Bool.not_false, if_true]
  rw [if_pos gains.ge, nothing, List.foldl_nil, List.take_of_length_le gains.le,
    List.take_of_length_le losses.le]
  rfl

theorem update_smoothing (period : ℕ+) (last price : ℚ) (averages : ℚ × ℚ) :
    let next := wilderSmoothing period averages (movement (price - last))
    (smoothing period (some last) averages).update price =
      (smoothing period (some price) next,
        some (strengthIndex next.1 next.2)) := by
  intro next
  unfold update smoothing
  dsimp only
  rw [movement_loss]
  rfl

def having (period : ℕ+) (prices : List ℚ) : OnlineRSI :=
  let movements := priceMovements prices
  if movements.length < period then warming period prices.getLast? movements
  else smoothing period prices.getLast? (wilderAverages period movements)

theorem having_of_lt {period : ℕ+} {prices : List ℚ}
    (short : (priceMovements prices).length < period) :
    having period prices =
      warming period prices.getLast? (priceMovements prices) :=
  if_pos short

theorem having_of_le {period : ℕ+} {prices : List ℚ}
    (enough : (period : ℕ) ≤ (priceMovements prices).length) :
    having period prices =
      smoothing period prices.getLast?
        (wilderAverages period (priceMovements prices)) :=
  if_neg (not_lt.mpr enough)

theorem update_having (period : ℕ+) (prices : List ℚ) (price : ℚ) :
    (having period prices).update price =
      (having period (prices ++ [price]),
        relativeStrengthIndex (prices ++ [price]) period) := by
  induction prices using List.reverseRecOn with
  | nil =>
      have short : relativeStrengthIndex ([] ++ [price]) period = none :=
        relativeStrengthIndex_short (Nat.one_le_iff_ne_zero.mpr period.ne_zero)
      have empty : (priceMovements []).length < period := period.pos
      have single : (priceMovements ([] ++ [price])).length < period := period.pos
      rw [short, having_of_lt empty, having_of_lt single]
      rfl
  | append_singleton earlier last _ =>
      have previous : (earlier ++ [last]).getLast? = some last :=
        List.getLast?_concat
      have latest : (earlier ++ [last] ++ [price]).getLast? = some price :=
        List.getLast?_concat
      have movements := priceMovements_concat earlier last price
      have later := length_priceMovements (earlier ++ [last] ++ [price])
      have grown : (priceMovements (earlier ++ [last] ++ [price])).length =
          (priceMovements (earlier ++ [last])).length + 1 := by
        rw [movements, List.length_append, List.length_singleton]
      rcases Nat.lt_or_ge (priceMovements (earlier ++ [last])).length period with
        warm | enough
      · rw [having_of_lt warm, previous]
        rcases Nat.lt_or_ge (priceMovements (earlier ++ [last] ++ [price])).length
          period with short | full
        · rw [update_warming_short last price (by omega), having_of_lt short,
            latest, movements, relativeStrengthIndex_short (by omega)]
        · rw [update_warming_full last price (by omega), having_of_le full,
            latest, relativeStrengthIndex_eq (by omega), movements]
      · rw [having_of_le enough, having_of_le (by omega), previous, latest,
          update_smoothing, relativeStrengthIndex_eq (by omega), movements,
          wilderAverages_concat enough]

theorem tracks (period : ℕ+) :
    (process period).Tracks fun prices rsi => rsi = having period prices where
  start :=
    have empty : (priceMovements []).length < period := period.pos
    (having_of_lt empty).symm
  update prices rsi price known := by
    rw [known]
    exact congrArg Prod.fst (update_having period prices price)
  restart _ _ known := known

theorem equals_batch (period : ℕ+) :
    (process period).AtEveryUpdate fun prices _ value =>
      value = relativeStrengthIndex prices period := by
  apply (tracks period).atEveryUpdate
  intro prices rsi price known
  rw [known]
  exact congrArg Prod.snd (update_having period prices price)

end OnlineRSI

/-! ## Welford statistics -/

namespace WelfordState

open Statistics in
def having (values : List ℚ) : WelfordState :=
  { count := values.length
    mean := Statistics.mean values
    m2 := squaredDeviations values }

theorem update_having (values : List ℚ) (value : ℚ) :
    (having values).update value = having (values ++ [value]) := by
  have count : (values ++ [value]).length = values.length + 1 := by simp
  unfold update having
  dsimp only
  rw [Statistics.squaredDeviations_concat, Statistics.mean_concat, count]

theorem having_nil : having [] = {} := by
  unfold having Statistics.mean Statistics.squaredDeviations
  rw [List.sum_nil, zero_div]
  rfl

theorem tracks :
    process.Tracks fun values state => state = having values where
  start := having_nil.symm
  update values state value known := by
    rw [known]
    exact update_having values value
  restart _ _ known := known

theorem variance_having (values : List ℚ) :
    (having values).variance = Statistics.variance values := by
  unfold variance having Statistics.variance
  dsimp only
  split
  · next few =>
      rcases values with _ | ⟨value, _ | ⟨second, rest⟩⟩
      · simp
      · simp [Statistics.squaredDeviations, Statistics.mean]
      · exact absurd few (by simp)
  · rfl

theorem sampleVariance_having {values : List ℚ} (several : 2 ≤ values.length) :
    (having values).sampleVariance = Statistics.sampleVariance values :=
  if_neg (not_lt.mpr several)

/-- The statistics are those of a textbook, over all values read; one value has no
sample variance. -/
theorem equals_textbook :
    process.AtEveryUpdate fun values state _ =>
      state.count = values.length ∧
      state.mean = Statistics.mean values ∧
      state.variance = Statistics.variance values ∧
      (2 ≤ values.length →
        state.sampleVariance = Statistics.sampleVariance values) := by
  apply tracks.atEveryUpdate
  intro values state value known
  rw [tracks.update values state value known]
  exact ⟨rfl, rfl, variance_having _, sampleVariance_having⟩

end WelfordState

/-! ## Scores -/

theorem meanDecimal_eq (values : List ℚ) :
    meanDecimal values = Statistics.mean values := by
  unfold meanDecimal Statistics.mean
  split
  · next empty =>
      rw [List.isEmpty_iff.mp empty, List.sum_nil, zero_div]
  · rfl

namespace OnlineZScore

def having (lookback : Option ℕ+) (values : List ℚ) : OnlineZScore :=
  { welford := .having values
    lookback := lookback
    window := lookback.map fun maxSize => .holding maxSize values }

theorem update_having_fst (sqrt : ℚ → ℚ) (lookback : Option ℕ+) (values : List ℚ)
    (value : ℚ) :
    ((having lookback values).update sqrt value).1 =
      having lookback (values ++ [value]) := by
  cases lookback with
  | none =>
      unfold update having
      dsimp only [Option.map_none]
      rw [WelfordState.update_having]
      split <;> rfl
  | some maxSize =>
      unfold update having
      dsimp only [Option.map_some]
      rw [WelfordState.update_having, RollingWindow.add_holding]
      split <;> rfl

theorem tracks (sqrt : ℚ → ℚ) (lookback : Option ℕ+) :
    (process sqrt lookback).Tracks fun values zscore =>
      zscore = having lookback values where
  start := by
    show create lookback = having lookback []
    unfold create having
    rw [WelfordState.having_nil]
    cases lookback with
    | none => rfl
    | some maxSize =>
        rw [Option.map_some, Option.map_some, RollingWindow.holding_nil]
  update values zscore value known := by
    rw [known]
    exact update_having_fst sqrt lookback values value
  restart values zscore known := by
    rw [known]
    cases lookback with
    | none => rfl
    | some maxSize =>
        exact congrArg
          (fun window => OnlineZScore.mk (.having values) (some maxSize) (some window))
          (RollingWindow.deserialize_holding maxSize values)

def scoreOf (sqrt : ℚ → ℚ) (value mean variance : ℚ) : ℚ :=
  score value mean (if 0 < variance then sqrt variance else 0)

/-- Once the window is full, the mean and the variance behind the score are those of
the values looked back on, and so is the mean that is shown. -/
theorem equals_textbook (sqrt : ℚ → ℚ) (lookback : ℕ+) :
    (process sqrt (some lookback)).AtEveryUpdate fun values zscore shown =>
      if (lookback : ℕ) ≤ values.length then
        let last := values.rtake lookback
        (∃ window, zscore.window = some window ∧
          windowMean window.values = Statistics.mean last ∧
          windowVariance window.values = Statistics.variance last) ∧
        zscore.mean = Statistics.mean last ∧
        shown = some (scoreOf sqrt (values.getLastD 0) (Statistics.mean last)
          (Statistics.variance last))
      else shown = none := by
  apply (tracks sqrt (some lookback)).atEveryUpdate
  intro values zscore value known
  have updated : (process sqrt (some lookback)).update zscore value =
      (having (some lookback) (values ++ [value]),
        if (RollingWindow.holding lookback (values ++ [value])).isFull then
          some (scoreOf sqrt value
            (windowMean ((values ++ [value]).rtake lookback))
            (windowVariance ((values ++ [value]).rtake lookback)))
        else none) := by
    rw [known]
    show update sqrt (having (some lookback) values) value = _
    unfold update having
    dsimp only [Option.map_some]
    rw [WelfordState.update_having, RollingWindow.add_holding]
    split <;> rfl
  rw [updated]
  have full := RollingWindow.isFull_holding lookback (values ++ [value])
  dsimp only
  split
  · next enough =>
      have ready := full.mpr enough
      have shown : (having (some lookback) (values ++ [value])).mean =
          Statistics.mean ((values ++ [value]).rtake lookback) := by
        unfold mean having
        dsimp only [Option.map_some]
        rw [if_pos ready, RollingWindow.mean_holding (by simp), Option.getD_some,
          meanDecimal_eq]
      rw [if_pos ready, List.getLastD_concat]
      exact ⟨⟨_, rfl, rfl, rfl⟩, shown, rfl⟩
  · next short =>
      rw [if_neg fun ready => short (full.mp ready)]

end OnlineZScore

/-- Incremental indicators equal batch indicators, over every run of prices and
restarts. -/
structure IncrementalEqualsBatch (sqrt : ℚ → ℚ) : Prop where
  ema : ∀ period smoothing,
    (OnlineEMA.process period smoothing).AtEveryUpdate fun prices _ value =>
      value = exponentialMovingAverage prices period smoothing
  rsi : ∀ period,
    (OnlineRSI.process period).AtEveryUpdate fun prices _ value =>
      value = relativeStrengthIndex prices period
  bounds : ∀ prices period index,
    relativeStrengthIndex prices period = some index → 0 ≤ index ∧ index ≤ 100
  sma : ∀ period,
    (OnlineSMA.process period).AtEveryUpdate fun prices sma value =>
      (sma.isReady = true ↔ (period : ℕ) ≤ prices.length) ∧
      (sma.isReady = true →
        value = simpleMovingAverage prices period ∧
        value = some (meanDecimal (prices.rtake period)))
  welford : WelfordState.process.AtEveryUpdate fun values state _ =>
    state.count = values.length ∧
    state.mean = Statistics.mean values ∧
    state.variance = Statistics.variance values ∧
    (2 ≤ values.length →
      state.sampleVariance = Statistics.sampleVariance values)
  zscore : ∀ lookback : ℕ+,
    (OnlineZScore.process sqrt (some lookback)).AtEveryUpdate
      fun values zscore shown =>
        if (lookback : ℕ) ≤ values.length then
          let last := values.rtake lookback
          (∃ window, zscore.window = some window ∧
            windowMean window.values = Statistics.mean last ∧
            windowVariance window.values = Statistics.variance last) ∧
          zscore.mean = Statistics.mean last ∧
          shown = some (OnlineZScore.scoreOf sqrt (values.getLastD 0)
            (Statistics.mean last) (Statistics.variance last))
        else shown = none

/-- Fed price by price, the indicators equal the batch. -/
theorem incremental_indicators_equal_batch (sqrt : ℚ → ℚ) :
    IncrementalEqualsBatch sqrt where
  ema := OnlineEMA.equals_batch
  rsi := OnlineRSI.equals_batch
  bounds _ _ _ := relativeStrengthIndex_bounds
  sma := OnlineSMA.equals_batch
  welford := WelfordState.equals_textbook
  zscore := OnlineZScore.equals_textbook sqrt

end GptTrader
