import GptTrader.Library.Outcome
import GptTrader.TradeIdeas.Sizing
import Mathlib.Data.List.ReduceOption

/-!
# The baseline proposer

`BaselineProposer`: a long idea when the short average of the closes crossed the
long one within the last bars.  The stop, the entry zone and the target are each
rounded to the tick of the series, and the idea is sized at the top of its zone.

Prices and averages are exact.  The prose of an idea is left out.
-/

namespace GptTrader

/-- What the proposer reads of a candle. -/
structure SnapshotBar where
  close : ℚ
  volume : ℚ

/-- `SymbolSeries`; a captured increment is positive. -/
structure SymbolSeries where
  symbol : String
  candles : List SnapshotBar
  priceIncrement : Option ℚ
  priceIncrementError : Option String
  increment_pos : ∀ increment ∈ priceIncrement, 0 < increment

/-- What stops a run of the proposer. -/
inductive ProposalError where
  | divisionByZero
  | priceIncrement (error : String)
  | incrementNotPositive
  | negativeMaxLoss
  deriving DecidableEq

/-- The settings of the proposer. -/
structure BaselineProposerConfig where
  shortWindow : ℕ
  longWindow : ℕ
  crossoverLookback : ℕ
  riskPerIdeaPct : ℚ
  entryBandPct : ℚ
  rewardMultiple : ℚ
  pricePrecision : ℚ
  sizing : TradeIdeaSizingConfig

/-- The stop and the reward an overlay may adjust. -/
structure ExitLevels where
  stopLevel : ℚ
  rewardMultiple : ℚ
  stopBasis : String

abbrev Tick : Type := { increment : ℚ // 0 < increment }

/-- `quantize_price_nearest` for an increment it accepts. -/
def quantizePriceNearest (price : ℚ) (tick : Tick) : ℚ :=
  DecimalContext.halfEven (price / tick.val) * tick.val

/-- The numbers of an idea. -/
structure BaselineIdea where
  symbol : String
  entryLower : ℚ
  entryUpper : ℚ
  stop : ℚ
  target : ℚ
  maxLossAmount : ℚ
  percentOfAccount : ℚ
  quantity : ℚ
  notional : ℚ
  confidence : Confidence
  deriving DecidableEq

def BaselineIdea.midpoint (idea : BaselineIdea) : ℚ :=
  (idea.entryLower + idea.entryUpper) / 2

/-- `items[start:stop]`; a negative bound counts from the end. -/
def slice {α : Type} (items : List α) (start stop : ℤ) : List α :=
  let bound (index : ℤ) : ℕ :=
    (if index < 0 then max 0 (items.length + index) else index).toNat
  (items.take (bound stop)).drop (bound start)

/-- The mean of the window that ends at an index. -/
def movingAverage (closes : List ℚ) (window : ℕ) (endIndex : ℤ) :
    Except ProposalError ℚ :=
  if window = 0 then .error .divisionByZero
  else .ok ((slice closes (endIndex - window + 1) (endIndex + 1)).sum / window)

/-- `SymbolSeries.proposal_increment`, and the check of its first use. -/
def SymbolSeries.proposalTick (series : SymbolSeries) (offlineFallback : ℚ) :
    Except ProposalError Tick :=
  match series.priceIncrementError with
  | some error => .error (.priceIncrement error)
  | none =>
      let increment := series.priceIncrement.getD offlineFallback
      if positive : 0 < increment then .ok ⟨increment, positive⟩
      else .error .incrementNotPositive

namespace BaselineProposer

abbrev ConfidenceOverlay : Type := String → Confidence → Confidence

abbrev ExitLevelsOverlay : Type := String → ℚ → ExitLevels → ExitLevels

variable (sizer : PositionSizer) (config : BaselineProposerConfig)

def crossover (closes : List ℚ) : Except ProposalError (Option ℚ) := do
  let last : ℤ := closes.length - 1
  let shortNow ← movingAverage closes config.shortWindow last
  let longNow ← movingAverage closes config.longWindow last
  if shortNow ≤ longNow then
    return none
  let crossedRecently ← (List.range config.crossoverLookback).anyM fun offset => do
    let short ← movingAverage closes config.shortWindow (last - (offset + 1))
    let long ← movingAverage closes config.longWindow (last - (offset + 1))
    return decide (short ≤ long)
  return if crossedRecently then some longNow else none

def baseConfidence (candles : List SnapshotBar) : Confidence :=
  let volumes := slice (candles.map SnapshotBar.volume) (-config.longWindow)
    candles.length
  let average := volumes.sum / volumes.length
  if average < ((candles.getLast?).map SnapshotBar.volume).getD 0 then
    { label := .medium
      rationale :=
        "Latest volume is above the long-window average, supporting the move" }
  else
    { label := .low
      rationale := "Crossover lacks volume confirmation; treat as a weaker signal" }

/-- The entry zone, stop and target, on ticks. -/
def proposedLevels (symbol : String) (close longNow : ℚ) (tick : Tick)
    (exitOverlay : Option ExitLevelsOverlay) : Option (ℚ × ℚ × ℚ × ℚ) :=
  let base : ExitLevels :=
    { stopLevel := quantizePriceNearest longNow tick
      rewardMultiple := config.rewardMultiple
      stopBasis := "the " ++ toString config.longWindow ++ "-bar average" }
  let levels := (exitOverlay.map fun overlay => overlay symbol close base).getD base
  let stop := quantizePriceNearest levels.stopLevel tick
  if stop ≤ 0 ∨ close ≤ stop then none
  else
    let lower := quantizePriceNearest (close * (1 - config.entryBandPct / 100)) tick
    let upper := quantizePriceNearest (close * (1 + config.entryBandPct / 100)) tick
    let target :=
      quantizePriceNearest (close + levels.rewardMultiple * (close - stop)) tick
    let midpoint := (lower + upper) / 2
    if stop < midpoint ∧ midpoint < target then some (stop, lower, upper, target)
    else none

/-- An idea at its levels, sized at the top of the entry zone.  A negative loss is
refused by the record of the idea. -/
def sizedIdea (symbol : String) (stop lower upper target : ℚ)
    (confidence : Confidence) : Except ProposalError BaselineIdea :=
  let sizing := recommend sizer config.sizing
    { symbol := symbol
      currentPrice := upper
      confidenceLabel := confidence.label
      stopLossDistance := upper - stop
      takeProfitDistance := target - upper
      maxLossPct := config.riskPerIdeaPct }
  if upper = 0 then .error .divisionByZero
  else if sizing.estimatedLossAmount < 0 ∨ sizing.estimatedLossPct < 0 then
    .error .negativeMaxLoss
  else
    .ok
      { symbol := symbol
        entryLower := lower
        entryUpper := upper
        stop := stop
        target := target
        maxLossAmount := sizing.estimatedLossAmount
        percentOfAccount := sizing.estimatedLossPct
        quantity := sizing.quantity
        notional := sizing.notional
        confidence := confidence }

/-- The idea of one series, if any. -/
def proposeForSeries (confidenceOverlay : Option ConfidenceOverlay)
    (exitOverlay : Option ExitLevelsOverlay) (series : SymbolSeries) :
    Except ProposalError (Option BaselineIdea) := do
  if series.candles.length < config.longWindow + config.crossoverLookback then
    return none
  let closes := series.candles.map SnapshotBar.close
  match ← crossover config closes with
  | none => return none
  | some longNow =>
      let tick ← series.proposalTick config.pricePrecision
      let close := closes.getLast?.getD 0
      match proposedLevels config series.symbol close longNow tick exitOverlay with
      | none => return none
      | some (stop, lower, upper, target) =>
          let base := baseConfidence config series.candles
          let confidence := (confidenceOverlay.map fun overlay =>
            overlay series.symbol base).getD base
          some <$> sizedIdea sizer config series.symbol stop lower upper target
            confidence

/-- `BaselineProposer.propose`. -/
def propose (confidenceOverlay : Option ConfidenceOverlay)
    (exitOverlay : Option ExitLevelsOverlay) (snapshot : List SymbolSeries) :
    Except ProposalError (List BaselineIdea) := do
  let ideas ← snapshot.mapM
    (proposeForSeries sizer config confidenceOverlay exitOverlay)
  return ideas.reduceOption

/-- What a proposed idea keeps to: its levels lie on the tick, stop, entry and target
in order, and a fill in the entry zone loses at most the maximal loss and roundings. -/
structure Sound (tick : Tick) (idea : BaselineIdea) : Prop where
  stop_pos : 0 < idea.stop
  stop_lt : idea.stop < idea.midpoint
  lt_target : idea.midpoint < idea.target
  onTick : ∀ level ∈ [idea.stop, idea.entryLower, idea.entryUpper, idea.target],
    ∃ steps : ℤ, level = steps * tick.val
  loss : ∀ price, idea.entryLower ≤ price → price ≤ idea.entryUpper →
    idea.quantity * (price - idea.stop) ≤
      idea.maxLossAmount + config.sizing.notionalPrecision / 2 +
        config.sizing.quantityPrecision / 2 * (idea.entryUpper - idea.stop)

section Soundness

variable {sizer : PositionSizer} {config : BaselineProposerConfig}

theorem loss_le {quantity notional amount upper stop price half cent : ℚ}
    (rounded : |quantity - notional / upper| ≤ half)
    (estimated : |amount - notional * (upper - stop) / upper| ≤ cent)
    (nonneg : 0 ≤ amount) (above : price ≤ upper)
    (below : -(upper - stop) ≤ price - stop) :
    quantity * (price - stop) ≤ amount + cent + half * (upper - stop) := by
  have distance : 0 ≤ upper - stop := by linarith
  have spelled : notional * (upper - stop) / upper =
      notional / upper * (upper - stop) := by ring
  rw [spelled] at estimated
  obtain ⟨least, most⟩ := abs_le.mp rounded
  obtain ⟨low, high⟩ := abs_le.mp estimated
  rcases le_or_gt 0 quantity with bought | sold
  · calc quantity * (price - stop)
        ≤ quantity * (upper - stop) :=
          mul_le_mul_of_nonneg_left (by linarith) bought
      _ ≤ (notional / upper + half) * (upper - stop) :=
          mul_le_mul_of_nonneg_right (by linarith) distance
      _ ≤ amount + cent + half * (upper - stop) := by linarith
  · calc quantity * (price - stop)
        ≤ quantity * -(upper - stop) :=
          mul_le_mul_of_nonpos_left below sold.le
      _ = -quantity * (upper - stop) := by ring
      _ ≤ (half - notional / upper) * (upper - stop) :=
          mul_le_mul_of_nonneg_right (by linarith) distance
      _ ≤ amount + cent + half * (upper - stop) := by linarith

theorem recommend_rounded (sizer : PositionSizer) (config : TradeIdeaSizingConfig)
    (context : TradeIdeaSizingContext) (priced : 0 < context.currentPrice) :
    |(recommend sizer config context).quantity -
        (recommend sizer config context).notional / context.currentPrice| ≤
      config.quantityPrecision / 2 ∧
    |(recommend sizer config context).estimatedLossAmount -
        (recommend sizer config context).notional * context.stopLossDistance /
          context.currentPrice| ≤ config.notionalPrecision / 2 := by
  simp only [recommend, estimatedLossAmount, if_neg priced.not_ge]
  exact ⟨abs_quantizeTo_sub_le config.quantityPrecision_pos _,
    abs_quantizeTo_sub_le config.notionalPrecision_pos _⟩

theorem proposedLevels_eq_some {symbol : String} {close longNow : ℚ} {tick : Tick}
    {exitOverlay : Option ExitLevelsOverlay} {stop lower upper target : ℚ}
    (proposed : proposedLevels config symbol close longNow tick exitOverlay =
      some (stop, lower, upper, target)) :
    0 < stop ∧ stop < (lower + upper) / 2 ∧ (lower + upper) / 2 < target ∧
      ∀ level ∈ [stop, lower, upper, target], ∃ steps : ℤ, level = steps * tick.val := by
  have onTick : ∀ price, ∃ steps : ℤ,
      quantizePriceNearest price tick = steps * tick.val := fun price => ⟨_, rfl⟩
  unfold proposedLevels at proposed
  dsimp only at proposed
  split_ifs at proposed with refused ordered
  simp only [Option.some.injEq, Prod.mk.injEq] at proposed
  obtain ⟨rfl, rfl, rfl, rfl⟩ := proposed
  push Not at refused
  refine ⟨refused.1, ordered.1, ordered.2, ?_⟩
  simp only [List.forall_mem_cons, onTick, true_and]
  simp

theorem sizedIdea_sound {symbol : String} {stop lower upper target : ℚ} {tick : Tick}
    {confidence : Confidence} {idea : BaselineIdea}
    (positive : 0 < stop) (under : stop < (lower + upper) / 2)
    (above : (lower + upper) / 2 < target)
    (onTick : ∀ level ∈ [stop, lower, upper, target],
      ∃ steps : ℤ, level = steps * tick.val)
    (sized : sizedIdea sizer config symbol stop lower upper target confidence =
      .ok idea) : Sound config tick idea := by
  unfold sizedIdea at sized
  dsimp only at sized
  split_ifs at sized with zero negative
  obtain rfl := Except.ok.inj sized
  push Not at negative
  refine
    { stop_pos := positive
      stop_lt := under
      lt_target := above
      onTick := onTick
      loss := fun price low high => ?_ }
  dsimp only at low high
  have rounded := recommend_rounded sizer config.sizing
    { symbol := symbol
      currentPrice := upper
      confidenceLabel := confidence.label
      stopLossDistance := upper - stop
      takeProfitDistance := target - upper
      maxLossPct := config.riskPerIdeaPct } (by dsimp only; linarith)
  exact loss_le rounded.1 rounded.2 negative.1 high (by linarith)

theorem proposeForSeries_sound {confidenceOverlay : Option ConfidenceOverlay}
    {exitOverlay : Option ExitLevelsOverlay} {series : SymbolSeries}
    {idea : BaselineIdea}
    (proposed : proposeForSeries sizer config confidenceOverlay exitOverlay series =
      .ok (some idea)) :
    ∃ tick, series.proposalTick config.pricePrecision = .ok tick ∧
      Sound config tick idea := by
  unfold proposeForSeries at proposed
  split at proposed
  · cases proposed
  · obtain ⟨longNow, _, proposed⟩ := Outcome.bind_eq_ok.mp proposed
    cases longNow with
    | none => cases proposed
    | some longNow =>
        obtain ⟨tick, found, proposed⟩ := Outcome.bind_eq_ok.mp proposed
        refine ⟨tick, found, ?_⟩
        dsimp only at proposed
        split at proposed
        · cases proposed
        · rename_i stop lower upper target levels
          obtain ⟨positive, under, above, onTick⟩ := proposedLevels_eq_some levels
          obtain ⟨sized, accepted, same⟩ := Outcome.map_eq_ok.mp proposed
          obtain rfl := Option.some.inj same
          exact sizedIdea_sound positive under above onTick accepted

/-- Every proposed idea is sound for the tick of the series it was proposed for,
whatever the overlays change: a fill up to the middle of its entry zone has its target
above it. -/
theorem propose_sound {confidenceOverlay : Option ConfidenceOverlay}
    {exitOverlay : Option ExitLevelsOverlay} {snapshot : List SymbolSeries}
    {ideas : List BaselineIdea}
    (proposed : propose sizer config confidenceOverlay exitOverlay snapshot =
      .ok ideas) :
    ∀ idea ∈ ideas, (∃ series ∈ snapshot,
        proposeForSeries sizer config confidenceOverlay exitOverlay series =
          .ok (some idea) ∧
        ∃ tick, series.proposalTick config.pricePrecision = .ok tick ∧
          Sound config tick idea) ∧
      ∀ price ≤ idea.midpoint, price < idea.target := by
  intro idea member
  obtain ⟨results, traversed, rfl⟩ : ∃ results, snapshot.mapM
      (proposeForSeries sizer config confidenceOverlay exitOverlay) = .ok results ∧
        results.reduceOption = ideas := by
    obtain ⟨results, traversed, same⟩ := Outcome.bind_eq_ok.mp proposed
    exact ⟨results, traversed, Except.ok.inj same⟩
  obtain ⟨series, listed, found⟩ := Outcome.mem_mapM traversed
    (List.reduceOption_mem_iff.mp member)
  obtain ⟨tick, ticked, sound⟩ := proposeForSeries_sound found
  exact ⟨⟨series, listed, found, tick, ticked, sound⟩,
    fun price within => within.trans_lt sound.lt_target⟩

end Soundness

section Examples

def defaultConfig : BaselineProposerConfig :=
  { shortWindow := 10
    longWindow := 50
    crossoverLookback := 3
    riskPerIdeaPct := 2
    entryBandPct := 1
    rewardMultiple := 2
    pricePrecision := 1 / 100
    sizing :=
      { equity := 10000
        riskBudget := defaultRiskBudget
        quantityPlace := -8
        notionalPlace := -2 } }

def liftedSeries : SymbolSeries :=
  { symbol := "BTC-USD"
    candles := List.replicate 52 { close := 999 / 10, volume := 1 } ++
      [{ close := 100, volume := 2 }]
    priceIncrement := none
    priceIncrementError := none
    increment_pos := pos_of_mem_none }

def liftedIdea : BaselineIdea :=
  { symbol := "BTC-USD"
    entryLower := 99
    entryUpper := 101
    stop := 999 / 10
    target := 1002 / 10
    maxLossAmount := 218 / 100
    percentOfAccount := 218 / 10000
    quantity := 198019802 / 100000000
    notional := 200
    confidence :=
      { label := .medium
        rationale :=
          "Latest volume is above the long-window average, supporting the move" } }

/-- The last close lifts the short average above the long one. -/
theorem lifted_idea_is_sound :
    ∃ series ∈ [liftedSeries],
      proposeForSeries twoPercent defaultConfig none none series =
        .ok (some liftedIdea) ∧
      ∃ tick, series.proposalTick defaultConfig.pricePrecision = .ok tick ∧
        Sound defaultConfig tick liftedIdea :=
  (propose_sound (show propose twoPercent defaultConfig none none [liftedSeries] =
    .ok [liftedIdea] by decide +kernel) liftedIdea List.mem_cons_self).1

/-- A fill at the top of the zone is above the target. -/
theorem lifted_target_is_below_zone :
    propose twoPercent defaultConfig none none [liftedSeries] = .ok [liftedIdea] ∧
      ∃ price, liftedIdea.entryLower ≤ price ∧ price ≤ liftedIdea.entryUpper ∧
        ¬price < liftedIdea.target :=
  ⟨by decide +kernel, 101, by decide +kernel, by decide +kernel, by decide +kernel⟩

end Examples

end BaselineProposer

end GptTrader
