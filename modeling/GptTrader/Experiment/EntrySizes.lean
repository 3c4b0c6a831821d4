import GptTrader.Experiment.BarTrades
import GptTrader.Python.DecimalAccuracy

/-!
# Entry sizes under rounding

Every cap on the size of an entry holds up to the error of the operators that
compute it; in exact arithmetic there is none.
-/

namespace GptTrader

section Rates

variable {context : DecimalContext} {unit : ℚ}
variable (settings : ExperimentSettings)

theorem rate_bounds (accurate : context.Accurate unit) {bps : ℚ}
    (nonneg : 0 ≤ bps) (below : bps < 10000) :
    0 ≤ context.div bps 10000 ∧ context.div bps 10000 ≤ 1 := by
  have part : bps / 10000 ≤ 1 := by
    rw [div_le_one (by norm_num)]
    exact below.le
  exact ⟨accurate.round_nonneg (by positivity), accurate.round_le_one part⟩

section

variable (accurate : context.Accurate unit)

include accurate

theorem feeRate_bounds :
    0 ≤ feeRate context settings ∧ feeRate context settings ≤ 1 :=
  rate_bounds accurate settings.feeRate.1 settings.feeRate.2

theorem slippage_bounds :
    0 ≤ slippage context settings ∧ slippage context settings ≤ 1 :=
  rate_bounds accurate settings.slippageRate.1 settings.slippageRate.2

theorem saleFactor_bounds :
    0 ≤ context.sub 1 (slippage context settings) ∧
      context.sub 1 (slippage context settings) ≤ 1 := by
  obtain ⟨nonneg, most⟩ := slippage_bounds settings accurate
  exact ⟨accurate.round_nonneg (by linarith),
    accurate.round_le_one (by linarith)⟩

theorem salePrice_mono {lower higher : ℚ} (le : lower ≤ higher) :
    salePrice context settings lower ≤ salePrice context settings higher :=
  accurate.monotone
    (mul_le_mul_of_nonneg_right le (saleFactor_bounds settings accurate).1)

theorem salePrice_nonneg {reference : ℚ} (nonneg : 0 ≤ reference) :
    0 ≤ salePrice context settings reference :=
  accurate.round_nonneg
    (mul_nonneg nonneg (saleFactor_bounds settings accurate).1)

theorem salePrice_le {stop price : ℚ} (nonneg : 0 ≤ stop) (below : stop ≤ price)
    (rounded : context.round price = price) :
    salePrice context settings stop ≤ price := by
  rw [← rounded]
  apply accurate.monotone
  exact (mul_le_of_le_one_right nonneg
    (saleFactor_bounds settings accurate).2).trans below

end

end Rates

/-- What an entry may spend and lose, up to a part of the cash. -/
structure EntryRails (context : DecimalContext)
    (settings : ExperimentSettings) (slack cash price stop quantity : ℚ) :
    Prop where
  funded : 0 < cash
  affordable : quantity * price * (1 + feeRate context settings) ≤
    cash * (1 + slack)
  exposed : quantity * price ≤
    settings.exposureFraction * cash * (1 + slack)
  risked : quantity * ((price - salePrice context settings stop) +
      feeRate context settings * (price + salePrice context settings stop)) ≤
    settings.riskFraction * cash * (1 + slack)
  whole : ∃ count : ℕ, 0 < count ∧
    quantity = context.round (count * settings.quantityIncrement)

section Sizes

variable {context : DecimalContext} {unit : ℚ} {settings : ExperimentSettings}

theorem within_slack (accurate : context.Accurate unit) {spent cap : ℚ}
    (nonneg : 0 ≤ cap)
    (within : spent * (1 - unit) ^ 3 ≤ cap * (1 + unit) ^ 4) :
    spent ≤ cap * (1 + 10 * unit) := by
  have low := accurate.nonneg
  have high := accurate.small
  have shrunk : (0 : ℚ) < (1 - unit) ^ 3 := by
    have : (0 : ℚ) < 1 - unit := by linarith
    positivity
  have grown : (1 + unit) ^ 4 ≤ (1 + 10 * unit) * (1 - unit) ^ 3 := by
    nlinarith [mul_nonneg low low, mul_nonneg (mul_nonneg low low) low,
      mul_nonneg low (sub_nonneg.mpr high),
      mul_nonneg (mul_nonneg low low) (sub_nonneg.mpr high),
      mul_nonneg (mul_nonneg (mul_nonneg low low) low)
        (sub_nonneg.mpr high)]
  have scaled := mul_le_mul_of_nonneg_left grown nonneg
  rw [← mul_assoc] at scaled
  exact le_of_mul_le_mul_right (within.trans scaled) shrunk

theorem worth_of_le_div (accurate : context.Accurate unit)
    {quantity amount divisor worth rest : ℚ}
    (positive : 0 < divisor) (amountNonneg : 0 ≤ amount)
    (within : quantity ≤ context.div amount divisor * (1 + unit) ^ 2)
    (worthy : worth * (1 - unit) ^ 3 ≤ divisor) (bought : 0 < quantity)
    (rounded : amount ≤ rest * (1 + unit)) :
    quantity * worth * (1 - unit) ^ 3 ≤ rest * (1 + unit) ^ 4 := by
  have low := accurate.nonneg
  have divided := accurate.round_le
    (div_nonneg amountNonneg positive.le)
  change context.div amount divisor ≤ _ at divided
  calc
    quantity * worth * (1 - unit) ^ 3
      = quantity * (worth * (1 - unit) ^ 3) := by ring
    _ ≤ quantity * divisor := mul_le_mul_of_nonneg_left worthy bought.le
    _ ≤ amount / divisor * (1 + unit) * (1 + unit) ^ 2 * divisor := by
        apply mul_le_mul_of_nonneg_right _ positive.le
        exact within.trans (mul_le_mul_of_nonneg_right divided (by positivity))
    _ = amount * (1 + unit) ^ 3 := by
        field_simp
    _ ≤ rest * (1 + unit) * (1 + unit) ^ 3 :=
        mul_le_mul_of_nonneg_right rounded (by positivity)
    _ = rest * (1 + unit) ^ 4 := by ring

theorem quotient_eq_ok {left right value : ℚ}
    (divided : quotient context left right = .ok value) :
    right ≠ 0 ∧ value = context.div left right := by
  unfold quotient at divided
  rw [Outcome.guard_eq_ok] at divided
  exact ⟨divided.1, (Except.ok.inj divided.2).symm⟩

section

variable (accurate : context.Accurate unit)

include accurate

theorem pos_of_div_pos {amount divisor : ℚ} (positive : 0 < divisor)
    (divided : 0 < context.div amount divisor) : 0 < amount :=
  (div_pos_iff_of_pos_right positive).mp
    (accurate.pos_of_round_pos divided)

theorem rounded_increments {cap increment : ℚ} (positive : 0 < increment)
    (bought : 0 < context.mul
      (TextFormats.truncate (context.div cap increment)) increment) :
    0 < cap ∧
      context.mul (TextFormats.truncate (context.div cap increment)) increment ≤
        cap * (1 + unit) ^ 2 ∧
      ∃ count : ℕ, 0 < count ∧
        context.mul (TextFormats.truncate (context.div cap increment))
          increment = context.round (count * increment) := by
  have low := accurate.nonneg
  have steps : 0 < TextFormats.truncate (context.div cap increment) := by
    exact_mod_cast pos_of_mul_pos_left (accurate.pos_of_round_pos bought)
      positive.le
  have truncated := truncate_le steps
  have stepped : (0 : ℚ) <
      TextFormats.truncate (context.div cap increment) := by
    exact_mod_cast steps
  have funded := pos_of_div_pos accurate positive (stepped.trans_le truncated)
  have divided := accurate.round_le (div_pos funded positive).le
  change context.div cap increment ≤ _ at divided
  refine ⟨funded, ?_, ?_⟩
  · calc
      context.mul (TextFormats.truncate (context.div cap increment)) increment
        ≤ TextFormats.truncate (context.div cap increment) * increment *
            (1 + unit) := accurate.round_le (mul_pos stepped positive).le
      _ ≤ cap / increment * (1 + unit) * increment * (1 + unit) := by
          apply mul_le_mul_of_nonneg_right _ (by linarith)
          exact mul_le_mul_of_nonneg_right (truncated.trans divided)
            positive.le
      _ = cap * (1 + unit) ^ 2 := by
          field_simp
  · obtain ⟨count, counted⟩ := Int.eq_ofNat_of_zero_le steps.le
    rw [counted] at steps ⊢
    exact ⟨count, by exact_mod_cast steps, by
      rw [Int.cast_natCast]
      rfl⟩

theorem le_lossPerUnit {price stop : ℚ} (rounded : context.round price = price)
    (guarded : 0 < stop) (below : stop < price) :
    ((price - salePrice context settings stop) +
        feeRate context settings *
          (price + salePrice context settings stop)) * (1 - unit) ^ 3 ≤
      lossPerUnit context settings price stop := by
  have low := accurate.nonneg
  have high := accurate.small
  have sold := salePrice_nonneg settings accurate guarded.le
  have most := salePrice_le settings accurate guarded.le below.le
    rounded
  have fee := (feeRate_bounds settings accurate).1
  unfold lossPerUnit
  dsimp only
  generalize salePrice context settings stop = exit at *
  generalize feeRate context settings = rate at *
  have spread := accurate.le_round (show 0 ≤ price - exit by linarith)
  have turned := accurate.le_round (show 0 ≤ price + exit by linarith)
  have roundedTurn : 0 ≤ context.add price exit :=
    accurate.round_nonneg (by linarith)
  have charged := accurate.le_round (mul_nonneg fee roundedTurn)
  have chargedTurn : rate * (price + exit) * (1 - unit) ^ 2 ≤
      context.mul rate (context.add price exit) := by
    calc
      rate * (price + exit) * (1 - unit) ^ 2
        = rate * ((price + exit) * (1 - unit)) * (1 - unit) := by ring
      _ ≤ rate * context.add price exit * (1 - unit) := by
          apply mul_le_mul_of_nonneg_right _ (by linarith)
          exact mul_le_mul_of_nonneg_left turned fee
      _ ≤ context.mul rate (context.add price exit) := charged
  have spreadTwice : (price - exit) * (1 - unit) ^ 2 ≤
      context.sub price exit := by
    refine le_trans ?_ spread
    apply mul_le_mul_of_nonneg_left _ (by linarith)
    exact pow_le_of_le_one (by linarith) (by linarith) (by norm_num)
  have nonneg : 0 ≤ context.sub price exit +
      context.mul rate (context.add price exit) := by
    have first := mul_nonneg (show 0 ≤ price - exit by linarith)
      (sq_nonneg (1 - unit))
    have second := mul_nonneg (mul_nonneg fee
      (show 0 ≤ price + exit by linarith)) (sq_nonneg (1 - unit))
    linarith
  calc
    ((price - exit) + rate * (price + exit)) * (1 - unit) ^ 3
      = ((price - exit) * (1 - unit) ^ 2 +
          rate * (price + exit) * (1 - unit) ^ 2) * (1 - unit) := by ring
    _ ≤ (context.sub price exit +
          context.mul rate (context.add price exit)) * (1 - unit) := by
        apply mul_le_mul_of_nonneg_right _ (by linarith)
        linarith
    _ ≤ _ := accurate.le_round nonneg

/-- The size of an entry is positive only with cash, and within every cap. -/
theorem entryQuantity_rails {cash price stop quantity : ℚ} {sizeFraction : Option ℚ}
    (rounded : context.round price = price) (guarded : 0 < stop) (below : stop < price)
    (capped : ∀ size ∈ sizeFraction, size ≤ settings.exposureFraction)
    (sized : entryQuantity context settings cash price stop sizeFraction =
      .ok quantity) (bought : 0 < quantity) :
    EntryRails context settings (10 * unit) cash price stop quantity := by
  have low := accurate.nonneg
  have high := accurate.small
  have positive := guarded.trans below
  have fee := (feeRate_bounds settings accurate).1
  obtain ⟨affordable, spent, sized⟩ := Outcome.bind_eq_ok.mp sized
  obtain ⟨exposed, shown, sized⟩ := Outcome.bind_eq_ok.mp sized
  obtain ⟨risked, lost, sized⟩ := Outcome.bind_eq_ok.mp sized
  obtain ⟨_, rfl⟩ := quotient_eq_ok spent
  obtain ⟨_, rfl⟩ := quotient_eq_ok shown
  obtain ⟨lossy, rfl⟩ := quotient_eq_ok lost
  cases sized
  obtain ⟨funded, within, whole⟩ :=
    rounded_increments accurate settings.incremented bought
  have bounds := lt_min_iff.mp funded
  have firstBounds := lt_min_iff.mp bounds.1
  have charge : 0 < context.add 1 (feeRate context settings) :=
    accurate.round_pos (by linarith)
  have charged : 0 < context.mul price
      (context.add 1 (feeRate context settings)) :=
    accurate.round_pos (mul_pos positive charge)
  have cashPositive := pos_of_div_pos accurate charged firstBounds.1
  have factor : (1 - unit) ^ 3 ≤ 1 :=
    pow_le_one₀ (by linarith) (by linarith)
  have sizePositive : 0 < cash *
      sizeFraction.getD settings.exposureFraction :=
    accurate.pos_of_round_pos (pos_of_div_pos accurate positive firstBounds.2)
  have fraction : sizeFraction.getD settings.exposureFraction ≤
      settings.exposureFraction := by
    cases sizeFraction with
    | none => exact le_rfl
    | some size => exact capped size rfl
  have lossNonneg : 0 ≤ lossPerUnit context settings price stop := by
    refine le_trans ?_ (le_lossPerUnit accurate rounded guarded below)
    have sold := salePrice_nonneg settings accurate guarded.le
    have most := salePrice_le settings accurate guarded.le
      below.le rounded
    have turn := mul_nonneg fee
      (show 0 ≤ price + salePrice context settings stop by linarith)
    apply mul_nonneg (by linarith)
    exact pow_nonneg (by linarith) 3
  have lossPositive := lt_of_le_of_ne lossNonneg lossy.symm
  have scale := sq_nonneg (1 + unit)
  generalize context.mul (TextFormats.truncate (context.div _ _)) _ =
    quantity at *
  constructor
  case funded => exact cashPositive
  case affordable =>
    rw [mul_assoc]
    apply within_slack accurate cashPositive.le
    apply worth_of_le_div accurate charged cashPositive.le _ _ bought
      (le_mul_of_one_le_right cashPositive.le (by linarith))
    · exact within.trans (mul_le_mul_of_nonneg_right
        ((min_le_left _ _).trans (min_le_left _ _)) scale)
    · have added := accurate.le_round
        (show 0 ≤ 1 + feeRate context settings by linarith)
      have multiplied := accurate.le_round (mul_pos positive charge).le
      calc
        price * (1 + feeRate context settings) * (1 - unit) ^ 3
          ≤ price * (1 + feeRate context settings) * (1 - unit) ^ 2 := by
            apply mul_le_mul_of_nonneg_left _
              (mul_nonneg positive.le (by linarith))
            exact pow_le_pow_of_le_one (by linarith) (by linarith)
              (by norm_num)
        _ = price * ((1 + feeRate context settings) * (1 - unit)) *
              (1 - unit) := by ring
        _ ≤ price * context.add 1 (feeRate context settings) *
              (1 - unit) := by
            apply mul_le_mul_of_nonneg_right _ (by linarith)
            exact mul_le_mul_of_nonneg_left added positive.le
        _ ≤ _ := multiplied
  case exposed =>
    have most : cash * sizeFraction.getD settings.exposureFraction ≤
        settings.exposureFraction * cash := by
      rw [mul_comm settings.exposureFraction]
      exact mul_le_mul_of_nonneg_left fraction cashPositive.le
    refine le_trans ?_ (mul_le_mul_of_nonneg_right most (by linarith))
    apply within_slack accurate sizePositive.le
    apply worth_of_le_div accurate positive
      (accurate.round_nonneg sizePositive.le) _
      (mul_le_of_le_one_right positive.le factor) bought
      (accurate.round_le sizePositive.le)
    exact within.trans (mul_le_mul_of_nonneg_right
      ((min_le_left _ _).trans (min_le_right _ _)) scale)
  case risked =>
    have riskPositive := mul_pos cashPositive settings.risk.1
    rw [mul_comm settings.riskFraction]
    apply within_slack accurate riskPositive.le
    apply worth_of_le_div accurate lossPositive
      (accurate.round_nonneg riskPositive.le) _
      (le_lossPerUnit accurate rounded guarded below) bought
      (accurate.round_le riskPositive.le)
    exact within.trans (mul_le_mul_of_nonneg_right (min_le_right _ _) scale)
  case whole => exact whole

end

/-! ## Round trips -/

theorem fillFee_bounds (settings : ExperimentSettings)
    (accurate : context.Accurate unit)
    {quantity price : ℚ} (bought : 0 < quantity) (priced : 0 < price) :
    0 ≤ fillFee context settings quantity price ∧
      fillFee context settings quantity price ≤
        quantity * price * (settings.feeBps / 10000) +
          4 * unit * (quantity * price) := by
  obtain ⟨nonneg, below⟩ := settings.feeRate
  have low := accurate.nonneg
  have high := accurate.small
  have worth := (mul_pos bought priced).le
  have first := accurate.round_le worth
  have second := accurate.round_le (mul_nonneg
    (accurate.round_nonneg worth) nonneg)
  have third := accurate.round_le (div_nonneg (accurate.round_nonneg
    (mul_nonneg (accurate.round_nonneg worth) nonneg))
      (show (0 : ℚ) ≤ 10000 by norm_num))
  have part : settings.feeBps / 10000 ≤ 1 := by
    rw [div_le_one (by norm_num)]
    exact below.le
  constructor
  · exact accurate.round_nonneg (div_nonneg (accurate.round_nonneg
      (mul_nonneg (accurate.round_nonneg worth) nonneg)) (by norm_num))
  · calc
      fillFee context settings quantity price
        ≤ context.round (context.round (quantity * price) * settings.feeBps) /
            10000 * (1 + unit) := third
      _ ≤ quantity * price * (1 + unit) * settings.feeBps * (1 + unit) /
            10000 * (1 + unit) := by
          apply mul_le_mul_of_nonneg_right _ (by linarith)
          apply div_le_div_of_nonneg_right _ (by norm_num)
          refine second.trans (mul_le_mul_of_nonneg_right ?_ (by linarith))
          exact mul_le_mul_of_nonneg_right first nonneg
      _ = quantity * price * (settings.feeBps / 10000) * (1 + unit) ^ 3 := by
          ring
      _ ≤ quantity * price * (settings.feeBps / 10000) * (1 + 4 * unit) := by
          apply mul_le_mul_of_nonneg_left _
            (mul_nonneg worth (by positivity))
          nlinarith [mul_nonneg low low,
            mul_nonneg low (sub_nonneg.mpr high),
            mul_nonneg (mul_nonneg low low) (sub_nonneg.mpr high)]
      _ ≤ _ := by
          have slack := mul_le_mul_of_nonneg_left part
            (mul_nonneg (mul_nonneg (show (0 : ℚ) ≤ 4 by norm_num) low) worth)
          linarith

theorem rate_le_feeRate (settings : ExperimentSettings)
    (accurate : context.Accurate unit) :
    settings.feeBps / 10000 ≤ feeRate context settings + unit := by
  obtain ⟨nonneg, below⟩ := settings.feeRate
  have part : settings.feeBps / 10000 ≤ 1 := by
    rw [div_le_one (by norm_num)]
    exact below.le
  have rounded := accurate.le_round
    (show 0 ≤ settings.feeBps / 10000 by positivity)
  change _ ≤ feeRate context settings at rounded
  have slack := mul_le_mul_of_nonneg_left part accurate.nonneg
  linarith

/-- Six roundings of the cash move it by a small part of what is moved. -/
theorem roundTrip_rounding (accurate : context.Accurate unit)
    {cash worth fee proceeds saleFee : ℚ} (funded : 0 < cash)
    (worthPos : 0 < worth) (within : worth ≤ 2 * cash)
    (feeNonneg : 0 ≤ fee) (feeBound : fee ≤ 2 * worth)
    (proceedsPos : 0 < proceeds) (saleNonneg : 0 ≤ saleFee)
    (saleBound : saleFee ≤ 2 * proceeds) :
    cash - worth - fee + proceeds - saleFee -
        unit * (105 * cash + 9 * proceeds) ≤
      context.sub
        (context.add
          (context.sub (context.sub cash (context.round worth)) fee)
          (context.round proceeds))
        saleFee := by
  have low := accurate.nonneg
  have high := accurate.small
  have part : ∀ {amount : ℚ}, 0 ≤ amount → unit * amount ≤ amount := by
    intro amount nonneg
    exact mul_le_of_le_one_left nonneg (by linarith)
  obtain ⟨first, firstEq, firstLow, firstHigh⟩ :=
    accurate.exists_error worth (abs_of_pos worthPos).le
  have firstPart := part worthPos.le
  obtain ⟨second, secondEq, secondLow, secondHigh⟩ :=
    accurate.exists_error (cash - context.round worth)
      (show |cash - context.round worth| ≤ cash + 2 * worth by
        rw [firstEq, abs_le]
        constructor <;> linarith)
  have secondPart := part (show 0 ≤ cash + 2 * worth by linarith)
  obtain ⟨third, thirdEq, thirdLow, thirdHigh⟩ :=
    accurate.exists_error (context.sub cash (context.round worth) - fee)
      (show |context.sub cash (context.round worth) - fee| ≤
          2 * cash + 6 * worth by
        unfold DecimalContext.sub
        rw [secondEq, firstEq, abs_le]
        constructor <;> linarith)
  have thirdPart := part (show 0 ≤ 2 * cash + 6 * worth by linarith)
  obtain ⟨fourth, fourthEq, fourthLow, fourthHigh⟩ :=
    accurate.exists_error proceeds (abs_of_pos proceedsPos).le
  have fourthPart := part proceedsPos.le
  obtain ⟨fifth, fifthEq, fifthLow, fifthHigh⟩ :=
    accurate.exists_error
      (context.sub (context.sub cash (context.round worth)) fee +
        context.round proceeds)
      (show |context.sub (context.sub cash (context.round worth)) fee +
          context.round proceeds| ≤ 4 * cash + 12 * worth + 2 * proceeds by
        unfold DecimalContext.sub at thirdEq ⊢
        rw [thirdEq, secondEq, firstEq, fourthEq, abs_le]
        constructor <;> linarith)
  have fifthPart := part
    (show 0 ≤ 4 * cash + 12 * worth + 2 * proceeds by linarith)
  obtain ⟨sixth, sixthEq, sixthLow, sixthHigh⟩ :=
    accurate.exists_error
      (context.add (context.sub (context.sub cash (context.round worth)) fee)
        (context.round proceeds) - saleFee)
      (show |context.add (context.sub (context.sub cash
          (context.round worth)) fee) (context.round proceeds) - saleFee| ≤
            8 * cash + 24 * worth + 6 * proceeds by
        unfold DecimalContext.add DecimalContext.sub at *
        rw [fifthEq, thirdEq, secondEq, firstEq, fourthEq, abs_le]
        constructor <;> linarith)
  have most := mul_le_mul_of_nonneg_left within low
  unfold DecimalContext.add DecimalContext.sub at *
  rw [sixthEq, fifthEq, thirdEq, secondEq, firstEq, fourthEq]
  linarith

/-- What a round trip that is not sold below its stop takes from the cash. -/
theorem roundTrip_loss (accurate : context.Accurate unit)
    {cash price stop quantity exit : ℚ}
    (rails : EntryRails context settings (10 * unit) cash price stop quantity)
    (rounded : context.round price = price) (guarded : 0 < stop)
    (below : stop < price) (bought : 0 < quantity)
    (protects : salePrice context settings stop ≤ exit) (sold : 0 < exit) :
    cash - context.sub
        (context.add
          (context.sub (context.sub cash (context.mul quantity price))
            (fillFee context settings quantity price))
          (context.mul quantity exit))
        (fillFee context settings quantity exit) ≤
      settings.riskFraction * cash +
        200 * unit * (cash + quantity * exit) := by
  have low := accurate.nonneg
  have high := accurate.small
  have priced := guarded.trans below
  have cashPositive := rails.funded
  have worth := mul_pos bought priced
  have proceeds := mul_pos bought sold
  obtain ⟨rateNonneg, rateBelow⟩ := settings.feeRate
  have rate : 0 ≤ settings.feeBps / 10000 := by positivity
  have part : settings.feeBps / 10000 ≤ 1 := by
    rw [div_le_one (by norm_num)]
    exact rateBelow.le
  have rateBound := rate_le_feeRate settings accurate
  obtain ⟨fee, feeBound⟩ :=
    fillFee_bounds settings accurate bought priced
  obtain ⟨saleFee, saleFeeBound⟩ :=
    fillFee_bounds settings accurate bought sold
  have stopped := mul_le_mul_of_nonneg_left protects bought.le
  have belowPrice := mul_le_mul_of_nonneg_left
    (salePrice_le settings accurate guarded.le below.le rounded) bought.le
  have stopNonneg := mul_nonneg bought.le
    (salePrice_nonneg settings accurate guarded.le)
  have risked := rails.risked
  have rewritten : quantity * ((price - salePrice context settings stop) +
      feeRate context settings * (price + salePrice context settings stop)) =
    quantity * price - quantity * salePrice context settings stop +
      feeRate context settings *
        (quantity * price + quantity * salePrice context settings stop) := by
    ring
  rw [rewritten] at risked
  have within : quantity * price ≤ 2 * cash := by
    have most := mul_le_mul_of_nonneg_right settings.exposure.2
      cashPositive.le
    have grown := mul_le_mul_of_nonneg_right most
      (show 0 ≤ 1 + 10 * unit by linarith)
    have slack := mul_le_mul_of_nonneg_left high cashPositive.le
    linarith [rails.exposed]
  change _ - context.sub (context.add (context.sub (context.sub cash
    (context.round (quantity * price))) _) (context.round (quantity * exit)))
      _ ≤ _
  generalize quantity * salePrice context settings stop = atStop at *
  generalize quantity * price = cost at *
  generalize quantity * exit = yield at *
  generalize fillFee context settings quantity price = charge at *
  generalize fillFee context settings quantity exit = saleCharge at *
  generalize settings.feeBps / 10000 = exactRate at *
  have chargeBound : charge ≤ 2 * cost := by
    have slack := mul_le_mul_of_nonneg_right high worth.le
    have share := mul_le_mul_of_nonneg_left part worth.le
    linarith
  have saleChargeBound : saleCharge ≤ 2 * yield := by
    have slack := mul_le_mul_of_nonneg_right high proceeds.le
    have share := mul_le_mul_of_nonneg_left part proceeds.le
    linarith
  have rounding := roundTrip_rounding accurate cashPositive worth within fee
    chargeBound proceeds saleFee saleChargeBound
  -- Selling higher than at the stop only helps, whatever the fee takes of it.
  have helps : 0 ≤ (1 - exactRate) * (yield - atStop) :=
    mul_nonneg (by linarith) (by linarith)
  have rates : exactRate * (cost + atStop) ≤
      (feeRate context settings + unit) * (cost + atStop) :=
    mul_le_mul_of_nonneg_right rateBound (by linarith)
  have risk : settings.riskFraction * cash ≤ cash :=
    mul_le_of_le_one_left cashPositive.le settings.risk.2
  have riskSlack := mul_le_mul_of_nonneg_left risk low
  have costSlack := mul_le_mul_of_nonneg_left within low
  have stopSlack := mul_le_mul_of_nonneg_left belowPrice low
  have yieldSlack := mul_nonneg low proceeds.le
  have cashSlack := mul_nonneg low cashPositive.le
  linarith

end Sizes

end GptTrader
