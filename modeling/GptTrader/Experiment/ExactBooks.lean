import GptTrader.Experiment.ChannelEffects
import GptTrader.Experiment.RecordedFills

/-!
# The books of exact runs

The engine keeps its account fill by fill; reconciliation derives it again from
all fills.  In exact arithmetic both agree after every bar of every run.
-/

namespace GptTrader

/-! ## Rates -/

section Rates

variable (settings : ExperimentSettings)

theorem slippage_exact_bounds :
    0 ≤ slippage .exact settings ∧ slippage .exact settings < 1 := by
  obtain ⟨nonneg, below⟩ := settings.slippageRate
  change 0 ≤ settings.slippageBps / 10000 ∧ settings.slippageBps / 10000 < 1
  constructor
  · positivity
  · rw [div_lt_one (by norm_num)]
    exact below

theorem feeRate_exact_bounds :
    0 ≤ feeRate .exact settings ∧ feeRate .exact settings < 1 := by
  obtain ⟨nonneg, below⟩ := settings.feeRate
  change 0 ≤ settings.feeBps / 10000 ∧ settings.feeBps / 10000 < 1
  constructor
  · positivity
  · rw [div_lt_one (by norm_num)]
    exact below

theorem salePrice_exact (reference : ℚ) :
    salePrice .exact settings reference =
      reference * (1 - slippage .exact settings) :=
  rfl

theorem salePrice_exact_pos {reference : ℚ} (positive : 0 < reference) :
    0 < salePrice .exact settings reference := by
  have bound := (slippage_exact_bounds settings).2
  rw [salePrice_exact]
  exact mul_pos positive (by linarith)

theorem purchasePrice_exact (reference : ℚ) :
    purchasePrice .exact settings reference =
      reference * (1 + slippage .exact settings) :=
  rfl

theorem purchasePrice_exact_pos {reference : ℚ} (positive : 0 < reference) :
    0 < purchasePrice .exact settings reference := by
  have bound := (slippage_exact_bounds settings).1
  rw [purchasePrice_exact]
  exact mul_pos positive (by linarith)

theorem fillFee_exact (quantity price : ℚ) :
    fillFee .exact settings quantity price =
      quantity * price * feeRate .exact settings := by
  change quantity * price * settings.feeBps / 10000 =
    quantity * price * (settings.feeBps / 10000)
  ring

theorem lossPerUnit_exact (price stop : ℚ) :
    lossPerUnit .exact settings price stop =
      price - salePrice .exact settings stop + feeRate .exact settings *
        (price + salePrice .exact settings stop) :=
  rfl

theorem lossPerUnit_exact_pos {price stop : ℚ} (positive : 0 < price)
    (below : stop < price) : 0 < lossPerUnit .exact settings price stop := by
  obtain ⟨nonneg, less⟩ := slippage_exact_bounds settings
  obtain ⟨fee, part⟩ := feeRate_exact_bounds settings
  rw [lossPerUnit_exact]
  have sold : salePrice .exact settings stop < price := by
    rw [salePrice_exact]
    rcases le_or_gt stop 0 with negative | held
    · exact (mul_nonpos_of_nonpos_of_nonneg negative (by linarith)).trans_lt
        positive
    · exact (mul_le_of_le_one_right held.le (by linarith)).trans_lt below
  have spread : 0 < (price - salePrice .exact settings stop) *
      (1 - feeRate .exact settings) :=
    mul_pos (by linarith) (by linarith)
  have cost := mul_nonneg fee positive.le
  linarith

end Rates

/-! ## Sizes -/

/-- An entry size in exact arithmetic: whole increments within every cap. -/
structure EntrySized (settings : ExperimentSettings)
    (cash price stop : ℚ) (sizeFraction : Option ℚ) (quantity : ℚ) : Prop where
  affordable : quantity * (price * (1 + feeRate .exact settings)) ≤ cash
  exposed : quantity * price ≤
    cash * sizeFraction.getD settings.exposureFraction
  risked : quantity * lossPerUnit .exact settings price stop ≤
    cash * settings.riskFraction
  whole : ∃ count : ℕ, 0 < count ∧
    quantity = count * settings.quantityIncrement

theorem truncate_le {value : ℚ} (positive : 0 < TextFormats.truncate value) :
    (TextFormats.truncate value : ℚ) ≤ value := by
  unfold TextFormats.truncate at positive ⊢
  split
  · exact Int.floor_le value
  · next negative =>
      rw [if_neg negative] at positive
      have above := Int.ceil_lt_add_one value
      have atLeast : (1 : ℚ) ≤ (⌈value⌉ : ℤ) := by exact_mod_cast positive
      linarith

theorem whole_increments {cap increment : ℚ} (positive : 0 < increment)
    (bought : 0 < (TextFormats.truncate (cap / increment) : ℚ) * increment) :
    (TextFormats.truncate (cap / increment) : ℚ) * increment ≤ cap ∧
      ∃ count : ℕ, 0 < count ∧
        (TextFormats.truncate (cap / increment) : ℚ) * increment =
          count * increment := by
  have steps : 0 < TextFormats.truncate (cap / increment) := by
    exact_mod_cast pos_of_mul_pos_left bought positive.le
  constructor
  · rw [← le_div_iff₀ positive]
    exact truncate_le steps
  · obtain ⟨count, counted⟩ := Int.eq_ofNat_of_zero_le steps.le
    rw [counted] at steps ⊢
    exact ⟨count, by exact_mod_cast steps, by rw [Int.cast_natCast]⟩

theorem entryQuantity_exact (settings : ExperimentSettings) (cash : ℚ)
    {price stop : ℚ} (sizeFraction : Option ℚ) (positive : 0 < price)
    (below : stop < price) :
    ∃ quantity, entryQuantity .exact settings cash price stop sizeFraction =
      .ok quantity ∧
      (0 < quantity →
        EntrySized settings cash price stop sizeFraction quantity) := by
  have feeNonneg := (feeRate_exact_bounds settings).1
  have charged : 0 < price * (1 + feeRate .exact settings) :=
    mul_pos positive (by linarith)
  have loss := lossPerUnit_exact_pos settings positive below
  have chargedMul : DecimalContext.exact.mul price
      (DecimalContext.exact.add 1 (feeRate .exact settings)) =
        price * (1 + feeRate .exact settings) := rfl
  let cap := min (min
    (cash / (price * (1 + feeRate .exact settings)))
    (cash * sizeFraction.getD settings.exposureFraction / price))
    (cash * settings.riskFraction / lossPerUnit .exact settings price stop)
  refine ⟨TextFormats.truncate (cap / settings.quantityIncrement) *
    settings.quantityIncrement, ?_, fun bought => ?_⟩
  · unfold entryQuantity quotient
    rw [chargedMul, if_neg charged.ne', if_neg positive.ne', if_neg loss.ne']
    rfl
  · obtain ⟨within, whole⟩ := whole_increments settings.incremented bought
    refine ⟨?_, ?_, ?_, whole⟩
    · rw [← le_div_iff₀ charged]
      exact within.trans ((min_le_left _ _).trans (min_le_left _ _))
    · rw [← le_div_iff₀ positive]
      exact within.trans ((min_le_left _ _).trans (min_le_right _ _))
    · rw [← le_div_iff₀ loss]
      exact within.trans (min_le_right _ _)

/-! ## Accounts -/

def inventoryAfter (context : DecimalContext) (source : ExperimentInput)
    (fills : List FillFact) : Inventory :=
  fills.foldl (Inventory.applyIn context) (.opening (openingBaseline source))

theorem inventoryAfter_append (context : DecimalContext)
    (source : ExperimentInput) (fills : List FillFact) (fill : FillFact) :
    inventoryAfter context source (fills ++ [fill]) =
      (inventoryAfter context source fills).applyIn context fill :=
  List.foldl_append

/-- What the fact of a fill says. -/
structure FillFact.Settles (context : DecimalContext)
    (settings : ExperimentSettings) (fact : FillFact) (side : FillSide)
    (quantity price : ℚ) : Prop where
  sided : fact.side = side.value
  sized : fact.quantity = quantity
  priced : fact.price = price
  charged : fact.fee = some (fillFee context settings quantity price)
  currency : fact.feeCurrency = some "USD"

theorem fill_eq_ok {context : DecimalContext} {source : ExperimentInput}
    {sequence : ℕ} {bar : RecordedBar} {side : FillSide} {quantity price : ℚ}
    {state after : AccountState} {fact : FillFact}
    (found : source.candles[sequence]? = some bar)
    (filled : fill context source sequence bar side quantity price state =
      .ok (fact, after)) :
    0 < quantity ∧ 0 < price ∧
      fact.RecordedOn source sequence side ∧
      fact.Settles context source.settings side quantity price ∧
      fact.executedAt = fillTime bar side ∧
      after = state.settle context source.settings side quantity price := by
  obtain ⟨made, checked, same⟩ := Outcome.map_eq_ok.mp filled
  cases same
  unfold fillFact at checked
  split at checked
  · next positive =>
      cases checked
      exact ⟨positive.1, positive.2,
        { named := rfl, traded := rfl, sided := rfl,
          timed := ⟨bar, found, rfl⟩ },
        { sided := rfl, sized := rfl, priced := rfl, charged := rfl,
          currency := rfl }, rfl, rfl⟩
  · cases checked

theorem fill_of_pos (context : DecimalContext) (source : ExperimentInput)
    (sequence : ℕ) (bar : RecordedBar) (side : FillSide) {quantity price : ℚ}
    (state : AccountState) (bought : 0 < quantity) (priced : 0 < price) :
    ∃ fact, fill context source sequence bar side quantity price state =
      .ok (fact, state.settle context source.settings side quantity price) := by
  unfold fill fillFact
  rw [dif_pos ⟨bought, priced⟩]
  exact ⟨_, rfl⟩

/-- The state is what the fills say, in exact arithmetic. -/
structure Accounted (source : ExperimentInput) (fills : List FillFact)
    (state : AccountState) (books : CashBooks) : Prop where
  entered : (CashBooks.opening source).enterAll .exact fills = .ok books
  cash : books.cash = state.cash
  fees : books.fees = state.fees
  quantity : (inventoryAfter .exact source fills).quantity = state.quantity
  costBasis : state.costBasis =
    (inventoryAfter .exact source fills).quantity *
      (inventoryAfter .exact source fills).entry + books.entryFees
  realizedNet : state.realizedNet =
    (inventoryAfter .exact source fills).realized - books.realizedFees
  conserved : books.cash = source.settings.initialCash +
    (inventoryAfter .exact source fills).realized -
    (inventoryAfter .exact source fills).quantity *
      (inventoryAfter .exact source fills).entry - books.fees
  charged : books.fees = books.realizedFees + books.entryFees
  unopened : state.quantity = 0 → books.entryFees = 0
  solvent : 0 ≤ state.cash
  long : 0 ≤ state.quantity

/-- The cash after a purchase. -/
def CashBooks.afterBuy (context : DecimalContext) (books : CashBooks)
    (notional fee : ℚ) : CashBooks :=
  { cash := context.add books.cash
      (context.sub (context.mul notional (-1)) fee)
    fees := context.add books.fees fee
    entryFees := context.add books.entryFees fee
    realizedFees := books.realizedFees }

def CashBooks.afterSell (context : DecimalContext) (books : CashBooks)
    (notional fee : ℚ) : CashBooks :=
  { cash := context.add books.cash
      (context.sub (context.mul notional 1) fee)
    fees := context.add books.fees fee
    entryFees := 0
    realizedFees := context.add books.realizedFees
      (context.add books.entryFees fee) }

theorem CashBooks.enter_buy {context : DecimalContext}
    {settings : ExperimentSettings} {books : CashBooks} {fact : FillFact}
    {quantity price : ℚ}
    (settles : fact.Settles context settings .buy quantity price)
    (nonneg : 0 ≤ fillFee context settings quantity price) :
    books.enter context fact = .ok (books.afterBuy context
      (context.mul quantity price)
      (fillFee context settings quantity price)) := by
  have bought : fact.side = "buy" := settles.sided
  unfold enter
  rw [settles.charged, settles.currency, settles.sized, settles.priced, bought]
  dsimp only
  rw [if_neg (by simp [nonneg]), if_pos rfl, if_pos rfl]
  rfl

theorem CashBooks.enter_sell {context : DecimalContext}
    {settings : ExperimentSettings} {books : CashBooks} {fact : FillFact}
    {quantity price : ℚ}
    (settles : fact.Settles context settings .sell quantity price)
    (nonneg : 0 ≤ fillFee context settings quantity price) :
    books.enter context fact = .ok (books.afterSell context
      (context.mul quantity price)
      (fillFee context settings quantity price)) := by
  have sold : fact.side = "sell" := settles.sided
  unfold enter
  rw [settles.charged, settles.currency, settles.sized, settles.priced, sold]
  dsimp only
  rw [if_neg (by simp [nonneg]), if_neg (by decide), if_neg (by decide)]
  rfl

section Inventories

variable {settings : ExperimentSettings} {inventory : Inventory}
variable {fact : FillFact} {quantity price : ℚ}

theorem inventory_buy (flat : inventory.quantity = 0) (some : quantity ≠ 0)
    (settles : fact.Settles .exact settings .buy quantity price) :
    inventory.applyIn .exact fact =
      { quantity := quantity
        entry := price
        realized := inventory.realized } := by
  have bought : fact.side = "buy" := settles.sided
  have signed : fact.signed = quantity := by
    unfold FillFact.signed
    rw [if_pos bought, settles.sized]
  rw [Inventory.applyIn_exact, Inventory.apply_adds _ _
    (by rw [flat, zero_mul]), flat, signed, settles.sized, settles.priced,
    abs_zero, zero_mul, zero_add, zero_add, mul_div_cancel_left₀ _ some]

theorem inventory_sell (held : inventory.quantity = quantity)
    (positive : 0 < quantity)
    (settles : fact.Settles .exact settings .sell quantity price) :
    inventory.applyIn .exact fact =
      { quantity := 0
        entry := 0
        realized :=
          inventory.realized + quantity * (price - inventory.entry) } := by
  have sold : fact.side = "sell" := settles.sided
  have signed : fact.signed = -quantity := by
    unfold FillFact.signed
    rw [sold, if_neg (by decide), settles.sized]
  have opposite : inventory.quantity * fact.signed < 0 := by
    rw [held, signed, mul_neg]
    exact neg_neg_of_pos (mul_pos positive positive)
  rw [Inventory.applyIn_exact, Inventory.apply_opposite _ _ opposite]
  unfold Inventory.direction
  rw [held, signed, settles.sized, settles.priced, abs_of_pos positive,
    if_neg (lt_irrefl _), if_pos rfl, min_self, if_pos positive, mul_one,
    add_neg_cancel]

end Inventories

namespace Accounted

variable {source : ExperimentInput} {fills : List FillFact}
variable {state : AccountState} {books : CashBooks} {fact : FillFact}
variable {quantity price : ℚ}

theorem initial (source : ExperimentInput) :
    Accounted source [] (initialState source) (.opening source) := by
  have inventory : inventoryAfter .exact source [] =
      { quantity := 0, entry := 0, realized := 0 } := rfl
  constructor
  case conserved =>
    rw [inventory]
    change source.settings.initialCash =
      source.settings.initialCash + 0 - 0 * 0 - 0
    ring
  case costBasis =>
    rw [inventory]
    change (0 : ℚ) = 0 * 0 + 0
    ring
  case realizedNet =>
    rw [inventory]
    change (0 : ℚ) = 0 - 0
    ring
  case charged =>
    change (0 : ℚ) = 0 + 0
    ring
  case entered => rfl
  case cash => rfl
  case fees => rfl
  case quantity => rfl
  case unopened => exact fun _ => rfl
  case solvent => exact source.settings.funded.le
  case long => exact le_rfl

theorem fillFee_exact_nonneg (settings : ExperimentSettings)
    (bought : 0 < quantity) (priced : 0 < price) :
    0 ≤ fillFee .exact settings quantity price := by
  rw [fillFee_exact]
  exact mul_nonneg (mul_pos bought priced).le (feeRate_exact_bounds settings).1

/-- A purchase from a flat account that can pay for it. -/
theorem buy (accounted : Accounted source fills state books)
    (flat : state.quantity = 0) (bought : 0 < quantity) (priced : 0 < price)
    (settles : fact.Settles .exact source.settings .buy quantity price)
    (paid : quantity * price + fillFee .exact source.settings quantity price ≤
      state.cash) :
    ∃ entered, Accounted source (fills ++ [fact])
      (state.settle .exact source.settings .buy quantity price) entered := by
  have nonneg := fillFee_exact_nonneg source.settings bought priced
  have inventory := inventory_buy (accounted.quantity.trans flat) bought.ne'
    settles
  rw [← inventoryAfter_append] at inventory
  have idle := accounted.unopened flat
  have unchanged := accounted.conserved
  have spent := accounted.charged
  rw [accounted.quantity, flat, accounted.cash] at unchanged
  rw [idle] at spent
  refine ⟨books.afterBuy .exact (quantity * price)
    (fillFee .exact source.settings quantity price), ?_⟩
  constructor
  case entered =>
    rw [CashBooks.enterAll_append_singleton accounted.entered]
    exact CashBooks.enter_buy settles nonneg
  case cash =>
    change books.cash + (quantity * price * -1 - fillFee .exact source.settings
      quantity price) = state.cash - quantity * price - fillFee .exact
        source.settings quantity price
    rw [accounted.cash]
    ring
  case fees =>
    change books.fees + _ = state.fees + _
    rw [accounted.fees]
  case quantity => rw [inventory]; rfl
  case costBasis =>
    rw [inventory]
    change quantity * price + fillFee .exact source.settings quantity price =
      quantity * price + (books.entryFees + fillFee .exact source.settings
        quantity price)
    rw [idle, zero_add]
  case realizedNet =>
    rw [inventory]
    exact accounted.realizedNet
  case conserved =>
    rw [inventory]
    change books.cash + (quantity * price * -1 - fillFee .exact source.settings
      quantity price) = source.settings.initialCash +
        (inventoryAfter .exact source fills).realized - quantity * price -
          (books.fees + fillFee .exact source.settings quantity price)
    rw [accounted.cash]
    linarith
  case charged =>
    change books.fees + fillFee .exact source.settings quantity price =
      books.realizedFees + (books.entryFees + fillFee .exact source.settings
        quantity price)
    rw [idle]
    linarith
  case unopened => exact fun none => absurd none bought.ne'
  case solvent =>
    change 0 ≤ state.cash - quantity * price - fillFee .exact
      source.settings quantity price
    linarith
  case long => exact bought.le

/-- The sale of everything held. -/
theorem sell (accounted : Accounted source fills state books)
    (held : 0 < state.quantity) (priced : 0 < price)
    (settles : fact.Settles .exact source.settings .sell state.quantity price) :
    ∃ entered, Accounted source (fills ++ [fact])
      (state.settle .exact source.settings .sell state.quantity price)
      entered := by
  have nonneg := fillFee_exact_nonneg source.settings held priced
  have inventory := inventory_sell accounted.quantity held settles
  rw [← inventoryAfter_append] at inventory
  have worth := mul_pos held priced
  have covered : fillFee .exact source.settings state.quantity price ≤
      state.quantity * price := by
    rw [fillFee_exact]
    exact mul_le_of_le_one_right worth.le
      (feeRate_exact_bounds source.settings).2.le
  have unchanged := accounted.conserved
  have spent := accounted.charged
  have solvent := accounted.solvent
  rw [accounted.quantity, accounted.cash] at unchanged
  refine ⟨books.afterSell .exact (state.quantity * price)
    (fillFee .exact source.settings state.quantity price), ?_⟩
  constructor
  case entered =>
    rw [CashBooks.enterAll_append_singleton accounted.entered]
    exact CashBooks.enter_sell settles nonneg
  case cash =>
    change books.cash + (state.quantity * price * 1 - fillFee .exact
      source.settings state.quantity price) = state.cash +
        state.quantity * price - fillFee .exact source.settings state.quantity
          price
    rw [accounted.cash]
    ring
  case fees =>
    change books.fees + _ = state.fees + _
    rw [accounted.fees]
  case quantity => rw [inventory]; rfl
  case costBasis =>
    rw [inventory]
    change (0 : ℚ) = 0 * 0 + 0
    ring
  case realizedNet =>
    rw [inventory]
    change state.realizedNet + state.quantity * price - fillFee .exact
        source.settings state.quantity price - state.costBasis =
      (inventoryAfter .exact source fills).realized + state.quantity *
          (price - (inventoryAfter .exact source fills).entry) -
        (books.realizedFees + (books.entryFees + fillFee .exact
          source.settings state.quantity price))
    rw [accounted.realizedNet, accounted.costBasis, accounted.quantity]
    ring
  case conserved =>
    rw [inventory]
    change books.cash + (state.quantity * price * 1 - fillFee .exact
      source.settings state.quantity price) = source.settings.initialCash +
        ((inventoryAfter .exact source fills).realized + state.quantity *
          (price - (inventoryAfter .exact source fills).entry)) - 0 * 0 -
          (books.fees + fillFee .exact source.settings state.quantity price)
    rw [accounted.cash]
    linarith
  case charged =>
    change books.fees + fillFee .exact source.settings state.quantity price =
      books.realizedFees + (books.entryFees + fillFee .exact source.settings
        state.quantity price) + 0
    linarith
  case unopened => exact fun _ => rfl
  case solvent =>
    change 0 ≤ state.cash + state.quantity * price - fillFee .exact
      source.settings state.quantity price
    linarith
  case long => exact le_rfl

end Accounted

end GptTrader
