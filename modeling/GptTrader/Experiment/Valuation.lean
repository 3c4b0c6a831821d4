import GptTrader.Experiment.BarTrades
import GptTrader.Experiment.InputTexts
import GptTrader.Experiment.ReconciledRuns

/-!
# End valuation

`features/experiment/valuation.py`: what is still held is valued at liquidation,
and the gain before costs is rebuilt from the net gain, the fees and the slippage
inside the prices of the fills.
-/

namespace GptTrader

/-- What `_liquidation` returns. -/
structure Liquidation where
  value : ℚ
  fee : ℚ
  slippage : ℚ

/-- What `hold_the_coin` returns. -/
structure HoldTheCoin where
  entryBar : Json
  entryPrice : ℚ
  quantity : ℚ
  mark : ℚ
  liquidationEquity : ℚ
  netPnl : ℚ
  fees : ℚ
  slippage : ℚ
  fullSizeMovePct : ℚ

/-- What `end_valuation` returns of events. -/
structure EndValuation where
  markBar : Json
  positionOpenAtEnd : Bool
  liquidationEquity : ℚ
  netPnl : ℚ
  roundTrips : ℕ
  fees : ℚ
  slippage : ℚ
  gainBeforeCosts : ℚ
  feeShareOfGain : Option ℚ
  slippageShareOfGain : Option ℚ
  holdTheCoin : Option HoldTheCoin

section Valuation

variable (context : DecimalContext) (source : ExperimentInput)

/-- What a sale of everything would bring. -/
def liquidation (quantity close : ℚ) : Liquidation :=
  let price := salePrice context source.settings close
  let fee := fillFee context source.settings quantity price
  { value := context.sub (context.mul quantity price) fee
    fee := fee
    slippage := context.mul quantity (context.sub close price) }

def fillSlippage (fill : FillFact) : Except EngineError ℚ := do
  let slip := slippage context source.settings
  if fill.side = "buy" then
    let reference ← quotient context fill.price (context.add 1 slip)
    .ok (context.mul fill.quantity (context.sub fill.price reference))
  else
    let reference ← quotient context fill.price (context.sub 1 slip)
    .ok (context.mul fill.quantity (context.sub reference fill.price))

/-- `source.candles[index]`. -/
def candleAt (index : ℕ) : Except EngineError RecordedBar :=
  match source.candles[index]? with
  | none => .error (.internal "IndexError")
  | some bar => .ok bar

def holdTheCoin (lastSequence : ℕ) : Except EngineError (Option HoldTheCoin) :=
  let settings := source.settings
  let first := source.scoredIndex
  if lastSequence < first then .ok none
  else do
    let slip := slippage context settings
    let fee := feeRate context settings
    let entry ← candleAt source first
    let price := context.mul entry.openPrice (context.add 1 slip)
    let cash := settings.initialCash
    let affordable ← quotient context cash
      (context.mul price (context.add 1 fee))
    let exposed ← quotient context
      (context.mul cash settings.exposureFraction) price
    let quantity := context.mul
      (TextFormats.truncate (context.div (min affordable exposed)
        settings.quantityIncrement))
      settings.quantityIncrement
    let entryFee := context.mul (context.mul quantity price) fee
    let last ← candleAt source lastSequence
    let close := last.close
    let exit := liquidation context source quantity close
    let value := context.add (context.sub
      (context.sub cash (context.mul quantity price)) entryFee) exit.value
    let moved ← quotient context close entry.openPrice
    .ok (some
      { entryBar := entry.row.item "ts"
        entryPrice := price
        quantity := quantity
        mark := close
        liquidationEquity := value
        netPnl := context.sub value cash
        fees := context.add entryFee exit.fee
        slippage := context.add
          (context.mul quantity (context.sub price entry.openPrice))
          exit.slippage
        fullSizeMovePct := context.mul (context.sub moved 1) 100 })

/-- The valuation at the end of a run. -/
def endValuation (events : List ExperimentEvent) (account : AccountReport) :
    Except EngineError (Option EndValuation) :=
  if events = [] then .ok none
  else do
    let last := events.length - 1
    let fills := allFills events
    let bar ← candleAt source last
    let exit := liquidation context source account.quantity bar.close
    let equity := context.add account.cash exit.value
    let net := context.sub equity source.settings.initialCash
    let fees := context.add account.fees exit.fee
    let inFills ← fills.mapM (fillSlippage context source)
    let slippage := context.add (context.sum inFills) exit.slippage
    let gross := context.add (context.add net fees) slippage
    let held ← holdTheCoin context source last
    .ok (some
      { markBar := bar.row.item "ts"
        positionOpenAtEnd := decide (0 < account.quantity)
        liquidationEquity := equity
        netPnl := net
        roundTrips := (fills.filter fun fill => fill.side = "sell").length
        fees := fees
        slippage := slippage
        gainBeforeCosts := gross
        feeShareOfGain :=
          if 0 < gross then some (context.div fees gross) else none
        slippageShareOfGain :=
          if 0 < gross then some (context.div slippage gross) else none
        holdTheCoin := held })

end Valuation

/-- The price at which a bar closes a position, before slippage. -/
inductive ExitPrice (source : ExperimentInput) (bar : RecordedBar)
    (before : AccountState) : ℚ → Prop where
  | atOpen (decided : before.exitPending source.benchmark = true) :
      ExitPrice source bar before bar.openPrice
  | inside {plan : EntryPlan} {reference : ℚ} {reason : String}
      (held : before.position = some plan ∨
        before.position = none ∧ before.pending = some plan)
      (exit : protectiveExit bar plan = some (reference, reason)) :
      ExitPrice source bar before reference

/-- A trade at a price before slippage. -/
structure RawTrade where
  side : FillSide
  quantity : ℚ
  reference : ℚ

def RawTrade.credit (trade : RawTrade) : ℚ :=
  match trade.side with
  | .buy => -(trade.quantity * trade.reference)
  | .sell => trade.quantity * trade.reference

def RawTrade.price (context : DecimalContext) (settings : ExperimentSettings)
    (trade : RawTrade) : ℚ :=
  match trade.side with
  | .buy => purchasePrice context settings trade.reference
  | .sell => salePrice context settings trade.reference

def RawTrade.Referred (source : ExperimentInput) (bar : RecordedBar)
    (before : AccountState) (trade : RawTrade) : Prop :=
  match trade.side with
  | .buy => trade.reference = bar.openPrice
  | .sell => ExitPrice source bar before trade.reference

/-- A fill of a bar is a trade at its reference price with slippage. -/
structure FillsTrade (context : DecimalContext) (source : ExperimentInput)
    (bar : RecordedBar) (before : AccountState) (fact : FillFact)
    (trade : RawTrade) : Prop where
  settles : fact.Settles context source.settings trade.side trade.quantity
    (trade.price context source.settings)
  referred : trade.Referred source bar before

section Bars

variable {world : EngineWorld} {source : ExperimentInput} {sequence : ℕ}
  {bar : RecordedBar}

/-- The fills of a bar are trades at a reference price. -/
theorem tradeBar_trades (found : source.candles[sequence]? = some bar)
    {state : AccountState} {work : BarWork} (orderly : Orderly source state)
    (trades : tradeBar world source sequence bar state = .ok work) :
    ∃ raw, List.Forall₂ (FillsTrade world.decimals source bar state) work.fills
      raw := by
  unfold tradeBar at trades
  split at trades
  · cases trades
  next left leaves =>
  obtain ⟨_, _, choice⟩ := leaveAtOpen_cases found orderly leaves
  split at trades
  · cases trades
  next entered enters =>
  obtain ⟨_, _, _, entry⟩ := enterAtOpen_cases found enters
  obtain ⟨_, _, _, exit⟩ := leaveInside_cases found trades
  rcases choice with ⟨unfilled, rfl⟩ |
    ⟨decided, _, none, flat, fact, sold, fills, _⟩
  · rcases entry with ⟨unfilled', kept⟩ |
      ⟨plan, quantity, bought, entry, fills, kept⟩
    · have position := congrArg Holdings.position kept
      dsimp only [AccountState.holdings] at position
      rcases exit with ⟨unfilled'', _⟩ |
        ⟨plan, reference, _, fact, held, exit, sold, fills, _⟩
      · refine ⟨[], ?_⟩
        rw [unfilled'', unfilled', unfilled]
        exact .nil
      · refine ⟨[⟨.sell, entered.state.quantity, reference⟩], ?_⟩
        rw [fills, unfilled', unfilled]
        exact .cons ⟨sold.settles, .inside (.inl (position ▸ held)) exit⟩ .nil
    · have buys : FillsTrade world.decimals source bar left.state bought
          ⟨.buy, quantity, bar.openPrice⟩ := ⟨entry.filled.settles, rfl⟩
      have position := congrArg Holdings.position kept
      change entered.state.position = some plan at position
      rcases exit with ⟨unfilled', _⟩ |
        ⟨plan', reference, _, fact, held, exit, sold, fills', _⟩
      · refine ⟨[⟨.buy, quantity, bar.openPrice⟩], ?_⟩
        rw [unfilled', fills, unfilled]
        exact .cons buys .nil
      · rw [position] at held
        cases held
        refine ⟨[⟨.buy, quantity, bar.openPrice⟩,
          ⟨.sell, entered.state.quantity, reference⟩], ?_⟩
        rw [fills', fills, unfilled]
        exact .cons buys (.cons ⟨sold.settles,
          .inside (.inr ⟨entry.flat, entry.planned⟩) exit⟩ .nil)
  · rcases entry with ⟨unfilled, kept⟩ | ⟨plan, _, _, entry, _, _⟩
    · have position := congrArg Holdings.position kept
      dsimp only [AccountState.holdings] at position
      rcases exit with ⟨unfilled', _⟩ | ⟨_, _, _, _, held, _⟩
      · refine ⟨[⟨.sell, state.quantity, bar.openPrice⟩], ?_⟩
        rw [unfilled', unfilled, fills]
        exact .cons ⟨sold.settles, .atOpen decided⟩ .nil
      · rw [position, flat] at held
        cases held
    · have planned := entry.planned
      rw [none] at planned
      cases planned

/-- The trades of a run, bar by bar. -/
structure TradesRun (context : DecimalContext) (source : ExperimentInput)
    (events : List ExperimentEvent) (raw : List (List RawTrade)) : Prop where
  counted : raw.length = events.length
  filled : ∀ (index : ℕ) event trades, events[index]? = some event →
    raw[index]? = some trades → ∃ bar, source.candles[index]? = some bar ∧
      List.Forall₂ (FillsTrade context source bar
        (stateAfter source (events.take index))) event.fills trades

theorem runBars_trades {transports : ℕ → Option DecisionTransport} {count : ℕ}
    {events : List ExperimentEvent}
    (ran : runBars world source transports count = .ok events) :
    ∃ raw, TradesRun world.decimals source events raw := by
  have each : ∀ index : Fin events.length, ∃ trades bar,
      source.candles[index.1]? = some bar ∧
      List.Forall₂ (FillsTrade world.decimals source bar
        (stateAfter source (events.take index.1))) (events[index]).fills
        trades := by
    intro index
    have placed := List.getElem?_eq_getElem index.2
    obtain ⟨advanced, orderly⟩ := runBars_advance ran placed
    unfold advance at advanced
    split at advanced
    · cases advanced
    · next bar found =>
        unfold advanceBar at advanced
        split at advanced
        · cases advanced
        · next work trades =>
            obtain ⟨_, _, made⟩ := Outcome.map_eq_ok.mp advanced
            obtain ⟨raw, filled⟩ := tradeBar_trades found orderly trades
            refine ⟨raw, bar, found, ?_⟩
            have fills := congrArg ExperimentEvent.fills made
            dsimp only at fills
            rw [fills] at filled
            exact filled
  choose trades bars found filled using each
  refine ⟨List.ofFn trades, List.length_ofFn, ?_⟩
  intro index event raw placed listed
  obtain ⟨bound, same⟩ := List.getElem?_eq_some_iff.mp placed
  rw [List.getElem?_ofFn, dif_pos bound] at listed
  cases listed
  refine ⟨bars ⟨index, bound⟩, found ⟨index, bound⟩, ?_⟩
  rw [← same]
  exact filled ⟨index, bound⟩

end Bars

def FillFact.credit (fill : FillFact) : ℚ :=
  fill.quantity * fill.price * (if fill.side = "buy" then -1 else 1)

def FillFact.charge (fill : FillFact) : ℚ :=
  fill.fee.getD 0

section Exact

variable {source : ExperimentInput}

theorem enterAll_exact {books after : CashBooks} {fills : List FillFact}
    (entered : books.enterAll .exact fills = .ok after) :
    after.cash = books.cash + (fills.map FillFact.credit).sum -
        (fills.map FillFact.charge).sum ∧
      after.fees = books.fees + (fills.map FillFact.charge).sum := by
  induction fills generalizing books with
  | nil =>
      cases entered
      simp
  | cons fill rest induction =>
      unfold CashBooks.enterAll at entered
      split at entered
      · cases entered
      · next next step =>
          obtain ⟨cash, fees⟩ := induction entered
          have stepped : next.cash = books.cash + fill.credit - fill.charge ∧
              next.fees = books.fees + fill.charge := by
            unfold CashBooks.enter at step
            unfold FillFact.credit FillFact.charge
            split at step
            · cases step
            · next fee charged =>
                rw [charged, Option.getD_some]
                dsimp only at step
                split at step
                · cases step
                · split at step
                  · next buys =>
                      cases step
                      rw [if_pos buys]
                      exact ⟨by simp [DecimalContext.add, DecimalContext.sub,
                        DecimalContext.mul, DecimalContext.exact]; ring, rfl⟩
                  · next sells =>
                      cases step
                      rw [if_neg sells]
                      exact ⟨by simp [DecimalContext.add, DecimalContext.sub,
                        DecimalContext.mul, DecimalContext.exact]; ring, rfl⟩
          rw [cash, fees, stepped.1, stepped.2]
          simp only [List.map_cons, List.sum_cons]
          constructor <;> ring

theorem fillSlippage_exact {bar : RecordedBar} {before : AccountState}
    {fact : FillFact} {trade : RawTrade}
    (filled : FillsTrade .exact source bar before fact trade) :
    fillSlippage .exact source fact = .ok (trade.credit - fact.credit) := by
  obtain ⟨nonneg, below⟩ := slippage_exact_bounds source.settings
  obtain ⟨sided, sized, priced, _, _⟩ := filled.settles
  have added : DecimalContext.exact.add 1 (slippage .exact source.settings) ≠ 0 := by
    change 1 + slippage .exact source.settings ≠ 0
    linarith
  have taken : DecimalContext.exact.sub 1 (slippage .exact source.settings) ≠ 0 := by
    change 1 - slippage .exact source.settings ≠ 0
    linarith
  unfold fillSlippage FillFact.credit RawTrade.credit quotient
  unfold RawTrade.price at priced
  rw [sized]
  obtain ⟨side, quantity, reference⟩ := trade
  cases side with
  | buy =>
      have buys : FillSide.buy.value = "buy" := rfl
      rw [sided]
      dsimp only at priced ⊢
      rw [if_pos buys, if_neg added, if_pos buys, priced, purchasePrice_exact]
      change Except.ok (quantity * (reference * (1 + slippage .exact source.settings) -
        reference * (1 + slippage .exact source.settings) /
          (1 + slippage .exact source.settings))) = _
      have back : reference * (1 + slippage .exact source.settings) /
          (1 + slippage .exact source.settings) = reference :=
        mul_div_cancel_right₀ _ added
      rw [back]
      congr 1
      ring
  | sell =>
      have other : FillSide.sell.value ≠ "buy" := by decide
      rw [sided]
      dsimp only at priced ⊢
      rw [if_neg other, if_neg taken, if_neg other, priced, salePrice_exact]
      change Except.ok (quantity * (reference * (1 - slippage .exact source.settings) /
        (1 - slippage .exact source.settings) -
          reference * (1 - slippage .exact source.settings))) = _
      have back : reference * (1 - slippage .exact source.settings) /
          (1 - slippage .exact source.settings) = reference :=
        mul_div_cancel_right₀ _ taken
      rw [back]
      congr 1
      ring

theorem mapM_fillSlippage {bar : RecordedBar} {before : AccountState}
    {fills : List FillFact} {trades : List RawTrade}
    (filled : List.Forall₂ (FillsTrade .exact source bar before) fills trades) :
    ∃ slippages, fills.mapM (fillSlippage .exact source) = .ok slippages ∧
      slippages.sum = (trades.map RawTrade.credit).sum -
        (fills.map FillFact.credit).sum := by
  induction filled with
  | nil => exact ⟨[], rfl, by simp⟩
  | cons first rest induction =>
      rename_i fact trade fills trades
      obtain ⟨slippages, traversed, total⟩ := induction
      refine ⟨(trade.credit - fact.credit) :: slippages, ?_, ?_⟩
      · rw [List.mapM_cons, fillSlippage_exact first, traversed]
        rfl
      · simp only [List.map_cons, List.sum_cons, total]
        ring

theorem TradesRun.slippages {events : List ExperimentEvent}
    {raw : List (List RawTrade)} (trades : TradesRun .exact source events raw) :
    ∃ slippages, (allFills events).mapM (fillSlippage .exact source) =
        .ok slippages ∧
      slippages.sum = (raw.flatten.map RawTrade.credit).sum -
        ((allFills events).map FillFact.credit).sum := by
  have each : List.Forall₂ (fun (event : ExperimentEvent) trades =>
      ∃ slippages, event.fills.mapM (fillSlippage .exact source) =
          .ok slippages ∧
        slippages.sum = (trades.map RawTrade.credit).sum -
          (event.fills.map FillFact.credit).sum) events raw := by
    rw [List.forall₂_iff_get]
    refine ⟨trades.counted.symm, ?_⟩
    intro index bound bound'
    obtain ⟨bar, _, filled⟩ := trades.filled index _ _
      (List.getElem?_eq_getElem bound) (List.getElem?_eq_getElem bound')
    exact mapM_fillSlippage filled
  clear trades
  unfold allFills
  induction each with
  | nil => exact ⟨[], rfl, by simp⟩
  | cons first _ induction =>
      obtain ⟨early, traversed, total⟩ := first
      obtain ⟨late, others, sum⟩ := induction
      refine ⟨early ++ late, ?_, ?_⟩
      · rw [List.flatMap_cons, List.mapM_append, traversed, others]
        rfl
      · rw [List.sum_append, total, sum, List.flatten_cons, List.flatMap_cons,
          List.map_append, List.map_append, List.sum_append, List.sum_append]
        ring

theorem sum_exact (values : List ℚ) :
    DecimalContext.exact.sum values = values.sum := by
  unfold DecimalContext.sum
  rw [List.sum_eq_foldl]
  rfl

theorem candleAt_of_lt {index : ℕ} (bound : index < source.candles.length) :
    ∃ bar, source.candles[index]? = some bar ∧
      candleAt source index = .ok bar := by
  have found := List.getElem?_eq_getElem bound
  refine ⟨_, found, ?_⟩
  unfold candleAt
  rw [found]

theorem holdTheCoin_exact {lastSequence : ℕ}
    (bound : lastSequence < source.candles.length) :
    ∃ held, holdTheCoin .exact source lastSequence = .ok held := by
  obtain ⟨slip, _⟩ := slippage_exact_bounds source.settings
  obtain ⟨charged, _⟩ := feeRate_exact_bounds source.settings
  unfold holdTheCoin
  dsimp only
  split
  · exact ⟨none, rfl⟩
  · obtain ⟨entry, _, entry_eq⟩ := candleAt_of_lt source.scored
    obtain ⟨last, _, last_eq⟩ := candleAt_of_lt bound
    have opened := entry.positive.1
    have priced : 0 < DecimalContext.exact.mul entry.openPrice
        (DecimalContext.exact.add 1 (slippage .exact source.settings)) :=
      purchasePrice_exact_pos source.settings opened
    have afforded : DecimalContext.exact.mul
        (DecimalContext.exact.mul entry.openPrice
          (DecimalContext.exact.add 1 (slippage .exact source.settings)))
        (DecimalContext.exact.add 1 (feeRate .exact source.settings)) ≠ 0 := by
      apply mul_ne_zero priced.ne'
      change 1 + feeRate .exact source.settings ≠ 0
      linarith
    unfold quotient
    rw [entry_eq, last_eq]
    dsimp only [bind, Except.bind]
    rw [if_neg afforded, if_neg priced.ne', if_neg opened.ne']
    exact ⟨_, rfl⟩

/-- What the end valuation says of the costs of a run. -/
structure CostsAttributed (source : ExperimentInput)
    (events : List ExperimentEvent) (account : AccountReport)
    (valuation : EndValuation) : Prop where
  held : account.quantity = (stateAfter source events).quantity
  attributed : ∃ raw bar, TradesRun .exact source events raw ∧
    source.candles[events.length - 1]? = some bar ∧
    valuation.gainBeforeCosts = (raw.flatten.map RawTrade.credit).sum +
      account.quantity * bar.close ∧
    valuation.netPnl = ((allFills events).map FillFact.credit).sum +
      account.quantity * salePrice .exact source.settings bar.close -
      (((allFills events).map FillFact.charge).sum +
        fillFee .exact source.settings account.quantity
          (salePrice .exact source.settings bar.close))
  total : valuation.gainBeforeCosts =
    valuation.netPnl + valuation.fees + valuation.slippage

/-- In exact arithmetic the costs of a run are attributed. -/
theorem endValuation_exact {world : EngineWorld}
    (exactly : world.decimals = .exact)
    {transports : ℕ → Option DecisionTransport} {count : ℕ}
    {events : List ExperimentEvent}
    (ran : runBars world source transports count = .ok events)
    (started : events ≠ []) {account : AccountReport}
    (reconciled : reconcile .exact source events = .ok account) :
    ∃ valuation, endValuation .exact source events account =
        .ok (some valuation) ∧
      CostsAttributed source events account valuation := by
  obtain ⟨raw, trades⟩ := runBars_trades ran
  rw [exactly] at trades
  have length : 0 < events.length := List.length_pos_iff.mpr started
  have within : events.length - 1 < source.candles.length := by
    have placed := List.getElem?_eq_getElem
      (show events.length - 1 < events.length by omega)
    obtain ⟨bar, work, run⟩ := runBars_event ran placed
    exact (List.getElem?_eq_some_iff.mp run.found).1
  obtain ⟨bar, found, bar_eq⟩ := candleAt_of_lt within
  obtain ⟨held, held_eq⟩ := holdTheCoin_exact within
  obtain ⟨slippages, traversed, total⟩ := trades.slippages
  unfold reconcile at reconciled
  dsimp only at reconciled
  split at reconciled
  · split at reconciled
    · cases reconciled
    · next books entered =>
        split at reconciled
        · cases reconciled
        · split at reconciled
          · cases reconciled
          · next inventory projected =>
              obtain ⟨agrees, same⟩ := Outcome.branch_eq_ok.mp reconciled
              cases same
              obtain ⟨cash, fees⟩ := enterAll_exact entered
              refine ⟨_, by
                unfold endValuation
                rw [if_neg started]
                dsimp only
                rw [bar_eq, traversed, held_eq]
                rfl, ?_⟩
              refine ⟨agrees.2.1, ⟨raw, bar, trades, found, ?_, ?_⟩, rfl⟩
              · have opening : (CashBooks.opening source).cash =
                    source.settings.initialCash := rfl
                have none : (CashBooks.opening source).fees = 0 := rfl
                rw [opening] at cash
                rw [none] at fees
                dsimp only [accountReport, liquidation]
                rw [sum_exact, total, cash, fees]
                dsimp only [DecimalContext.add, DecimalContext.sub,
                  DecimalContext.mul, DecimalContext.exact, id]
                ring
              · have opening : (CashBooks.opening source).cash =
                    source.settings.initialCash := rfl
                rw [opening] at cash
                dsimp only [accountReport, liquidation]
                rw [cash]
                dsimp only [DecimalContext.add, DecimalContext.sub,
                  DecimalContext.mul, DecimalContext.exact, id]
                ring
  · cases reconciled

theorem runBars_within {world : EngineWorld}
    {transports : ℕ → Option DecisionTransport} {count : ℕ}
    {events : List ExperimentEvent}
    (ran : runBars world source transports count = .ok events) :
    count ≤ source.candles.length := by
  have length := length_runBars ran
  cases count with
  | zero => exact Nat.zero_le _
  | succ count =>
      have placed := List.getElem?_eq_getElem
        (show count < events.length by omega)
      obtain ⟨_, _, run⟩ := runBars_event ran placed
      exact (List.getElem?_eq_some_iff.mp run.found).1

end Exact

/-- In exact arithmetic every run reconciles and is valued at its end, with the
gain before costs at the prices of the bars. -/
theorem exact_costs_attributed (world : EngineWorld)
    (exactly : world.decimals = .exact) (source : ExperimentInput)
    (transports : ℕ → Option DecisionTransport) (count : ℕ)
    (events : List ExperimentEvent)
    (ran : runBars world source transports count = .ok events) :
    ∃ account, reconcile .exact source events = .ok account ∧
      ∃ valuation, endValuation .exact source events account = .ok valuation ∧
        (valuation = none ↔ events = []) ∧
        ∀ found, valuation = some found →
          CostsAttributed source events account found := by
  have length := length_runBars ran
  have reconciles := ((exact_runs_reconcile world exactly source transports
    count (runBars_within ran)).2 events ran count le_rfl).1
  rw [exactly, ← length, List.take_length] at reconciles
  obtain ⟨account, reconciled⟩ := reconciles
  refine ⟨account, reconciled, ?_⟩
  by_cases started : events = []
  · refine ⟨none, ?_, by simp [started], ?_⟩
    · unfold endValuation
      exact if_pos started
    · intro found absent
      cases absent
  · obtain ⟨valuation, valued, attributed⟩ :=
      endValuation_exact exactly ran started reconciled
    refine ⟨some valuation, valued, by simp [started], ?_⟩
    intro found same
    cases same
    exact attributed

theorem ten_dollars : (0 : ℚ) < 10 := by
  norm_num

theorem reached_positive :
    (0 : ℚ) < 1 ∧ (0 : ℚ) < 5 ∧ (0 : ℚ) < 1 ∧ (0 : ℚ) < 1 := by
  norm_num

theorem reached_consistent : (1 : ℚ) ≤ min 1 1 ∧ max 1 1 ≤ (5 : ℚ) := by
  norm_num

theorem coin_feeRate : (0 : ℚ) ≤ 60 ∧ (60 : ℚ) < 10000 := by
  norm_num

theorem coin_slippageRate : (0 : ℚ) ≤ 5 ∧ (5 : ℚ) < 10000 := by
  norm_num

/-- Ten dollars with ordinary costs; the third bar reaches the target. -/
def costlyInput : ExperimentInput :=
  { coinInput 10 1 ten_dollars whole_exposure with
    candles := [
      dollarBar 0 "1970-01-01T00:00:00+00:00",
      dollarBar 1 "1970-01-01T01:00:00+00:00",
      { dollarBar 2 "1970-01-01T02:00:00+00:00" with
        high := 5
        positive := reached_positive
        consistent := reached_consistent
        traded := untraded },
      dollarBar 3 "1970-01-01T03:00:00+00:00"]
    settings :=
      { (coinInput 10 1 ten_dollars whole_exposure).settings with
        feeBps := 60
        slippageBps := 5
        feeRate := coin_feeRate
        slippageRate := coin_slippageRate }
    counted := by decide
    contiguous := by decide
    scored := by decide
    ruled := by
      rw [if_pos (by decide)]
      exact
        { counted := by decide
          capped := fun version member => by
            rw [List.mem_singleton.mp member]
            exact le_rfl
          numbered := rfl
          placed := ⟨[0], rfl, List.pairwise_singleton .., rfl⟩ } }

/-- Coins are bought, sold and bought again, with fees and slippage. -/
theorem coin_run_costs_attributed :
    ∃ events account valuation,
      runBars (quietWorld .exact id) costlyInput (fun _ => none) 4 = .ok events ∧
      (allFills events).map FillFact.side = ["buy", "sell", "buy"] ∧
      CostsAttributed costlyInput events account valuation := by
  have traded : (runBars (quietWorld .exact id) costlyInput
      (fun _ => none) 4).map (fun events => (allFills events).map FillFact.side) =
        .ok ["buy", "sell", "buy"] := by
    decide +kernel
  obtain ⟨events, ran, filled⟩ := Outcome.map_eq_ok.mp traded
  obtain ⟨account, _, valuation, _, absent, attributed⟩ :=
    exact_costs_attributed (quietWorld .exact id) rfl _ _ 4 events ran
  cases valuation with
  | none =>
      rw [absent.mp rfl] at filled
      exact absurd filled (by decide)
  | some valuation =>
      exact ⟨events, account, valuation, ran, filled, attributed valuation rfl⟩

end GptTrader
