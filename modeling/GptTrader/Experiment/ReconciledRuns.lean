import GptTrader.Experiment.ExactRuns
import GptTrader.Python.TableFormats

/-!
# Reconciliation accepts exact runs

What the engine keeps and what reconciliation derives are the same after every
bar, so no exact run is rejected.
-/

namespace GptTrader

section Run

variable {world : EngineWorld} {source : ExperimentInput}

theorem Accounted.agrees {fills : List FillFact} {state : AccountState}
    {books : CashBooks} (accounted : Accounted source fills state books)
    (mark : ℚ) (fillCount : ℕ) :
    booksAgree .exact source state books (inventoryAfter .exact source fills)
      (accountReport .exact state books (inventoryAfter .exact source fills)
        mark fillCount) := by
  have conserved := accounted.conserved
  have charged := accounted.charged
  refine ⟨accounted.cash, accounted.quantity, accounted.fees,
    accounted.costBasis, accounted.realizedNet, ?_, ?_, ?_, ?_⟩
  · rw [accounted.cash]
    exact accounted.solvent
  · rw [accounted.quantity]
    exact accounted.long
  · change (inventoryAfter .exact source fills).realized +
        (inventoryAfter .exact source fills).quantity *
          (mark - (inventoryAfter .exact source fills).entry) - books.fees =
      books.cash + (inventoryAfter .exact source fills).quantity * mark -
        source.settings.initialCash
    rw [conserved]
    ring
  · change state.realizedNet +
        ((inventoryAfter .exact source fills).quantity * mark -
          state.costBasis) =
      (inventoryAfter .exact source fills).realized +
        (inventoryAfter .exact source fills).quantity *
          (mark - (inventoryAfter .exact source fills).entry) - books.fees
    rw [accounted.costBasis, accounted.realizedNet, charged]
    ring

theorem reconcile_of_agrees {context : DecimalContext}
    {events : List ExperimentEvent} {now : ℤ} {books : CashBooks}
    (recorded : RecordedFills source (allFills events) now)
    (entered : (CashBooks.opening source).enterAll context (allFills events) =
      .ok books)
    (agrees : booksAgree context source (stateAfter source events) books
      (inventoryAfter context source (allFills events))
      (accountReport context (stateAfter source events) books
        (inventoryAfter context source (allFills events))
        (markAfter source events.length) (allFills events).length)) :
    ∃ report, reconcile context source events = .ok report := by
  have inventory := recorded.projectBooks_eq context
  change _ = some (inventoryAfter context source (allFills events))
    at inventory
  unfold reconcile
  dsimp only
  rw [if_pos recorded.ids_nodup, entered]
  dsimp only
  rw [recorded.traded, if_neg Bool.false_ne_true, inventory]
  dsimp only
  rw [if_pos agrees]
  exact ⟨_, rfl⟩

theorem Booked.reconciles {events : List ExperimentEvent} {now : ℤ}
    (booked : Booked source (allFills events) (stateAfter source events) now) :
    ∃ report, reconcile .exact source events = .ok report := by
  obtain ⟨books, accounted⟩ := booked.accounted
  exact reconcile_of_agrees booked.recorded accounted.entered
    (accounted.agrees _ _)

/-- An account that agrees with the fills and their exact projection. -/
structure SoundAccount (source : ExperimentInput) (fills : List FillFact)
    (state : AccountState) : Prop where
  identified : (fills.map (·.fillId)).Nodup
  solvent : 0 ≤ state.cash
  long : 0 ≤ state.quantity
  projected : ∃ books entry realized,
    let projection := projectPosition source.symbol fills
      (some (openingBaseline source)) []
    (CashBooks.opening source).enterAll .exact fills = .ok books ∧
      projection.complete ∧
      projection.quantity = some state.quantity ∧
      projection.entryPrice = some entry ∧
      projection.realizedPnl = some realized ∧
      state.costBasis = state.quantity * entry + books.entryFees ∧
      state.realizedNet = realized - books.realizedFees
  valued : ∀ mark,
    state.realizedNet + (state.quantity * mark - state.costBasis) =
      state.cash + state.quantity * mark - source.settings.initialCash

theorem Booked.sound {fills : List FillFact} {state : AccountState} {now : ℤ}
    (booked : Booked source fills state now) :
    SoundAccount source fills state := by
  obtain ⟨books, accounted⟩ := booked.accounted
  have recorded := booked.recorded
  have inventory := recorded.projectBooks_eq .exact
  change _ = some (inventoryAfter .exact source fills) at inventory
  obtain ⟨incomplete, projected⟩ :=
    projectBooks_exact fills (openingBaseline source) source.symbol
  obtain ⟨quantity, entry, realized⟩ := projected _ inventory
  rw [accounted.quantity] at quantity
  have costBasis := accounted.costBasis
  have realizedNet := accounted.realizedNet
  have conserved := accounted.conserved
  have charged := accounted.charged
  rw [accounted.quantity] at costBasis conserved
  rw [accounted.cash] at conserved
  refine
    { identified := recorded.ids_nodup
      solvent := accounted.solvent
      long := accounted.long
      projected := ⟨books, _, _, accounted.entered, ?_, quantity, entry,
        realized, costBasis, realizedNet⟩
      valued := ?_ }
  · by_contra refused
    have none := incomplete.mpr refused
    rw [inventory] at none
    cases none
  · intro mark
    rw [realizedNet, costBasis, conserved, charged]
    ring

/-- In exact arithmetic only the channel can stop a run, and every prefix of
its events reconciles. -/
theorem exact_runs_reconcile (world : EngineWorld)
    (exactly : world.decimals = .exact) (source : ExperimentInput)
    (transports : ℕ → Option DecisionTransport) (count : ℕ)
    (within : count ≤ source.candles.length) :
    (∀ error, runBars world source transports count = .error error →
      error.external) ∧
    ∀ events, runBars world source transports count = .ok events →
      ∀ bars ≤ count,
        (∃ report, reconcile world.decimals source (events.take bars) =
          .ok report) ∧
        SoundAccount source (allFills (events.take bars))
          (stateAfter source (events.take bars)) := by
  refine ⟨(runBars_between exactly transports within).1, ?_⟩
  intro events ran bars le
  have between := ((runBars_between exactly transports (le.trans within)).2 _
    (runBars_take ran le)).1
  rw [exactly]
  exact ⟨between.toBooked.reconciles, between.toBooked.sound⟩

end Run

/-! ## A run -/

theorem one_dollar_positive :
    (0 : ℚ) < 1 ∧ (0 : ℚ) < 1 ∧ (0 : ℚ) < 1 ∧ (0 : ℚ) < 1 := by
  norm_num

theorem one_dollar_consistent :
    (1 : ℚ) ≤ min 1 1 ∧ max 1 1 ≤ (1 : ℚ) := by
  norm_num

theorem untraded : (0 : ℚ) ≤ 0 :=
  le_rfl

theorem first_version : 1 ≤ 1 ∧ 1 ≤ 10000 := by
  decide

theorem recorded_labelled : isBlank "recorded" = false := by
  decide

theorem coin_traded : isUsdSymbol "COIN-USD" = true := by
  decide

theorem whole_exposure : (0 : ℚ) < 1 ∧ (1 : ℚ) ≤ 1 := by
  norm_num

theorem three_dollars : (0 : ℚ) < 3 := by
  norm_num

def dollarBar (hours : ℕ) (opens : String) : RecordedBar :=
  { row := .obj [
      ("close", .str "1"),
      ("high", .str "1"),
      ("low", .str "1"),
      ("open", .str "1"),
      ("ts", .str opens),
      ("volume", .str "0")]
    ts := { instant := hour * hours, offset := 0 }
    openPrice := 1
    high := 1
    low := 1
    close := 1
    volume := 0
    positive := one_dollar_positive
    consistent := one_dollar_consistent
    traded := untraded }

/-- Hold the coin with a part of the account. -/
def holdCoins (exposure : ℚ) (positive : 0 < exposure) : Rulebook :=
  { version := 1
    entry := .hold
    fastBars := 1
    slowBars := 2
    reversionBars := 2
    entryZ := 1
    trendFilterBars := 0
    exposureFraction := exposure
    stopFraction := 1 / 2
    targetFraction := 1
    expiryHours := 720
    exitOnSignal := true
    versioned := first_version
    fast := by decide
    slow := by decide
    reversion := by decide
    filter := by decide
    expiry := by decide
    z := by decide +kernel
    exposure := positive
    stop := by decide +kernel
    target := by decide +kernel }

/-- Three dollar bars, no costs, and whole coins. -/
def coinInput (initialCash exposure : ℚ) (funded : 0 < initialCash)
    (shared : 0 < exposure ∧ exposure ≤ 1) : ExperimentInput :=
  { identity := "00112233445566778899aabbccddeeff"
    label := "recorded"
    symbol := "COIN-USD"
    candles := [
      dollarBar 0 "1970-01-01T00:00:00+00:00",
      dollarBar 1 "1970-01-01T01:00:00+00:00",
      dollarBar 2 "1970-01-01T02:00:00+00:00"]
    settings :=
      { initialCash := initialCash
        riskFraction := 1
        exposureFraction := exposure
        drawdownFraction := 1
        feeBps := 0
        slippageBps := 0
        quantityIncrement := 1
        funded := funded
        risk := by decide +kernel
        exposure := shared
        drawdown := by decide +kernel
        feeRate := by decide +kernel
        slippageRate := by decide +kernel
        incremented := by decide +kernel }
    benchmark := .aiRulebook
    scoredIndex := 0
    manager := none
    rulebooks := [
      { effectiveFrom := { instant := 0, offset := 0 }
        rules := holdCoins exposure shared.1 }]
    labelled := recorded_labelled
    traded := coin_traded
    counted := by decide
    contiguous := by decide
    scored := by decide
    managed := by decide
    ruled := by
      rw [if_pos rfl]
      exact
        { counted := by simp
          capped := fun version member => by
            rw [List.mem_singleton.mp member]
            exact le_rfl
          numbered := rfl
          placed := ⟨[0], rfl, List.pairwise_singleton .., rfl⟩ } }

def quietWorld (decimals : DecimalContext)
    (keepsSign : ∀ {value : ℚ}, 0 < value → 0 < decimals.round value) :
    EngineWorld :=
  { decimals := decimals
    keepsSign := keepsSign
    sqrt := fun _ => 0
    formats := tableFormats
      { entries := []
        nodup := List.nodup_nil
        unmarked := fun _ member => absurd member List.not_mem_nil }
      { entries := []
        nodup := List.nodup_nil
        unmarked := fun _ member => absurd member List.not_mem_nil }
    loads := fun _ => .error .notJson
    propose := fun _ _ => .ok ([], none) }

/-- Three coins are bought, and the account reconciles after every bar. -/
theorem coin_run_reconciles :
    ∃ events, runBars (quietWorld .exact id)
        (coinInput 3 1 three_dollars whole_exposure)
        (fun _ => none) 3 = .ok events ∧
      (allFills events).length = 1 ∧
      ∀ bars ≤ 3, ∃ report, reconcile .exact
        (coinInput 3 1 three_dollars whole_exposure)
        (events.take bars) = .ok report := by
  have bought : (runBars (quietWorld .exact id)
      (coinInput 3 1 three_dollars whole_exposure)
      (fun _ => none) 3).map (fun events => (allFills events).length) =
        .ok 1 := by
    decide +kernel
  obtain ⟨events, ran, filled⟩ := Outcome.map_eq_ok.mp bought
  refine ⟨events, ran, filled, fun bars le => ?_⟩
  exact ((exact_runs_reconcile (quietWorld .exact id) rfl _ _ 3
    (by decide)).2 events ran bars le).1

end GptTrader
