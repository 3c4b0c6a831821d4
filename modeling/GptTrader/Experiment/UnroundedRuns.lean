import GptTrader.Experiment.EntryRuns
import GptTrader.Experiment.UnroundedBooks

/-!
# Runs of which nothing is rounded

A run reconciles after every bar as long as its fills and closes need no more
digits than the context keeps and purchases are paid for.  Ordinary prices of a
cheap coin need more, and the run then rejects its own bar.
-/

namespace GptTrader

section Steps

variable (world : EngineWorld) (source : ExperimentInput)

/-- Nothing the next bar enters and values after the events so far is rounded,
and what it buys is paid for. -/
def UnroundedStep (before : List ExperimentEvent) : Prop :=
  match source.candles[before.length]? with
  | none => True
  | some bar =>
      match tradeBar world source before.length bar
          (stateAfter source before) with
      | .error _ => True
      | .ok work =>
          UnroundedFills world.decimals source (allFills before) work.fills ∧
            UnroundedClose world.decimals source (allFills before ++ work.fills)
              bar.close

instance (before : List ExperimentEvent) :
    Decidable (UnroundedStep world source before) := by
  unfold UnroundedStep
  split
  · infer_instance
  · split <;> infer_instance

end Steps

variable {world : EngineWorld} {source : ExperimentInput}

theorem KeptBooks.bar {sequence : ℕ} {bar : RecordedBar}
    {fills : List FillFact} {state : AccountState} {books : CashBooks} {now : ℤ}
    {work : BarWork} (zero : world.decimals.round 0 = 0)
    (kept : KeptBooks world.decimals source fills state books now)
    (soon : now ≤ bar.ts.instant)
    (trades : BarTrades world source sequence bar state work)
    (unrounded : UnroundedFills world.decimals source fills work.fills) :
    ∃ entered, KeptBooks world.decimals source (fills ++ work.fills) work.state
      entered (bar.ts.instant + hour) := by
  cases trades with
  | idle unfilled same =>
      rw [unfilled, List.append_nil]
      exact ⟨books, kept.of_holdings same (by unfold hour; omega)⟩
  | sale reference fact holding sold made same =>
      rw [made] at unrounded ⊢
      obtain ⟨entered, after⟩ := kept.sell zero sold (by unfold hour; omega)
        unrounded.1
      exact ⟨entered, after.of_holdings same le_rfl⟩
  | purchase plan quantity fact entry made same =>
      rw [made] at unrounded ⊢
      obtain ⟨entered, after⟩ := kept.buy zero entry.flat entry.filled
        (by omega) unrounded.1 plan
      exact ⟨entered, after.of_holdings same (by unfold hour; omega)⟩
  | roundTrip plan quantity bought reference fact entry sold made same =>
      rw [made] at unrounded ⊢
      obtain ⟨entered, after⟩ := kept.buy zero entry.flat entry.filled
        (by omega) unrounded.1 plan
      obtain ⟨left, done⟩ := after.sell zero sold (by unfold hour; omega)
        unrounded.2.1
      rw [List.append_assoc] at done
      exact ⟨left, done.of_holdings same le_rfl⟩

theorem advance_trades {sequence : ℕ} {transport : Option DecisionTransport}
    {state : AccountState} {event : ExperimentEvent}
    (orderly : Orderly source state)
    (advanced : advance world source sequence transport state = .ok event) :
    ∃ bar work, source.candles[sequence]? = some bar ∧
      tradeBar world source sequence bar state = .ok work ∧
      BarTrades world source sequence bar state work ∧
      event.fills = work.fills ∧
      event.state.holdings = work.state.holdings := by
  unfold advance at advanced
  split at advanced
  · cases advanced
  · next bar found =>
      unfold advanceBar at advanced
      split at advanced
      · cases advanced
      · next work trades =>
          obtain ⟨decided, decides, made⟩ := Outcome.map_eq_ok.mp advanced
          have effect := AccountState.DecidedFrom.of_decideChannel decides
          subst made
          refine ⟨bar, work, found, trades,
            (tradeBar_cases found orderly trades).1, rfl, ?_⟩
          rw [effect.kept]
          rfl

theorem runBars_kept {transports : ℕ → Option DecisionTransport} {count : ℕ}
    {events : List ExperimentEvent} (zero : world.decimals.round 0 = 0)
    (ran : runBars world source transports count = .ok events)
    (unrounded : ∀ index < count,
      UnroundedStep world source (events.take index)) :
    ∀ bars ≤ count, ∃ books,
      KeptBooks world.decimals source (allFills (events.take bars))
          (stateAfter source (events.take bars)) books
          (source.opensAt + hour * bars) ∧
        (0 < bars → UnroundedClose world.decimals source
          (allFills (events.take bars)) (markAfter source bars)) := by
  intro bars le
  induction bars with
  | zero =>
      refine ⟨.opening source,
        { accounted := Accounted.initial source
          entered := rfl
          inventory := rfl
          recorded := .nil source _
          holding := fun some => absurd some Bool.false_ne_true
          flat := fun _ => rfl }, fun positive => absurd positive (by omega)⟩
  | succ bars induction =>
      obtain ⟨books, kept, _⟩ := induction (by omega)
      have length := length_runBars ran
      have at_ := List.getElem?_eq_getElem (show bars < events.length by omega)
      obtain ⟨advanced, orderly⟩ := runBars_advance ran at_
      obtain ⟨bar, work, found, trades, cases, fills, same⟩ :=
        advance_trades orderly advanced
      have step := unrounded bars (by omega)
      unfold UnroundedStep at step
      rw [List.length_take, min_eq_left (by omega), found] at step
      dsimp only at step
      rw [trades] at step
      obtain ⟨entering, closing⟩ := step
      have opens := source.ts_eq found
      obtain ⟨entered, after⟩ := kept.bar zero opens.ge cases entering
      have longer : events.take (bars + 1) =
          events.take bars ++ [events[bars]] := by
        rw [List.take_add_one, at_]
        rfl
      rw [longer, allFills_append, stateAfter_append, fills]
      have moment : bar.ts.instant + hour =
          source.opensAt + hour * ((bars + 1 : ℕ) : ℤ) := by
        rw [opens]
        push_cast
        ring
      have marked : markAfter source (bars + 1) = bar.close := by
        unfold markAfter
        rw [if_neg (by omega), Nat.add_sub_cancel, found]
        rfl
      rw [marked]
      exact ⟨entered, after.of_holdings same moment.le, fun _ => closing⟩

/-- The default context reconciles every run whose amounts fit its digits and
whose purchases are paid for. -/
theorem unrounded_runs_reconcile (world : EngineWorld)
    (rounds : world.decimals = .defaultContext) (source : ExperimentInput)
    (transports : ℕ → Option DecisionTransport) (count : ℕ)
    (events : List ExperimentEvent)
    (ran : runBars world source transports count = .ok events)
    (opening : world.decimals.Keeps [source.settings.initialCash])
    (unrounded : ∀ index < count,
      UnroundedStep world source (events.take index)) :
    ∀ bars ≤ count, ∃ report,
      reconcile world.decimals source (events.take bars) = .ok report := by
  have zero : world.decimals.round 0 = 0 := by
    rw [rounds]
    exact DecimalContext.defaultContext_sound.round_zero
  intro bars le
  obtain ⟨books, kept, closes⟩ := runBars_kept zero ran unrounded bars le
  have length : (events.take bars).length = bars := by
    rw [List.length_take, length_runBars ran, min_eq_left le]
  apply kept.reconciles
  rw [length]
  rcases Nat.eq_zero_or_pos bars with rfl | positive
  · -- Nothing is held, and nothing is worth what was brought in.
    have cash := opening source.settings.initialCash (by simp)
    change world.decimals.Keeps (closeAmounts (.opening source)
      { quantity := 0, entry := 0, realized := 0 } 0
        source.settings.initialCash)
    intro value member
    simp only [closeAmounts, CashBooks.opening, mul_zero, add_zero,
      sub_self, List.mem_cons, List.not_mem_nil, or_false, or_self] at member
    rcases member with rfl | rfl | rfl
    · exact zero
    · exact cash
    · exact zero
  · exact closes positive

/-- Three dollars buy three coins without rounding. -/
theorem coin_run_unrounded :
    ∃ events, runBars (quietWorld .defaultContext defaultContext_keepsSign)
        (coinInput 3 1 three_dollars whole_exposure)
        (fun _ => none) 3 = .ok events ∧
      (allFills events).length = 1 ∧
      ∀ bars ≤ 3, ∃ report, reconcile .defaultContext
        (coinInput 3 1 three_dollars whole_exposure)
        (events.take bars) = .ok report := by
  have bought : (runBars
      (quietWorld .defaultContext defaultContext_keepsSign)
      (coinInput 3 1 three_dollars whole_exposure)
      (fun _ => none) 3).map (fun events =>
        (decide ((allFills events).length = 1),
          (List.range 3).all fun index => decide (UnroundedStep
            (quietWorld .defaultContext defaultContext_keepsSign)
            (coinInput 3 1 three_dollars whole_exposure)
            (events.take index)))) = .ok (true, true) := by
    decide +kernel
  obtain ⟨events, ran, found⟩ := Outcome.map_eq_ok.mp bought
  obtain ⟨filled, unrounded⟩ := Prod.mk.inj found
  refine ⟨events, ran, of_decide_eq_true filled, ?_⟩
  apply unrounded_runs_reconcile _ rfl _ _ 3 events ran (by decide +kernel)
  intro index less
  exact of_decide_eq_true
    (List.all_eq_true.mp unrounded index (List.mem_range.mpr less))

/-! ## A cheap coin -/

def cheapBar (hours : ℕ) (opens : String) : RecordedBar :=
  { row := .obj [
      ("close", .str "0.000000123456"),
      ("high", .str "0.000000123456"),
      ("low", .str "0.000000123456"),
      ("open", .str "0.000000123456"),
      ("ts", .str opens),
      ("volume", .str "0")]
    ts := { instant := hour * hours, offset := 0 }
    openPrice := 123456 / 10 ^ 12
    high := 123456 / 10 ^ 12
    low := 123456 / 10 ^ 12
    close := 123456 / 10 ^ 12
    volume := 0
    positive := by decide +kernel
    consistent := by decide +kernel
    traded := untraded }

theorem thousand_dollars : (0 : ℚ) < 1000 := by
  norm_num

theorem five_basis_points : (0 : ℚ) ≤ 5 ∧ (5 : ℚ) < 10000 := by
  norm_num

/-- A thousand dollars, ordinary costs and the default increment. -/
def cheapInput : ExperimentInput :=
  { coinInput 1000 1 thousand_dollars whole_exposure with
    candles := [
      cheapBar 0 "1970-01-01T00:00:00+00:00",
      cheapBar 1 "1970-01-01T01:00:00+00:00"]
    settings :=
      { (coinInput 1000 1 thousand_dollars whole_exposure).settings with
        feeBps := 60
        slippageBps := 5
        quantityIncrement := 1 / 10 ^ 8
        feeRate := by decide +kernel
        slippageRate := five_basis_points
        incremented := by decide +kernel }
    counted := by decide
    contiguous := by decide
    scored := by decide
    ruled := by
      rw [if_pos (by decide)]
      exact
        { counted := by decide
          capped := fun version member => by
            rw [List.mem_singleton.mp member]
            exact le_rfl
          numbered := rfl
          placed := ⟨[0], rfl, List.pairwise_singleton .., rfl⟩ } }

/-- The purchase of the second bar is kept and rejected. -/
theorem cheap_run_rejected :
    ∃ events, runBars (quietWorld .defaultContext defaultContext_keepsSign)
        cheapInput (fun _ => none) 2 = .ok events ∧
      reconcile .defaultContext cheapInput events = .error .failed := by
  have rejected : (runBars
      (quietWorld .defaultContext defaultContext_keepsSign) cheapInput
      (fun _ => none) 2).map (reconcile .defaultContext cheapInput) =
        .ok (.error .failed) := by
    decide +kernel
  obtain ⟨events, ran, failed⟩ := Outcome.map_eq_ok.mp rejected
  exact ⟨events, ran, failed⟩

end GptTrader
