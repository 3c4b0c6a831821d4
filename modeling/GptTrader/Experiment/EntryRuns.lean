import GptTrader.Experiment.EntrySizes
import GptTrader.Experiment.ReconciledRuns

/-!
# The rails of every run

Purchases are made from a flat account that is not halted, within the caps;
what a round trip loses above its stop is bounded; and a halted account buys
nothing more.
-/

namespace GptTrader

section Runs

variable {world : EngineWorld} {source : ExperimentInput}
variable {transports : ℕ → Option DecisionTransport} {count : ℕ}
variable {events : List ExperimentEvent}

def AccountState.Capped (source : ExperimentInput) (state : AccountState) :
    Prop :=
  ∀ plan, state.pending = some plan →
    ∀ size ∈ plan.sizeFraction, size ≤ source.settings.exposureFraction

theorem stateAfter_take {index : ℕ} {event : ExperimentEvent}
    (at_ : events[index]? = some event) :
    stateAfter source (events.take (index + 1)) = event.state := by
  rw [List.take_add_one, at_]
  exact stateAfter_append source _ event

namespace BarRun

variable {sequence : ℕ} {bar : RecordedBar} {state : AccountState}
variable {event : ExperimentEvent} {work : BarWork}

section

variable (ran : BarRun world source sequence bar state event work)

include ran

theorem capped :
    event.state.Capped source := by
  intro plan pending
  rcases ran.decided.entered plan pending with before | ⟨_, _, capped⟩
  · have idle := ran.idle
    rw [show work.state.pending = some plan from before] at idle
    cases idle
  · exact capped

theorem holdings :
    event.state.holdings = work.state.holdings := by
  rw [ran.decided.kept]
  rfl

theorem halted (before : state.halted = true) : event.state.halted = true := by
  rw [ran.decided.kept]
  unfold markAtClose
  dsimp only
  rw [ran.running, before, Bool.true_or]

theorem entry {fill : FillFact} (member : fill ∈ event.fills)
    (bought : fill.side = "buy") :
    ∃ plan quantity,
      BarEntry world source sequence bar state plan quantity fill := by
  have sells : ∀ {quantity price : ℚ} {fact : FillFact},
      BarFill world.decimals source sequence bar .sell quantity price fact →
      fill ≠ fact := by
    intro quantity price fact sold same
    rw [same, sold.settles.sided] at bought
    exact absurd bought (by decide)
  rw [ran.fills] at member
  cases ran.trades with
  | idle unfilled kept =>
      rw [unfilled] at member
      cases member
  | sale reference fact holding sold fills kept =>
      rw [fills] at member
      exact absurd (List.mem_singleton.mp member) (sells sold)
  | purchase plan quantity fact entry fills kept =>
      rw [fills] at member
      rw [List.mem_singleton.mp member]
      exact ⟨plan, quantity, entry⟩
  | roundTrip plan quantity first reference fact entry sold fills kept =>
      rw [fills] at member
      rcases List.mem_cons.mp member with same | later
      · rw [same]
        exact ⟨plan, quantity, entry⟩
      · exact absurd (List.mem_singleton.mp later) (sells sold)

end

end BarRun

theorem runBars_capped
    (ran : runBars world source transports count = .ok events) {index : ℕ}
    (within : index ≤ events.length) :
    (stateAfter source (events.take index)).Capped source := by
  cases index with
  | zero => exact fun plan pending => nomatch pending
  | succ index =>
      have at_ := List.getElem?_eq_getElem within
      rw [stateAfter_take at_]
      obtain ⟨bar, work, here⟩ := runBars_event ran at_
      exact here.capped

theorem BarEntry.rails {unit : ℚ} (accurate : world.decimals.Accurate unit)
    {sequence : ℕ} {bar : RecordedBar} {state : AccountState}
    {plan : EntryPlan} {quantity : ℚ} {fact : FillFact}
    (entry : BarEntry world source sequence bar state plan quantity fact)
    (capped : state.Capped source) :
    EntryRails world.decimals source.settings (10 * unit) state.cash
      (purchasePrice world.decimals source.settings bar.openPrice) plan.stop
        quantity :=
  entryQuantity_rails accurate (accurate.idempotent _) plan.guarded entry.below
    (capped plan entry.planned) entry.sized entry.filled.sized

theorem runBars_halted
    (ran : runBars world source transports count = .ok events)
    {first last : ℕ} (le : first ≤ last) (within : last ≤ events.length)
    (halted : (stateAfter source (events.take first)).halted = true) :
    (stateAfter source (events.take last)).halted = true := by
  induction le with
  | refl => exact halted
  | @step last le induction =>
      have at_ := List.getElem?_eq_getElem within
      rw [stateAfter_take at_]
      obtain ⟨bar, work, here⟩ := runBars_event ran at_
      exact here.halted (induction (by omega))

/-! ## Round trips -/

/-- A purchase and the next sale. -/
structure RoundTrip (events : List ExperimentEvent) (first last : ℕ)
    (bought sold : FillFact) : Prop where
  ordered : first ≤ last
  opens : ∃ event, events[first]? = some event ∧ bought ∈ event.fills ∧
    bought.side = "buy"
  closes : ∃ event, events[last]? = some event ∧ sold ∈ event.fills ∧
    sold.side = "sell"
  held : ∀ index event, first ≤ index → index < last →
    events[index]? = some event → ∀ fill ∈ event.fills, fill.side ≠ "sell"

/-- How the state before a bar and the one after a later bar compare over a
round trip. -/
structure Traded (world : EngineWorld) (source : ExperimentInput)
    (before after : AccountState) (bar : RecordedBar) (bought sold : FillFact)
    (plan : EntryPlan) : Prop where
  entry : ∃ sequence, BarEntry world source sequence bar before plan
    bought.quantity bought
  priced : 0 < sold.price
  sized : sold.quantity = bought.quantity
  settled : ∃ reference,
    sold.price = salePrice world.decimals source.settings reference ∧
    after.holdings = (soldState world source
      (enteredState world source bar before plan bought.quantity)
        reference).holdings

theorem runBars_held
    (ran : runBars world source transports count = .ok events)
    {first last : ℕ} (le : first ≤ last) (within : last ≤ events.length)
    (holding : (stateAfter source (events.take first)).position.isSome = true)
    (held : ∀ index event, first ≤ index → index < last →
      events[index]? = some event →
      ∀ fill ∈ event.fills, fill.side ≠ "sell") :
    (stateAfter source (events.take last)).holdings =
      (stateAfter source (events.take first)).holdings := by
  induction le with
  | refl => rfl
  | @step last le induction =>
      have at_ := List.getElem?_eq_getElem within
      have before := induction (by omega)
        fun index event low high => held index event low (by omega)
      have position := congrArg Holdings.position before
      dsimp only [AccountState.holdings] at position
      obtain ⟨bar, work, here⟩ := runBars_event ran at_
      rw [stateAfter_take at_, here.holdings, ← before]
      have unsold := held last _ le (by omega) at_
      rw [here.fills] at unsold
      cases here.trades with
      | idle unfilled kept => exact kept
      | sale reference fact _ sold fills kept =>
          exact absurd sold.settles.sided
            (unsold fact (fills ▸ List.mem_singleton.mpr rfl))
      | purchase plan quantity fact entry fills kept =>
          have flat := entry.flat
          rw [position] at flat
          rw [flat] at holding
          cases holding
      | roundTrip plan quantity bought reference fact entry sold fills kept =>
          have flat := entry.flat
          rw [position] at flat
          rw [flat] at holding
          cases holding

/-- Every round trip of a run sells what it bought. -/
theorem RoundTrip.traded
    (ran : runBars world source transports count = .ok events)
    {first last : ℕ} {bought sold : FillFact}
    (trip : RoundTrip events first last bought sold) :
    ∃ bar plan, Traded world source
      (stateAfter source (events.take first))
      (stateAfter source (events.take (last + 1))) bar bought sold plan := by
  obtain ⟨opening, openAt, boughtIn, buys⟩ := trip.opens
  obtain ⟨closing, closeAt, soldIn, sells⟩ := trip.closes
  obtain ⟨bar, work, here⟩ := runBars_event ran openAt
  obtain ⟨closeBar, closeWork, there⟩ := runBars_event ran closeAt
  have closeBound := (List.getElem?_eq_some_iff.mp closeAt).1
  have openBound := (List.getElem?_eq_some_iff.mp openAt).1
  rw [stateAfter_take closeAt]
  rcases trip.ordered.eq_or_lt with rfl | less
  · -- Bought and sold inside one bar.
    rw [openAt] at closeAt
    cases closeAt
    rw [here.fills] at boughtIn soldIn
    refine ⟨bar, ?_⟩
    cases trades : here.trades with
    | idle unfilled kept =>
        rw [unfilled] at soldIn
        cases soldIn
    | sale reference fact holding closed fills kept =>
        rw [fills] at boughtIn
        rw [List.mem_singleton.mp boughtIn, closed.settles.sided] at buys
        exact absurd buys (by decide)
    | purchase plan quantity fact entry fills kept =>
        rw [fills] at soldIn
        rw [List.mem_singleton.mp soldIn, entry.filled.settles.sided] at sells
        exact absurd sells (by decide)
    | roundTrip plan quantity opened reference fact entry closed fills kept =>
        have openedBuys := entry.filled.settles.sided
        have closedSells := closed.settles.sided
        rw [fills] at boughtIn soldIn
        have first : bought = opened := by
          rcases List.mem_cons.mp boughtIn with same | later
          · exact same
          · rw [List.mem_singleton.mp later, closedSells] at buys
            exact absurd buys (by decide)
        have second : sold = fact := by
          rcases List.mem_cons.mp soldIn with same | later
          · rw [same, openedBuys] at sells
            exact absurd sells (by decide)
          · exact List.mem_singleton.mp later
        have size := entry.filled.settles.sized
        subst first second
        rw [← size] at entry closed kept
        exact ⟨plan,
          { entry := ⟨_, entry⟩
            priced := sold.positive.2
            sized := closed.settles.sized
            settled := ⟨reference, closed.settles.priced,
              here.holdings.trans kept⟩ }⟩
  · -- Held from the close of one bar into a later one.
    obtain ⟨plan, quantity, entry⟩ := here.entry boughtIn buys
    have size := entry.filled.settles.sized
    have opened : opening.state.holdings = (enteredState world source bar
        (stateAfter source (events.take first)) plan quantity).holdings := by
      rw [here.holdings]
      have unsold := trip.held first opening le_rfl less openAt
      rw [here.fills] at boughtIn unsold
      cases here.trades with
      | idle unfilled kept =>
          rw [unfilled] at boughtIn
          cases boughtIn
      | sale reference fact holding closed fills kept =>
          exact absurd closed.settles.sided
            (unsold fact (fills ▸ List.mem_singleton.mpr rfl))
      | purchase plan' quantity' fact entry' fills kept =>
          rw [fills] at boughtIn
          rw [List.mem_singleton.mp boughtIn,
            entry'.filled.settles.sized] at size
          have planned := entry.planned.symm.trans entry'.planned
          cases planned
          rw [← size]
          exact kept
      | roundTrip plan' quantity' _ reference fact entry' closed fills kept =>
          exact absurd closed.settles.sided (unsold fact (by
            rw [fills]
            exact .tail _ (List.mem_singleton.mpr rfl)))
    have holding : (stateAfter source
        (events.take (first + 1))).position.isSome = true := by
      have position := congrArg Holdings.position opened
      rw [stateAfter_take openAt]
      dsimp only [AccountState.holdings] at position
      rw [position]
      rfl
    have kept := runBars_held ran less closeBound.le holding
      fun index event low high => trip.held index event (by omega) high
    rw [stateAfter_take openAt, opened] at kept
    have position := congrArg Holdings.position kept
    have held := congrArg Holdings.quantity kept
    change (stateAfter source (events.take last)).position = some plan
      at position
    change (stateAfter source (events.take last)).quantity = quantity at held
    rw [← size] at entry kept held
    rw [there.fills] at soldIn
    refine ⟨bar, plan, ?_⟩
    have flat : ∀ {plan' : EntryPlan} {quantity' : ℚ} {fact : FillFact},
        ¬BarEntry world source last closeBar
          (stateAfter source (events.take last)) plan' quantity' fact := by
      intro plan' quantity' fact entry'
      have none := entry'.flat
      rw [position] at none
      cases none
    cases there.trades with
    | idle unfilled kept' =>
        rw [unfilled] at soldIn
        cases soldIn
    | sale reference fact _ closed fills kept' =>
        rw [fills] at soldIn
        have same := List.mem_singleton.mp soldIn
        subst same
        refine
          { entry := ⟨_, entry⟩
            priced := sold.positive.2
            sized := closed.settles.sized.trans held
            settled := ⟨reference, closed.settles.priced, ?_⟩ }
        rw [there.holdings, kept']
        unfold soldState
        rw [held]
        exact holdings_settle kept _ _ _
    | purchase plan' quantity' fact entry' fills kept' =>
        exact absurd entry' flat
    | roundTrip plan' quantity' _ reference fact entry' closed fills kept' =>
        exact absurd entry' flat

/-- A protected trade loses its risk and the rounding. -/
theorem Traded.loss {unit : ℚ} (accurate : world.decimals.Accurate unit)
    {before after : AccountState} {bar : RecordedBar} {bought sold : FillFact}
    {plan : EntryPlan}
    (traded : Traded world source before after bar bought sold plan)
    (capped : before.Capped source) {reference : ℚ}
    (priced : sold.price =
      salePrice world.decimals source.settings reference)
    (protects : plan.stop ≤ reference) :
    before.cash - after.cash ≤ source.settings.riskFraction * before.cash +
      200 * unit * (before.cash + sold.quantity * sold.price) := by
  obtain ⟨_, entry⟩ := traded.entry
  obtain ⟨other, sale, settled⟩ := traded.settled
  have above := salePrice_mono source.settings accurate protects
  rw [← priced] at above
  have loss := roundTrip_loss accurate (entry.rails accurate capped)
    (accurate.idempotent _) plan.guarded entry.below entry.filled.sized above
    traded.priced
  have cash := congrArg Holdings.cash settled
  change after.cash = world.decimals.sub (world.decimals.add
    (world.decimals.sub (world.decimals.sub before.cash (world.decimals.mul
      bought.quantity _)) (fillFee world.decimals source.settings
        bought.quantity _)) (world.decimals.mul bought.quantity (salePrice
          world.decimals source.settings other))) (fillFee world.decimals
            source.settings bought.quantity (salePrice world.decimals
              source.settings other)) at cash
  rw [cash, ← sale, traded.sized]
  exact loss

/-- Every purchase is within the rails, every round trip above its stop loses
no more than the risked part, and a halted account buys nothing more: up to the
rounding of the operators, which the exact ones do not have. -/
theorem entry_rails_hold (world : EngineWorld) (unit : ℚ)
    (accurate : world.decimals.Accurate unit) (source : ExperimentInput)
    (transports : ℕ → Option DecisionTransport) (count : ℕ)
    (events : List ExperimentEvent)
    (ran : runBars world source transports count = .ok events) :
    (∀ index event, events[index]? = some event →
      ∀ fill ∈ event.fills, fill.side = "buy" →
      let before := stateAfter source (events.take index)
      ∃ bar plan, source.candles[index]? = some bar ∧
        before.position = none ∧ before.halted = false ∧
        before.pending = some plan ∧
        fill.price =
          purchasePrice world.decimals source.settings bar.openPrice ∧
        EntryRails world.decimals source.settings (10 * unit) before.cash
          fill.price plan.stop fill.quantity) ∧
    (∀ first last bought sold, RoundTrip events first last bought sold →
      let before := stateAfter source (events.take first)
      let after := stateAfter source (events.take (last + 1))
      ∃ plan, before.pending = some plan ∧ sold.quantity = bought.quantity ∧
        ∀ reference,
          sold.price = salePrice world.decimals source.settings reference →
          plan.stop ≤ reference →
          before.cash - after.cash ≤
            source.settings.riskFraction * before.cash +
              200 * unit * (before.cash + sold.quantity * sold.price)) ∧
    ∀ first last event, first ≤ last →
      (stateAfter source (events.take first)).halted = true →
      events[last]? = some event →
      ∀ fill ∈ event.fills, fill.side ≠ "buy" := by
  refine ⟨?_, ?_, ?_⟩
  · intro index event at_ fill member buys
    obtain ⟨bar, work, here⟩ := runBars_event ran at_
    obtain ⟨plan, quantity, entry⟩ := here.entry member buys
    have bound := (List.getElem?_eq_some_iff.mp at_).1
    have rails := entry.rails accurate (runBars_capped ran bound.le)
    refine ⟨bar, plan, here.found, entry.flat, entry.running, entry.planned,
      entry.filled.settles.priced, ?_⟩
    rw [entry.filled.settles.priced, entry.filled.settles.sized]
    exact rails
  · intro first last bought sold trip
    obtain ⟨bar, plan, traded⟩ := trip.traded ran
    obtain ⟨_, entry⟩ := traded.entry
    obtain ⟨opening, openAt, _⟩ := trip.opens
    have bound := (List.getElem?_eq_some_iff.mp openAt).1
    exact ⟨plan, entry.planned, traded.sized,
      fun reference priced protects => traded.loss accurate
        (runBars_capped ran bound.le) priced protects⟩
  · intro first last event le halted at_ fill member buys
    obtain ⟨bar, work, here⟩ := runBars_event ran at_
    obtain ⟨plan, quantity, entry⟩ := here.entry member buys
    have bound := (List.getElem?_eq_some_iff.mp at_).1
    have still := runBars_halted ran le bound.le halted
    rw [entry.running] at still
    cases still

end Runs

theorem defaultContext_keepsSign {value : ℚ} (positive : 0 < value) :
    0 < DecimalContext.defaultContext.round value :=
  DecimalContext.defaultContext_accurate.round_pos positive

/-- In exact arithmetic the three coins cost no more than the exposed cash. -/
theorem coin_purchase_within_rails :
    let source :=
      coinInput 6 (1 / 2) (by decide +kernel) (by decide +kernel)
    ∃ events event, runBars (quietWorld .exact id) source (fun _ => none) 2 =
        .ok events ∧
      events[1]? = some event ∧
      ∃ fill ∈ event.fills, fill.side = "buy" ∧
        fill.quantity * fill.price ≤
          1 / 2 * (stateAfter source (events.take 1)).cash := by
  intro source
  have bought : (runBars (quietWorld .exact id) source (fun _ => none) 2).map
      (fun events => (events[1]?).any fun event =>
        event.fills.any fun fill => fill.side = "buy") = .ok true := by
    decide +kernel
  obtain ⟨events, ran, found⟩ := Outcome.map_eq_ok.mp bought
  cases at_ : events[1]? with
  | none =>
      rw [at_] at found
      cases found
  | some event =>
      rw [at_] at found
      obtain ⟨fill, member, buys⟩ := List.any_eq_true.mp found
      have side := of_decide_eq_true buys
      obtain ⟨bar, plan, _, _, _, _, _, rails⟩ := (entry_rails_hold
        (quietWorld .exact id) 0 DecimalContext.exact_accurate source _ 2
        events ran).1 1 event at_ fill member side
      refine ⟨events, event, ran, at_, fill, member, side, ?_⟩
      have exposed := rails.exposed
      rwa [mul_zero, add_zero, mul_one] at exposed

/-- An exposure cap of more digits than are kept is passed, and the account
still reconciles. -/
theorem coin_purchase_beyond_cap :
    let source := coinInput 6 (1 / 2 - 1 / 10 ^ 31) (by decide +kernel)
      (by decide +kernel)
    ∃ events event report, runBars
        (quietWorld .defaultContext defaultContext_keepsSign) source
        (fun _ => none) 2 = .ok events ∧
      reconcile .defaultContext source events = .ok report ∧
      events[1]? = some event ∧
      ∃ fill ∈ event.fills, fill.side = "buy" ∧
        source.settings.exposureFraction *
            (stateAfter source (events.take 1)).cash <
          fill.quantity * fill.price := by
  intro source
  have bought : (runBars (quietWorld .defaultContext defaultContext_keepsSign)
      source (fun _ => none) 2).map (fun events =>
        (reconcile .defaultContext source events).toOption.isSome &&
          (events[1]?).any fun event => event.fills.any fun fill =>
            fill.side = "buy" && decide (source.settings.exposureFraction *
              (stateAfter source (events.take 1)).cash <
                fill.quantity * fill.price)) = .ok true := by
    decide +kernel
  obtain ⟨events, ran, found⟩ := Outcome.map_eq_ok.mp bought
  rw [Bool.and_eq_true] at found
  obtain ⟨reconciled, found⟩ := found
  cases checked : reconcile .defaultContext source events with
  | error error =>
      rw [checked] at reconciled
      cases reconciled
  | ok report =>
      cases at_ : events[1]? with
      | none =>
          rw [at_] at found
          cases found
      | some event =>
          rw [at_] at found
          obtain ⟨fill, member, beyond⟩ := List.any_eq_true.mp found
          obtain ⟨buys, more⟩ := Bool.and_eq_true_iff.mp beyond
          exact ⟨events, event, report, ran, checked, at_, fill, member,
            of_decide_eq_true buys, of_decide_eq_true more⟩

end GptTrader
