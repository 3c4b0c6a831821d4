import GptTrader.Experiment.ExactRuns

/-!
# What a bar trades

In any decimal context a bar makes at most one purchase and at most one sale,
the purchase first: nothing, the sale of the position, a purchase while flat,
or a purchase that the plan closes again.
-/

namespace GptTrader

/-- What an account holds. -/
structure Holdings where
  cash : ℚ
  quantity : ℚ
  costBasis : ℚ
  realizedNet : ℚ
  fees : ℚ
  position : Option EntryPlan
  deriving DecidableEq

def AccountState.holdings (state : AccountState) : Holdings :=
  { cash := state.cash
    quantity := state.quantity
    costBasis := state.costBasis
    realizedNet := state.realizedNet
    fees := state.fees
    position := state.position }

theorem holdings_settle {context : DecimalContext}
    {settings : ExperimentSettings} {left right : AccountState}
    (same : left.holdings = right.holdings) (side : FillSide)
    (quantity price : ℚ) :
    (left.settle context settings side quantity price).holdings =
      (right.settle context settings side quantity price).holdings := by
  have cash := congrArg Holdings.cash same
  have costBasis := congrArg Holdings.costBasis same
  have realizedNet := congrArg Holdings.realizedNet same
  have fees := congrArg Holdings.fees same
  have position := congrArg Holdings.position same
  dsimp only [AccountState.holdings] at cash costBasis realizedNet fees position
  cases side with
  | buy =>
      unfold AccountState.settle AccountState.holdings
      dsimp only
      rw [cash, realizedNet, fees, position]
  | sell =>
      unfold AccountState.settle AccountState.holdings
      dsimp only
      rw [cash, costBasis, realizedNet, fees]

/-- A fill of a bar. -/
structure BarFill (context : DecimalContext) (source : ExperimentInput)
    (sequence : ℕ) (bar : RecordedBar) (side : FillSide)
    (quantity price : ℚ) (fact : FillFact) : Prop where
  sized : 0 < quantity
  priced : 0 < price
  recorded : fact.RecordedOn source sequence side
  settles : fact.Settles context source.settings side quantity price
  timed : fact.executedAt = fillTime bar side

/-- An entry of a bar, into a flat account that is not halted. -/
structure BarEntry (world : EngineWorld) (source : ExperimentInput)
    (sequence : ℕ) (bar : RecordedBar) (state : AccountState)
    (plan : EntryPlan) (quantity : ℚ) (fact : FillFact) : Prop where
  flat : state.position = none
  running : state.halted = false
  planned : state.pending = some plan
  below : plan.stop <
    purchasePrice world.decimals source.settings bar.openPrice
  above : purchasePrice world.decimals source.settings bar.openPrice <
    plan.target
  sized : entryQuantity world.decimals source.settings state.cash
    (purchasePrice world.decimals source.settings bar.openPrice) plan.stop
      plan.sizeFraction = .ok quantity
  filled : BarFill world.decimals source sequence bar .buy quantity
    (purchasePrice world.decimals source.settings bar.openPrice) fact

def enteredState (world : EngineWorld) (source : ExperimentInput)
    (bar : RecordedBar) (state : AccountState) (plan : EntryPlan)
    (quantity : ℚ) : AccountState :=
  { state.settle world.decimals source.settings .buy quantity
      (purchasePrice world.decimals source.settings bar.openPrice) with
    position := some plan }

def soldState (world : EngineWorld) (source : ExperimentInput)
    (state : AccountState) (reference : ℚ) : AccountState :=
  state.settle world.decimals source.settings .sell state.quantity
    (salePrice world.decimals source.settings reference)

/-- What the stages of a bar did to an account. -/
inductive BarTrades (world : EngineWorld) (source : ExperimentInput)
    (sequence : ℕ) (bar : RecordedBar) (state : AccountState)
    (work : BarWork) : Prop where
  | idle (unfilled : work.fills = [])
      (kept : work.state.holdings = state.holdings)
  | sale (reference : ℚ) (fact : FillFact)
      (holding : state.position.isSome = true)
      (sold : BarFill world.decimals source sequence bar .sell state.quantity
        (salePrice world.decimals source.settings reference) fact)
      (fills : work.fills = [fact])
      (kept : work.state.holdings =
        (soldState world source state reference).holdings)
  | purchase (plan : EntryPlan) (quantity : ℚ) (fact : FillFact)
      (entry : BarEntry world source sequence bar state plan quantity fact)
      (fills : work.fills = [fact])
      (kept : work.state.holdings =
        (enteredState world source bar state plan quantity).holdings)
  | roundTrip (plan : EntryPlan) (quantity : ℚ) (bought : FillFact)
      (reference : ℚ) (fact : FillFact)
      (entry : BarEntry world source sequence bar state plan quantity bought)
      (sold : BarFill world.decimals source sequence bar .sell quantity
        (salePrice world.decimals source.settings reference) fact)
      (fills : work.fills = [bought, fact])
      (kept : work.state.holdings = (soldState world source
        (enteredState world source bar state plan quantity)
          reference).holdings)

/-- Between bars: an exit is decided only while holding, and then no entry
is. -/
structure Orderly (source : ExperimentInput) (state : AccountState) :
    Prop where
  leaving : state.exitPending source.benchmark = true →
    state.position.isSome = true
  waiting : state.position.isSome = true → state.pending = none

section Stages

variable {world : EngineWorld} {source : ExperimentInput} {sequence : ℕ}
variable {bar : RecordedBar}

section

variable (found : source.candles[sequence]? = some bar)

include found

theorem BarWork.trade_eq_ok {work traded : BarWork} {side : FillSide}
    {quantity price : ℚ} {action : String}
    (trades : work.trade world source sequence bar side quantity price action =
      .ok traded) :
    ∃ fact, BarFill world.decimals source sequence bar side quantity price
        fact ∧
      traded.fills = work.fills ++ [fact] ∧
      traded.state = work.state.settle world.decimals source.settings side
        quantity price := by
  obtain ⟨⟨fact, after⟩, filled, made⟩ := Outcome.map_eq_ok.mp trades
  obtain ⟨sized, priced, recorded, settles, timed, same⟩ :=
    fill_eq_ok found filled
  subst made
  exact ⟨fact, ⟨sized, priced, recorded, settles, timed⟩, rfl, same⟩

/-- At the open a position is kept or sold. -/
theorem leaveAtOpen_cases {state : AccountState} {left : BarWork}
    (orderly : Orderly source state)
    (leaves : leaveAtOpen world source sequence bar state = .ok left) :
    left.state.exitPending source.benchmark = false ∧
      left.state.halted = state.halted ∧
      ((left.fills = [] ∧ left.state = state) ∨
        (state.exitPending source.benchmark = true ∧
          state.position.isSome = true ∧ left.state.pending = none ∧
          left.state.position = none ∧
          ∃ fact, BarFill world.decimals source sequence bar .sell
              state.quantity
              (salePrice world.decimals source.settings bar.openPrice) fact ∧
            left.fills = [fact] ∧
            left.state.holdings =
              (soldState world source state bar.openPrice).holdings)) := by
  unfold leaveAtOpen at leaves
  split at leaves
  · next leaving =>
      have holding := orderly.leaving leaving
      obtain ⟨fact, filled, fills, settled⟩ :=
        BarWork.trade_eq_ok found leaves
      dsimp only at fills settled
      have cleared := clearExit_eq state source.benchmark
      refine ⟨?_, ?_,
        .inr ⟨leaving, holding, ?_, ?_, fact, filled, fills, ?_⟩⟩
      · rw [settled, exitPending_settle]
        exact exitPending_clearExit state source.benchmark
      · rw [settled, cleared]
        rfl
      · rw [settled, pending_settle, cleared]
        exact orderly.waiting holding
      · rw [settled]
        rfl
      · rw [settled]
        apply holdings_settle
        rw [cleared]
        rfl
  · next stays =>
      cases leaves
      exact ⟨Bool.eq_false_iff.mpr stays, rfl, .inl ⟨rfl, rfl⟩⟩

/-- At the open a plan is kept, dropped or filled. -/
theorem enterAtOpen_cases {work entered : BarWork}
    (enters : enterAtOpen world source sequence bar work = .ok entered) :
    entered.state.pending = none ∧
      entered.state.exitPending source.benchmark =
        work.state.exitPending source.benchmark ∧
      entered.state.halted = work.state.halted ∧
      ((entered.fills = work.fills ∧
          entered.state.holdings = work.state.holdings) ∨
        ∃ plan quantity fact,
          BarEntry world source sequence bar work.state plan quantity fact ∧
          entered.fills = work.fills ++ [fact] ∧
          entered.state.holdings = (enteredState world source bar work.state
            plan quantity).holdings) := by
  unfold enterAtOpen at enters
  dsimp only at enters
  split at enters
  · cases enters
    exact ⟨rfl, rfl, rfl, .inl ⟨rfl, rfl⟩⟩
  · next plan planned =>
      split at enters
      · cases enters
        exact ⟨rfl, rfl, rfl, .inl ⟨rfl, rfl⟩⟩
      · next free =>
          rw [Bool.or_eq_true, not_or, Bool.not_eq_true,
            Option.not_isSome_iff_eq_none] at free
          split at enters
          · next inside =>
              split at enters
              · cases enters
              · next quantity sized =>
                  split at enters
                  · cases enters
                    exact ⟨rfl, rfl, rfl, .inl ⟨rfl, rfl⟩⟩
                  · obtain ⟨filled, trades, same⟩ :=
                      Outcome.map_eq_ok.mp enters
                    obtain ⟨fact, made, fills, settled⟩ :=
                      BarWork.trade_eq_ok found trades
                    subst same
                    have still := congrArg
                      (AccountState.exitPending source.benchmark) settled
                    rw [exitPending_settle] at still
                    have running := congrArg AccountState.halted settled
                    refine ⟨congrArg AccountState.pending settled, still,
                      running, .inr ⟨plan, quantity, fact, ?_, fills, ?_⟩⟩
                    · exact
                        { flat := free.2
                          running := free.1
                          planned := planned
                          below := inside.2.2.1
                          above := inside.2.2.2
                          sized := sized
                          filled := made }
                    · unfold enteredState
                      rw [settled]
                      rfl
          · cases enters
            exact ⟨rfl, rfl, rfl, .inl ⟨rfl, rfl⟩⟩

theorem leaveInside_cases {work done : BarWork}
    (leaves : leaveInside world source sequence bar work = .ok done) :
    done.state.pending = work.state.pending ∧
      done.state.exitPending source.benchmark =
        work.state.exitPending source.benchmark ∧
      done.state.halted = work.state.halted ∧
      ((done.fills = work.fills ∧ done.state.holdings = work.state.holdings) ∨
        ∃ plan reference reason fact, work.state.position = some plan ∧
          protectiveExit bar plan = some (reference, reason) ∧
          BarFill world.decimals source sequence bar .sell work.state.quantity
            (salePrice world.decimals source.settings reference) fact ∧
          done.fills = work.fills ++ [fact] ∧
          done.state.holdings =
            (soldState world source work.state reference).holdings) := by
  unfold leaveInside at leaves
  split at leaves
  · cases leaves
    exact ⟨rfl, rfl, rfl, .inl ⟨rfl, rfl⟩⟩
  · next reference reason closes =>
      obtain ⟨plan, holding, exit⟩ := Option.bind_eq_some_iff.mp closes
      obtain ⟨fact, filled, fills, settled⟩ :=
        BarWork.trade_eq_ok found leaves
      refine ⟨?_, ?_, ?_, .inr ⟨plan, reference, reason, fact, holding, exit,
        filled, fills, ?_⟩⟩
      · rw [settled, pending_settle]
      · rw [settled, exitPending_settle]
      · rw [settled]
        rfl
      · rw [settled]
        rfl

/-- A bar trades as described, and leaves nothing decided. -/
theorem tradeBar_cases {state : AccountState} {work : BarWork}
    (orderly : Orderly source state)
    (trades : tradeBar world source sequence bar state = .ok work) :
    BarTrades world source sequence bar state work ∧
      work.state.pending = none ∧
      work.state.exitPending source.benchmark = false ∧
      work.state.halted = state.halted := by
  unfold tradeBar at trades
  split at trades
  · cases trades
  · next left leaves =>
      obtain ⟨stays, running, choice⟩ := leaveAtOpen_cases found orderly leaves
      split at trades
      · cases trades
      · next entered enters =>
          obtain ⟨idle, same, running', entry⟩ := enterAtOpen_cases found enters
          obtain ⟨idle', same', running'', exit⟩ :=
            leaveInside_cases found trades
          refine ⟨?_, idle'.trans idle, same'.trans (same.trans stays),
            running''.trans (running'.trans running)⟩
          rcases choice with ⟨unfilled, rfl⟩ |
            ⟨_, holding, none, flat, fact, sold, fills, kept⟩
          · rcases entry with ⟨unfilled', kept⟩ |
              ⟨plan, quantity, bought, entry, fills, kept⟩
            · have quantity := congrArg Holdings.quantity kept
              have position := congrArg Holdings.position kept
              dsimp only [AccountState.holdings] at quantity position
              rcases exit with ⟨unfilled'', kept'⟩ |
                ⟨plan, reference, _, fact, held, _, sold, fills, kept'⟩
              · exact .idle (unfilled''.trans (unfilled'.trans unfilled))
                  (kept'.trans kept)
              · rw [position] at held
                rw [quantity] at sold
                refine .sale reference fact (by rw [held]; rfl) sold ?_ ?_
                · rw [fills, unfilled', unfilled, List.nil_append]
                · rw [kept']
                  unfold soldState
                  rw [quantity]
                  exact holdings_settle kept _ _ _
            · rcases exit with ⟨unfilled', kept'⟩ |
                ⟨_, reference, _, fact, _, _, sold, fills', kept'⟩
              · refine .purchase plan quantity bought entry ?_
                  (kept'.trans kept)
                rw [unfilled', fills, unfilled, List.nil_append]
              · have held := congrArg Holdings.quantity kept
                change entered.state.quantity = quantity at held
                rw [held] at sold
                refine .roundTrip plan quantity bought reference fact entry
                  sold ?_ ?_
                · rw [fills', fills, unfilled]
                  rfl
                · rw [kept']
                  unfold soldState
                  rw [held]
                  exact holdings_settle kept _ _ _
          · -- Nothing is left to enter or to leave.
            rcases entry with ⟨unfilled, kept'⟩ |
              ⟨plan, _, _, entry, _, _⟩
            · have position := congrArg Holdings.position kept'
              dsimp only [AccountState.holdings] at position
              rcases exit with ⟨unfilled', kept''⟩ | ⟨_, _, _, _, held, _⟩
              · exact .sale bar.openPrice fact holding sold
                  (unfilled'.trans (unfilled.trans fills))
                  (kept''.trans (kept'.trans kept))
              · rw [position, flat] at held
                cases held
            · have planned := entry.planned
              rw [none] at planned
              cases planned

end

end Stages

/-! ## Runs -/

section Runs

variable {world : EngineWorld} {source : ExperimentInput}

theorem initialState_orderly (source : ExperimentInput) :
    Orderly source (initialState source) :=
  { leaving := (initialState_between source).leaving
    waiting := (initialState_between source).waiting }

/-- A bar of a run: what it trades, how it is marked, and what is decided. -/
structure BarRun (world : EngineWorld) (source : ExperimentInput)
    (sequence : ℕ) (bar : RecordedBar) (state : AccountState)
    (event : ExperimentEvent) (work : BarWork) : Prop where
  found : source.candles[sequence]? = some bar
  trades : BarTrades world source sequence bar state work
  fills : event.fills = work.fills
  idle : work.state.pending = none
  running : work.state.halted = state.halted
  decided : (markAtClose world source bar work.state).DecidedFrom source
    event.state

theorem advance_cases {sequence : ℕ} {transport : Option DecisionTransport}
    {state : AccountState} {event : ExperimentEvent}
    (orderly : Orderly source state)
    (advanced : advance world source sequence transport state = .ok event) :
    (∃ bar work, BarRun world source sequence bar state event work) ∧
      Orderly source event.state := by
  unfold advance at advanced
  split at advanced
  · cases advanced
  · next bar found =>
      unfold advanceBar at advanced
      split at advanced
      · cases advanced
      · next work trades =>
          obtain ⟨cases, idle, stays, running⟩ :=
            tradeBar_cases found orderly trades
          obtain ⟨decided, decides, made⟩ := Outcome.map_eq_ok.mp advanced
          have effect := AccountState.DecidedFrom.of_decideChannel decides
          subst made
          have position : decided.state.position = work.state.position := by
            rw [effect.kept]
            rfl
          refine ⟨⟨bar, work, found, cases, rfl, idle, running, effect⟩, ?_, ?_⟩
          · intro leaves
            rcases effect.left leaves with before | holding
            · exact absurd (before.symm.trans stays) (by decide)
            · rw [position]
              exact holding
          · intro holding
            by_contra waiting
            obtain ⟨plan, pending⟩ := Option.ne_none_iff_exists'.mp waiting
            rcases effect.entered plan pending with before | ⟨flat, _⟩
            · exact absurd (idle.symm.trans before) (by simp)
            · rw [position, show work.state.position = none from flat]
                at holding
              cases holding

section

variable {transports : ℕ → Option DecisionTransport} {count : ℕ}
variable {events : List ExperimentEvent}
variable (ran : runBars world source transports count = .ok events)

include transports count events ran

theorem runBars_orderly :
    Orderly source (stateAfter source events) := by
  induction count generalizing events with
  | zero =>
      cases ran
      exact initialState_orderly source
  | succ count induction =>
      unfold runBars at ran
      split at ran
      · cases ran
      · next before earlier =>
          obtain ⟨event, advanced, same⟩ := Outcome.map_eq_ok.mp ran
          rw [← same, stateAfter_append]
          exact (advance_cases (induction earlier) advanced).2

theorem runBars_advance {index : ℕ} {event : ExperimentEvent}
    (at_ : events[index]? = some event) :
    advance world source index (transports index)
        (stateAfter source (events.take index)) = .ok event ∧
      Orderly source (stateAfter source (events.take index)) := by
  obtain ⟨bound, here⟩ := List.getElem?_eq_some_iff.mp at_
  rw [length_runBars ran] at bound
  have before := runBars_take ran bound.le
  have after := runBars_take ran (show index + 1 ≤ count by omega)
  unfold runBars at after
  rw [before] at after
  obtain ⟨next, advanced, same⟩ := Outcome.map_eq_ok.mp after
  rw [List.take_add_one, at_] at same
  have last : next = event := by
    simpa using List.append_cancel_left same
  rw [last] at advanced
  exact ⟨advanced, runBars_orderly before⟩

theorem runBars_event {index : ℕ} {event : ExperimentEvent}
    (at_ : events[index]? = some event) :
    ∃ bar work, BarRun world source index bar
      (stateAfter source (events.take index)) event work := by
  obtain ⟨advanced, orderly⟩ := runBars_advance ran at_
  exact (advance_cases orderly advanced).1

end

end Runs

end GptTrader
