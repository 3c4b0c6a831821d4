import GptTrader.Experiment.ExactBooks

/-!
# Exact runs reconcile

A bar keeps the books: an exit decided before is filled while nothing is
pending, an entry is filled while flat, and the plan of a position closes all
of it.  So every run reconciles after every bar.
-/

namespace GptTrader

/-- Fills and the state they lead to, before a time. -/
structure Booked (source : ExperimentInput) (fills : List FillFact)
    (state : AccountState) (now : ℤ) : Prop where
  accounted : ∃ books, Accounted source fills state books
  recorded : RecordedFills source fills now
  holding : state.position.isSome = true → 0 < state.quantity
  flat : state.position = none → state.quantity = 0
  aimed : ∀ plan, state.position = some plan → 0 < plan.target

section Bar

variable {world : EngineWorld} {source : ExperimentInput} {sequence : ℕ}
variable {bar : RecordedBar} {earlier : List FillFact}

section

variable (exactly : world.decimals = .exact)
variable (found : source.candles[sequence]? = some bar) (work : BarWork) {now : ℤ}
variable (booked : Booked source (earlier ++ work.fills) work.state now)

include exactly found work now booked

theorem Booked.sell (soon : now ≤ bar.ts.instant + (hour - 1))
    (holding : work.state.position.isSome = true) {reference : ℚ}
    (priced : 0 < reference) (action : String) :
    ∃ sold, work.trade world source sequence bar .sell work.state.quantity
        (salePrice world.decimals source.settings reference) action =
          .ok sold ∧
      Booked source (earlier ++ sold.fills) sold.state
        (bar.ts.instant + hour) ∧
      sold.state = work.state.settle .exact source.settings .sell
        work.state.quantity (salePrice .exact source.settings reference) := by
  have held := booked.holding holding
  have yields := salePrice_exact_pos source.settings priced
  obtain ⟨fact, filled⟩ := fill_of_pos .exact source sequence bar .sell
    work.state held yields
  obtain ⟨_, _, recorded, settles, moment, _⟩ := fill_eq_ok found filled
  obtain ⟨books, accounted⟩ := booked.accounted
  refine ⟨
    { fills := work.fills ++ [fact]
      actions := work.actions ++ [action]
      state := work.state.settle .exact source.settings .sell
        work.state.quantity (salePrice .exact source.settings reference) },
    ?_, ?_, rfl⟩
  · unfold BarWork.trade
    rw [exactly, filled]
    rfl
  · have time : fact.executedAt = bar.ts.instant + (hour - 1) := moment
    rw [← List.append_assoc]
    constructor
    · exact accounted.sell held yields settles
    · have appended := booked.recorded.append recorded (by omega)
      rwa [time, show bar.ts.instant + (hour - 1) + 1 =
        bar.ts.instant + hour by ring] at appended
    · exact fun some => absurd some Bool.false_ne_true
    · exact fun _ => rfl
    · exact fun _ some => nomatch some

theorem Booked.buy (soon : now ≤ bar.ts.instant + 1) (flat : work.state.position = none)
    {quantity price : ℚ} (bought : 0 < quantity) (priced : 0 < price)
    (affordable : quantity *
      (price * (1 + feeRate .exact source.settings)) ≤ work.state.cash)
    (action : String) {plan : EntryPlan} (aimed : 0 < plan.target) :
    ∃ filled, work.trade world source sequence bar .buy quantity price
        action = .ok filled ∧
      Booked source (earlier ++ filled.fills)
        { filled.state with position := some plan } (bar.ts.instant + 2) ∧
      filled.state = work.state.settle .exact source.settings .buy quantity
        price := by
  obtain ⟨fact, filled⟩ := fill_of_pos .exact source sequence bar .buy
    work.state bought priced
  obtain ⟨_, _, recorded, settles, moment, _⟩ := fill_eq_ok found filled
  obtain ⟨books, accounted⟩ := booked.accounted
  refine ⟨
    { fills := work.fills ++ [fact]
      actions := work.actions ++ [action]
      state := work.state.settle .exact source.settings .buy quantity price },
    ?_, ?_, rfl⟩
  · unfold BarWork.trade
    rw [exactly, filled]
    rfl
  · have time : fact.executedAt = bar.ts.instant + 1 := moment
    have paid : quantity * price +
        fillFee .exact source.settings quantity price ≤ work.state.cash := by
      rw [fillFee_exact]
      linarith
    rw [← List.append_assoc]
    constructor
    · obtain ⟨entered, after⟩ := accounted.buy (booked.flat flat) bought priced
        settles paid
      exact ⟨entered, { after with }⟩
    · have appended := booked.recorded.append recorded (by omega)
      rwa [time, show bar.ts.instant + 1 + 1 = bar.ts.instant + 2 by ring]
        at appended
    · exact fun _ => bought
    · exact fun none => nomatch none
    · rintro _ ⟨⟩
      exact aimed

end

theorem Booked.with {fills : List FillFact} {state : AccountState} {now : ℤ}
    (booked : Booked source fills state now) {after : AccountState} {later : ℤ}
    (kept : after =
      { state with
        peakEquity := after.peakEquity
        halted := after.halted
        pending := after.pending
        manager := after.manager
        rulebook := after.rulebook })
    (le : now ≤ later) : Booked source fills after later := by
  rw [kept]
  obtain ⟨books, accounted⟩ := booked.accounted
  exact
    { accounted := ⟨books, { accounted with }⟩
      recorded := booked.recorded.later le
      holding := booked.holding
      flat := booked.flat
      aimed := booked.aimed }

/-- A state between two bars: an exit is decided only while holding, and then
no entry is. -/
structure BetweenBars (source : ExperimentInput) (fills : List FillFact)
    (state : AccountState) (now : ℤ) : Prop
    extends Booked source fills state now where
  leaving : state.exitPending source.benchmark = true →
    state.position.isSome = true
  waiting : state.position.isSome = true → state.pending = none

/-! ## The stages of a bar -/

theorem exitPending_clearExit (state : AccountState) (benchmark : Benchmark) :
    (state.clearExit benchmark).exitPending benchmark = false := by
  unfold AccountState.clearExit AccountState.exitPending
  split
  · cases state.manager <;> rfl
  · cases state.rulebook <;> rfl

theorem clearExit_eq (state : AccountState) (benchmark : Benchmark) :
    state.clearExit benchmark =
      { state with
        manager := (state.clearExit benchmark).manager
        rulebook := (state.clearExit benchmark).rulebook } := by
  unfold AccountState.clearExit
  split <;> rfl

theorem exitPending_settle (context : DecimalContext)
    (settings : ExperimentSettings) (state : AccountState) (side : FillSide)
    (quantity price : ℚ) (benchmark : Benchmark) :
    (state.settle context settings side quantity price).exitPending benchmark =
      state.exitPending benchmark := by
  cases side <;> rfl

theorem pending_settle (context : DecimalContext)
    (settings : ExperimentSettings) (state : AccountState) (side : FillSide)
    (quantity price : ℚ) :
    (state.settle context settings side quantity price).pending =
      state.pending := by
  cases side <;> rfl

theorem leaveAtOpen_booked (exactly : world.decimals = .exact)
    (found : source.candles[sequence]? = some bar) {state : AccountState}
    {now : ℤ} (between : BetweenBars source earlier state now)
    (soon : now ≤ bar.ts.instant) :
    ∃ left, leaveAtOpen world source sequence bar state = .ok left ∧
      left.state.exitPending source.benchmark = false ∧
      ((left.state.pending = none ∧ left.state.position = none ∧
          Booked source (earlier ++ left.fills) left.state
            (bar.ts.instant + hour)) ∨
        (left.fills = [] ∧ left.state = state)) := by
  unfold leaveAtOpen
  split
  · next leaves =>
      have holding := between.leaving leaves
      have kept := clearExit_eq state source.benchmark
      have booked : Booked source (earlier ++ [])
          (state.clearExit source.benchmark) now := by
        rw [List.append_nil]
        apply between.toBooked.with _ le_rfl
        rw [kept]
      have quantity : state.quantity =
          (state.clearExit source.benchmark).quantity := by rw [kept]
      have position : (state.clearExit source.benchmark).position.isSome =
          true := by
        rw [kept]
        exact holding
      obtain ⟨left, sold, after, settled⟩ := Booked.sell exactly found
        { fills := [], actions := [], state := state.clearExit _ } booked
        (by unfold hour; omega) position bar.positive.1
        ("position settled: " ++ exitReason source.benchmark ++
          " at next open")
      refine ⟨left, ?_, ?_, .inl ⟨?_, ?_, after⟩⟩
      · rw [quantity]
        exact sold
      · rw [settled, exitPending_settle]
        exact exitPending_clearExit state source.benchmark
      · rw [settled, pending_settle, kept]
        exact between.waiting holding
      · rw [settled]
        rfl
  · next stays =>
      exact ⟨_, rfl, Bool.eq_false_iff.mpr stays, .inr ⟨rfl, rfl⟩⟩

theorem enterAtOpen_booked (exactly : world.decimals = .exact)
    (found : source.candles[sequence]? = some bar) {work : BarWork} {now : ℤ}
    (booked : Booked source (earlier ++ work.fills) work.state now)
    (soon : now ≤ bar.ts.instant + 1) :
    ∃ entered, enterAtOpen world source sequence bar work = .ok entered ∧
      entered.state.pending = none ∧
      entered.state.exitPending source.benchmark =
        work.state.exitPending source.benchmark ∧
      Booked source (earlier ++ entered.fills) entered.state
        (bar.ts.instant + 2) := by
  have unchanged : Booked source (earlier ++ work.fills)
      { work.state with pending := none } (bar.ts.instant + 2) :=
    booked.with rfl (by omega)
  unfold enterAtOpen
  dsimp only
  cases work.state.pending with
  | none => exact ⟨_, rfl, rfl, rfl, unchanged⟩
  | some plan =>
      dsimp only
      split
      · exact ⟨_, rfl, rfl, rfl, unchanged⟩
      · next open_ =>
          rw [Bool.or_eq_true, not_or, Bool.not_eq_true,
            Option.not_isSome_iff_eq_none] at open_
          split
          · next inside =>
              obtain ⟨_, _, below, above⟩ := inside
              rw [exactly] at below above ⊢
              have priced := purchasePrice_exact_pos source.settings
                bar.positive.1
              obtain ⟨quantity, sized, bounds⟩ := entryQuantity_exact
                source.settings work.state.cash plan.sizeFraction priced below
              rw [sized]
              dsimp only
              split
              · exact ⟨_, rfl, rfl, rfl, unchanged⟩
              · next bought =>
                  rw [not_le] at bought
                  obtain ⟨filled, made, after, settled⟩ := Booked.buy exactly
                    found { work with state :=
                      { work.state with pending := none } }
                    (booked.with rfl le_rfl) soon open_.2 bought priced
                    (bounds bought).affordable
                    ("entry filled at next open with costs and current " ++
                      "cash limits") (priced.trans above)
                  rw [made]
                  have still := congrArg
                    (AccountState.exitPending source.benchmark) settled
                  rw [exitPending_settle] at still
                  exact ⟨_, rfl, congrArg AccountState.pending settled, still,
                    after⟩
          · exact ⟨_, rfl, rfl, rfl, unchanged⟩

theorem protectiveExit_pos {position : EntryPlan} {reference : ℚ}
    {reason : String} (aimed : 0 < position.target)
    (leaves : protectiveExit bar position = some (reference, reason)) :
    0 < reference := by
  obtain ⟨opened, _, low, closed⟩ := bar.positive
  unfold protectiveExit at leaves
  split at leaves
  · next touched =>
      cases leaves
      exact lt_min opened (low.trans_le touched)
  · split at leaves
    · cases leaves
      exact aimed
    · split at leaves
      · cases leaves
        exact closed
      · cases leaves

theorem leaveInside_booked (exactly : world.decimals = .exact)
    (found : source.candles[sequence]? = some bar) {work : BarWork} {now : ℤ}
    (booked : Booked source (earlier ++ work.fills) work.state now)
    (soon : now ≤ bar.ts.instant + (hour - 1)) :
    ∃ done, leaveInside world source sequence bar work = .ok done ∧
      done.state.pending = work.state.pending ∧
      done.state.exitPending source.benchmark =
        work.state.exitPending source.benchmark ∧
      Booked source (earlier ++ done.fills) done.state
        (bar.ts.instant + hour) := by
  unfold leaveInside
  cases leaves : work.state.position.bind (protectiveExit bar) with
  | none => exact ⟨work, rfl, rfl, rfl, booked.with rfl (by omega)⟩
  | some exit =>
      obtain ⟨reference, reason⟩ := exit
      obtain ⟨position, holding, leaves⟩ := Option.bind_eq_some_iff.mp leaves
      obtain ⟨done, sold, after, settled⟩ := Booked.sell exactly found work
        booked soon (by rw [holding]; rfl)
        (protectiveExit_pos (booked.aimed position holding) leaves)
        ("position settled: " ++ reason)
      refine ⟨done, sold, ?_, ?_, after⟩
      · rw [settled, pending_settle]
      · rw [settled, exitPending_settle]

/-- In exact arithmetic the trades of a bar are booked. -/
theorem tradeBar_booked (exactly : world.decimals = .exact)
    (found : source.candles[sequence]? = some bar) {state : AccountState}
    {now : ℤ} (between : BetweenBars source earlier state now)
    (soon : now ≤ bar.ts.instant) :
    ∃ work, tradeBar world source sequence bar state = .ok work ∧
      work.state.pending = none ∧
      work.state.exitPending source.benchmark = false ∧
      Booked source (earlier ++ work.fills) work.state
        (bar.ts.instant + hour) := by
  obtain ⟨left, leaves, stays, cases⟩ :=
    leaveAtOpen_booked exactly found between soon
  unfold tradeBar
  rw [leaves]
  dsimp only
  rcases cases with ⟨pending, flat, booked⟩ | ⟨unfilled, unchanged⟩
  · have entered : enterAtOpen world source sequence bar left = .ok left := by
      unfold enterAtOpen
      rw [pending]
      dsimp only
      rw [← pending]
    rw [entered]
    dsimp only
    unfold leaveInside
    rw [flat]
    exact ⟨left, rfl, pending, stays, booked⟩
  · have booked : Booked source (earlier ++ left.fills) left.state now := by
      rw [unfilled, unchanged, List.append_nil]
      exact between.toBooked
    obtain ⟨entered, enters, waiting, same, booked⟩ :=
      enterAtOpen_booked exactly found booked (by omega)
    rw [enters]
    dsimp only
    obtain ⟨done, closes, kept, still, booked⟩ :=
      leaveInside_booked exactly found booked (by unfold hour; omega)
    exact ⟨done, closes, kept.trans waiting, still.trans (same.trans stays),
      booked⟩

end Bar

/-! ## Runs -/

section Run

variable {world : EngineWorld} {source : ExperimentInput} {sequence : ℕ}

def AccountState.Controlled (source : ExperimentInput)
    (state : AccountState) : Prop :=
  (source.benchmark = .aiTradeManager → state.manager.isSome = true) ∧
    (source.benchmark = .aiRulebook → state.rulebook.isSome = true)

theorem initialState_controlled (source : ExperimentInput) :
    (initialState source).Controlled source := by
  constructor
  · intro managed
    have given := source.managed.mpr managed
    unfold initialState
    rw [Option.isSome_map]
    exact given
  · intro ruled
    unfold initialState
    rw [if_pos ruled]
    rfl

theorem AccountState.Controlled.of_same {state after : AccountState}
    (controlled : state.Controlled source)
    (manager : after.manager.isSome = state.manager.isSome)
    (rulebook : after.rulebook.isSome = state.rulebook.isSome) :
    after.Controlled source :=
  ⟨fun managed => manager.trans (controlled.1 managed),
    fun ruled => rulebook.trans (controlled.2 ruled)⟩

theorem BarWork.trade_controlled {bar : RecordedBar} {work traded : BarWork}
    {side : FillSide} {quantity price : ℚ} {action : String}
    (controlled : work.state.Controlled source)
    (trades : work.trade world source sequence bar side quantity price action =
      .ok traded) : traded.state.Controlled source := by
  obtain ⟨⟨fact, after⟩, filled, made⟩ := Outcome.map_eq_ok.mp trades
  obtain ⟨_, _, same⟩ := Outcome.map_eq_ok.mp filled
  cases same
  subst made
  exact controlled.of_same (by cases side <;> rfl) (by cases side <;> rfl)

theorem tradeBar_controlled {bar : RecordedBar} {state : AccountState}
    {work : BarWork} (controlled : state.Controlled source)
    (trades : tradeBar world source sequence bar state = .ok work) :
    work.state.Controlled source := by
  unfold tradeBar at trades
  split at trades
  · cases trades
  · next left leaves =>
      have leftControlled : left.state.Controlled source := by
        unfold leaveAtOpen at leaves
        split at leaves
        · apply BarWork.trade_controlled _ leaves
          apply controlled.of_same
          · unfold AccountState.clearExit
            split <;> simp
          · unfold AccountState.clearExit
            split <;> simp
        · cases leaves
          exact controlled
      split at trades
      · cases trades
      · next entered enters =>
          have enteredControlled : entered.state.Controlled source := by
            unfold enterAtOpen at enters
            dsimp only at enters
            split at enters
            · cases enters
              exact leftControlled
            · split at enters
              · cases enters
                exact leftControlled
              · split at enters
                · split at enters
                  · cases enters
                  · split at enters
                    · cases enters
                      exact leftControlled
                    · obtain ⟨filled, made, same⟩ :=
                        Outcome.map_eq_ok.mp enters
                      subst same
                      have done : filled.state.Controlled source :=
                        BarWork.trade_controlled (by exact leftControlled) made
                      exact done
                · cases enters
                  exact leftControlled
          unfold leaveInside at trades
          split at trades
          · cases trades
            exact enteredControlled
          · exact BarWork.trade_controlled enteredControlled trades

/-- An error that comes from outside the engine. -/
def EngineError.external : EngineError → Prop
  | .accounting => False
  | .divisionByZero => False
  | .transportUnavailable _ => True
  | .raised _ => True
  | .internal _ => False

theorem evaluateRulebook_external (ruled : source.benchmark = .aiRulebook)
    {bar : RecordedBar} {state : AccountState}
    (controlled : state.Controlled source) {error : EngineError}
    (raised : evaluateRulebook world source sequence bar state =
      .error error) : error.external := by
  unfold evaluateRulebook at raised
  split at raised
  · dsimp only at raised
    split_ifs at raised
  · next none =>
      unfold activeVersion at none
      split at none
      · next empty => exact absurd empty (source.rulebooks_ne_nil ruled)
      · cases none
  · next none _ =>
      have known := controlled.2 ruled
      rw [none] at known
      cases known

theorem readTurn_external {holding : Bool} {lastClose : ℚ}
    {outcome : TransportOutcome} {error : EngineError}
    (raised : readTurn world holding lastClose outcome = .error error) :
    error.external := by
  unfold readTurn at raised
  cases outcome with
  | raised message =>
      cases raised
      exact trivial
  | failed message errorClass => cases raised
  | reply reply =>
      dsimp only at raised
      split at raised
      · cases raised
      · split at raised
        · cases raised
        · cases raised
        · cases raised
          exact trivial

theorem manage_external (managed : source.benchmark = .aiTradeManager)
    {bar : RecordedBar} {state : AccountState}
    (controlled : state.Controlled source)
    {transport : Option DecisionTransport} {filled : Bool}
    {error : EngineError}
    (raised : manage world source sequence bar transport filled state =
      .error error) : error.external := by
  unfold manage at raised
  split at raised
  · split at raised
    · split at raised
      · cases raised
        exact trivial
      · dsimp only at raised
        generalize read : readTurn world _ _ _ = reading at raised
        cases reading with
        | ok reading => cases raised
        | error failure =>
            cases raised
            exact readTurn_external read
    · cases raised
  · next none =>
      have given := source.managed.mpr managed
      rw [none] at given
      cases given
  · next none _ =>
      have known := controlled.1 managed
      rw [none] at known
      cases known

theorem decideChannel_external {bar : RecordedBar} {state : AccountState}
    (controlled : state.Controlled source)
    {transport : Option DecisionTransport} {filled : Bool}
    {error : EngineError}
    (raised : decideChannel world source sequence bar transport filled state =
      .error error) : error.external := by
  unfold decideChannel at raised
  split at raised
  · next ruled =>
      generalize evaluated : evaluateRulebook world source sequence bar state =
        outcome at raised
      cases outcome with
      | ok made => cases raised
      | error failure =>
          cases raised
          exact evaluateRulebook_external ruled.1 controlled evaluated
  · split at raised
    · cases raised
    · split at raised
      · next managed =>
          generalize manages : manage world source sequence bar transport
            filled state = outcome at raised
          cases outcome with
          | ok made => cases raised
          | error failure =>
              cases raised
              exact manage_external managed.1 controlled manages
      · split at raised
        · cases raised
        · split at raised
          · cases raised
          · unfold decideByRule at raised
            dsimp only at raised
            split at raised
            · cases raised
              exact trivial
            · cases raised
            · cases raised
            · split at raised
              · cases raised
              · cases raised

/-- What a run keeps from bar to bar; only a channel may stop it. -/
theorem advance_between (exactly : world.decimals = .exact)
    (transport : Option DecisionTransport)
    (within : sequence < source.candles.length)
    {earlier : List FillFact} {state : AccountState}
    (between : BetweenBars source earlier state
      (source.opensAt + hour * sequence))
    (controlled : state.Controlled source) :
    (∀ error, advance world source sequence transport state = .error error →
      error.external) ∧
    ∀ event, advance world source sequence transport state = .ok event →
      BetweenBars source (earlier ++ event.fills) event.state
          (source.opensAt + hour * (sequence + 1 : ℕ)) ∧
        event.state.Controlled source := by
  unfold advance
  obtain ⟨bar, found⟩ : ∃ bar, source.candles[sequence]? = some bar :=
    ⟨_, List.getElem?_eq_getElem within⟩
  rw [found]
  dsimp only
  have opens := source.ts_eq found
  obtain ⟨work, traded, idle, stays, booked⟩ :=
    tradeBar_booked exactly found between (by omega)
  have kept := tradeBar_controlled controlled traded
  have markedControlled :
      (markAtClose world source bar work.state).Controlled source := kept
  unfold advanceBar
  rw [traded]
  dsimp only
  constructor
  · intro error raised
    generalize decides : decideChannel world source sequence bar transport
      (!work.fills.isEmpty) (markAtClose world source bar work.state) =
        outcome at raised
    cases outcome with
    | ok decided => cases raised
    | error failure =>
        cases raised
        exact decideChannel_external markedControlled decides
  · intro event advanced
    obtain ⟨decided, decides, made⟩ := Outcome.map_eq_ok.mp advanced
    have effect := AccountState.DecidedFrom.of_decideChannel decides
    subst made
    have marked : Booked source (earlier ++ work.fills)
        (markAtClose world source bar work.state)
        (source.opensAt + hour * (sequence + 1 : ℕ)) :=
      booked.with rfl (by rw [opens]; push_cast; linarith)
    have position : decided.state.position = work.state.position := by
      rw [effect.kept]
      rfl
    constructor
    · constructor
      · apply marked.with _ le_rfl
        dsimp only
        rw [effect.kept]
      · intro leaves
        rcases effect.left leaves with before | holding
        · exact absurd (before.symm.trans stays) (by decide)
        · rw [position]
          exact holding
      · intro holding
        by_contra waiting
        obtain ⟨plan, pending⟩ := Option.ne_none_iff_exists'.mp waiting
        rcases effect.entered plan pending with before | ⟨flat, _⟩
        · exact absurd (idle.symm.trans before) (by simp)
        · rw [position, show work.state.position = none from flat] at holding
          cases holding
    · exact ⟨fun managed => effect.controlled.1 (markedControlled.1 managed),
        fun ruled => effect.controlled.2 (markedControlled.2 ruled)⟩

theorem initialState_between (source : ExperimentInput) :
    BetweenBars source [] (initialState source) source.opensAt := by
  constructor
  · constructor
    · exact ⟨_, Accounted.initial source⟩
    · exact RecordedFills.nil source _
    · exact fun some => absurd some Bool.false_ne_true
    · exact fun _ => rfl
    · exact fun _ some => nomatch some
  · intro leaves
    unfold AccountState.exitPending initialState at leaves
    dsimp only at leaves
    split at leaves
    · cases given : source.manager with
      | none =>
          rw [given] at leaves
          cases leaves
      | some settings =>
          rw [given] at leaves
          cases leaves
    · split at leaves
      · cases leaves
      · cases leaves
  · exact fun _ => rfl

theorem stateAfter_append (source : ExperimentInput)
    (events : List ExperimentEvent) (event : ExperimentEvent) :
    stateAfter source (events ++ [event]) = event.state := by
  unfold stateAfter
  rw [List.getLast?_concat]
  rfl

theorem allFills_append (events : List ExperimentEvent)
    (event : ExperimentEvent) :
    allFills (events ++ [event]) = allFills events ++ event.fills := by
  unfold allFills
  rw [List.flatMap_append, List.flatMap_singleton]

section

variable {transports : ℕ → Option DecisionTransport} {count : ℕ}
variable {events : List ExperimentEvent}
variable (ran : runBars world source transports count = .ok events)

include transports count events ran

theorem length_runBars :
    events.length = count := by
  induction count generalizing events with
  | zero =>
      cases ran
      rfl
  | succ count induction =>
      unfold runBars at ran
      split at ran
      · cases ran
      · next before earlier =>
          obtain ⟨event, _, same⟩ := Outcome.map_eq_ok.mp ran
          rw [← same, List.length_append, induction earlier]
          rfl

theorem runBars_take {shorter : ℕ} (le : shorter ≤ count) :
    runBars world source transports shorter = .ok (events.take shorter) := by
  induction count generalizing events with
  | zero =>
      obtain rfl : shorter = 0 := by omega
      cases ran
      rfl
  | succ count induction =>
      rcases le.eq_or_lt with rfl | less
      · rw [ran, List.take_of_length_le (length_runBars ran).le]
      · unfold runBars at ran
        split at ran
        · cases ran
        · next before earlier =>
            obtain ⟨event, _, same⟩ := Outcome.map_eq_ok.mp ran
            rw [← same, List.take_append_of_le_length
              (by rw [length_runBars earlier]; omega)]
            exact induction earlier (by omega)

end

theorem runBars_between (exactly : world.decimals = .exact)
    (transports : ℕ → Option DecisionTransport) {count : ℕ}
    (within : count ≤ source.candles.length) :
    (∀ error, runBars world source transports count = .error error →
      error.external) ∧
    ∀ events, runBars world source transports count = .ok events →
      BetweenBars source (allFills events) (stateAfter source events)
          (source.opensAt + hour * count) ∧
        (stateAfter source events).Controlled source := by
  induction count with
  | zero =>
      refine ⟨fun error raised => (nomatch raised), fun events ran => ?_⟩
      cases ran
      rw [Nat.cast_zero, mul_zero, add_zero]
      exact ⟨initialState_between source, initialState_controlled source⟩
  | succ count induction =>
      obtain ⟨errors, kept⟩ := induction (by omega)
      unfold runBars
      cases earlier : runBars world source transports count with
      | error failure =>
          refine ⟨fun error raised => ?_, fun events ran => (nomatch ran)⟩
          cases raised
          exact errors _ earlier
      | ok before =>
          dsimp only
          obtain ⟨between, controlled⟩ := kept before earlier
          obtain ⟨stops, advances⟩ := advance_between exactly
            (transports count) (by omega) between controlled
          constructor
          · intro error raised
            generalize advanced : advance world source count (transports count)
              (stateAfter source before) = outcome at raised
            cases outcome with
            | ok event => cases raised
            | error failure =>
                cases raised
                exact stops _ advanced
          · intro events ran
            obtain ⟨event, advanced, same⟩ := Outcome.map_eq_ok.mp ran
            rw [← same, allFills_append, stateAfter_append]
            exact advances event advanced

end Run

end GptTrader
