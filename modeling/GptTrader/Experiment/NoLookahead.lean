import GptTrader.Experiment.AlikeInputs
import GptTrader.Experiment.ReconciledRuns
import GptTrader.Library.Outcome

/-!
# No look-ahead

Runs over inputs that look alike up to a bar do the same up to that bar, except
for the input's identity in the identities they assign.
-/

namespace GptTrader

/-! ## Alike records -/

section Records

variable (source other : ExperimentInput)

/-- The same identity, up to the prefix of the input that assigned it. -/
inductive Renamed : String → String → Prop where
  | same (identity : String) : Renamed identity identity
  | prefixed (rest : String) :
      Renamed (source.identityPrefix ++ rest) (other.identityPrefix ++ rest)

/-- The same fill under renamed identities. -/
structure FillFact.Alike (fact seen : FillFact) : Prop where
  fillId : Renamed source other fact.fillId seen.fillId
  orderId : Renamed source other fact.orderId seen.orderId
  clientOrderId : Renamed source other fact.clientOrderId seen.clientOrderId
  symbol : seen.symbol = fact.symbol
  side : seen.side = fact.side
  quantity : seen.quantity = fact.quantity
  price : seen.price = fact.price
  executedAt : seen.executedAt = fact.executedAt
  fee : seen.fee = fact.fee
  feeCurrency : seen.feeCurrency = fact.feeCurrency

/-- The same plan under a renamed identity. -/
inductive EntryPlan.Alike (plan : EntryPlan) : EntryPlan → Prop where
  | renamed {decisionId : String}
      (renamed : Renamed source other plan.decisionId decisionId) :
      Alike plan { plan with decisionId := decisionId }

/-- The same account, with alike plans. -/
inductive AccountState.Alike (state : AccountState) : AccountState → Prop where
  | planned {position pending : Option EntryPlan}
      (held : Option.Rel (EntryPlan.Alike source other) state.position
        position)
      (waiting : Option.Rel (EntryPlan.Alike source other) state.pending
        pending) :
      Alike state { state with position := position, pending := pending }

/-- The same proposal. -/
inductive Proposal.Alike : Proposal → Proposal → Prop where
  | plan {plan seen : EntryPlan} (alike : plan.Alike source other seen) :
      Alike (.plan plan) (.plan seen)
  | idea (record : Json) : Alike (.idea record) (.idea record)

/-- The same decision, actions, fills and state. -/
structure ExperimentEvent.Alike (event seen : ExperimentEvent) : Prop where
  sequence : seen.sequence = event.sequence
  decision : seen.decision = event.decision
  proposal : Option.Rel (Proposal.Alike source other) event.proposal
    seen.proposal
  actions : seen.actions = event.actions
  fills : List.Forall₂ (FillFact.Alike source other) event.fills seen.fills
  state : event.state.Alike source other seen.state
  activation : seen.activation = event.activation
  turn : seen.turn = event.turn

/-- The same work. -/
structure BarWork.Alike (work seen : BarWork) : Prop where
  fills : List.Forall₂ (FillFact.Alike source other) work.fills seen.fills
  actions : seen.actions = work.actions
  state : work.state.Alike source other seen.state

/-- The same decision of the manager. -/
structure ManagerDecision.Alike (decided seen : ManagerDecision) : Prop where
  label : seen.label = decided.label
  proposal : Option.Rel (EntryPlan.Alike source other) decided.proposal
    seen.proposal
  turn : seen.turn = decided.turn
  actions : seen.actions = decided.actions
  state : decided.state.Alike source other seen.state

/-- The same decision of a channel. -/
structure ChannelDecision.Alike (decided seen : ChannelDecision) : Prop where
  label : seen.label = decided.label
  proposal : Option.Rel (Proposal.Alike source other) decided.proposal
    seen.proposal
  activation : seen.activation = decided.activation
  turn : seen.turn = decided.turn
  actions : seen.actions = decided.actions
  state : decided.state.Alike source other seen.state

end Records

variable {source other : ExperimentInput}

theorem optionRel_cases {α β : Type} {relation : α → β → Prop}
    {left : Option α} {right : Option β}
    (related : Option.Rel relation left right) :
    (left = none ∧ right = none) ∨
      ∃ value found, left = some value ∧ right = some found ∧
        relation value found := by
  cases related with
  | none => exact .inl ⟨rfl, rfl⟩
  | some related => exact .inr ⟨_, _, rfl, rfl, related⟩

theorem EntryPlan.Alike.refl (plan : EntryPlan) :
    plan.Alike source other plan :=
  .renamed (.same _)

theorem ChannelDecision.Alike.labelled (label : String)
    {state seen : AccountState} (same : state.Alike source other seen) :
    ChannelDecision.Alike source other (.labelled label state)
      (.labelled label seen) :=
  { label := rfl
    proposal := .none
    activation := rfl
    turn := rfl
    actions := rfl
    state := same }

theorem Proposal.alike_plans {plan seen : Option EntryPlan}
    (plans : Option.Rel (EntryPlan.Alike source other) plan seen) :
    Option.Rel (Proposal.Alike source other) (plan.map .plan)
      (seen.map .plan) := by
  cases plans with
  | none => exact .none
  | some alike => exact .some (.plan alike)

namespace AccountState.Alike

variable {state seen : AccountState} (same : state.Alike source other seen)

include same

theorem cash : seen.cash = state.cash := by
  cases same
  rfl

theorem quantity : seen.quantity = state.quantity := by
  cases same
  rfl

theorem halted : seen.halted = state.halted := by
  cases same
  rfl

theorem manager : seen.manager = state.manager := by
  cases same
  rfl

theorem rulebook : seen.rulebook = state.rulebook := by
  cases same
  rfl

theorem exitPending (benchmark : Benchmark) :
    seen.exitPending benchmark = state.exitPending benchmark := by
  cases same
  rfl

theorem position :
    Option.Rel (EntryPlan.Alike source other) state.position seen.position := by
  cases same with
  | planned held _ => exact held

theorem pending :
    Option.Rel (EntryPlan.Alike source other) state.pending seen.pending := by
  cases same with
  | planned _ waiting => exact waiting

theorem holding : seen.position.isSome = state.position.isSome := by
  rcases optionRel_cases same.position with
    ⟨absent, seenAbsent⟩ | ⟨plan, seenPlan, held, seenHeld, _⟩
  · rw [absent, seenAbsent]
  · rw [held, seenHeld]
    rfl

theorem clearExit (benchmark : Benchmark) :
    (state.clearExit benchmark).Alike source other
      (seen.clearExit benchmark) := by
  cases same with
  | planned held waiting =>
      unfold AccountState.clearExit
      split
      · exact .planned held waiting
      · exact .planned held waiting

theorem withPlans {position seenPosition pending seenPending : Option EntryPlan}
    (held : Option.Rel (EntryPlan.Alike source other) position seenPosition)
    (waiting : Option.Rel (EntryPlan.Alike source other) pending seenPending) :
    AccountState.Alike source other
      { state with position := position, pending := pending }
      { seen with position := seenPosition, pending := seenPending } := by
  cases same with
  | planned => exact .planned held waiting

theorem withPending {pending seenPending : Option EntryPlan}
    (waiting : Option.Rel (EntryPlan.Alike source other) pending seenPending) :
    AccountState.Alike source other { state with pending := pending }
      { seen with pending := seenPending } :=
  same.withPlans same.position waiting

theorem withManager (control : Option ManagerState) :
    AccountState.Alike source other { state with manager := control }
      { seen with manager := control } := by
  cases same with
  | planned held waiting => exact .planned held waiting

theorem withRulebook (control : Option RulebookState) :
    AccountState.Alike source other { state with rulebook := control }
      { seen with rulebook := control } := by
  cases same with
  | planned held waiting => exact .planned held waiting

end AccountState.Alike

theorem fillIdentity_renamed (sequence : ℕ) (side : FillSide) :
    Renamed source other (fillIdentity source sequence side)
      (fillIdentity other sequence side) := by
  unfold fillIdentity
  simp only [String.append_assoc]
  exact .prefixed _

theorem rulebookPlan_alike (source other : ExperimentInput)
    (world : EngineWorld) (sequence : ℕ) (bar : RecordedBar) (row : Json)
    (rule : Rulebook) :
    (rule.plan world source sequence bar).Alike source other
      (rule.plan world other sequence { bar with row := row }) := by
  apply EntryPlan.Alike.renamed
  unfold Rulebook.plan
  simp only [String.append_assoc]
  exact .prefixed _

theorem tradeBar_eq_bind (world : EngineWorld) (source : ExperimentInput)
    (sequence : ℕ) (bar : RecordedBar) (state : AccountState) :
    tradeBar world source sequence bar state =
      (leaveAtOpen world source sequence bar state >>= fun left =>
        enterAtOpen world source sequence bar left >>=
          leaveInside world source sequence bar) := by
  unfold tradeBar
  cases leaveAtOpen world source sequence bar state with
  | error error => rfl
  | ok left =>
      dsimp only [bind, Except.bind]
      cases enterAtOpen world source sequence bar left with
      | error error => rfl
      | ok entered => rfl

/-! ## Fills -/

namespace SeenAlike

variable {last : ℕ} (alike : SeenAlike source other last)
variable (world : EngineWorld) (sequence : ℕ) (bar : RecordedBar) (row : Json)

include alike

theorem fillFact (side : FillSide) (quantity price fee : ℚ) :
    Outcome.Matches (FillFact.Alike source other)
      (fillFact source sequence bar side quantity price fee)
      (fillFact other sequence { bar with row := row } side quantity price
        fee) := by
  unfold GptTrader.fillFact
  split
  · apply Outcome.Matches.ok
    exact
      { fillId := fillIdentity_renamed sequence side
        orderId := fillIdentity_renamed sequence side
        clientOrderId := fillIdentity_renamed sequence side
        symbol := alike.symbol
        side := rfl
        quantity := rfl
        price := rfl
        executedAt := rfl
        fee := rfl
        feeCurrency := rfl }
  · exact .error _

theorem fill (side : FillSide) (quantity price : ℚ)
    {state seen : AccountState} (same : state.Alike source other seen) :
    Outcome.Matches
      (fun left right : FillFact × AccountState =>
        left.1.Alike source other right.1 ∧ left.2.Alike source other right.2)
      (fill world.decimals source sequence bar side quantity price state)
      (fill world.decimals other sequence { bar with row := row } side quantity
        price seen) := by
  unfold GptTrader.fill
  rw [alike.settings]
  apply Outcome.matches_map (alike.fillFact sequence bar row side _ _ _)
  intro fact seenFact facts
  refine ⟨facts, ?_⟩
  cases same with
  | planned held waiting =>
      cases side with
      | buy => exact .planned held waiting
      | sell => exact .planned .none waiting

theorem trade (side : FillSide) (quantity price : ℚ) (action : String)
    {work seen : BarWork} (same : work.Alike source other seen) :
    Outcome.Matches (BarWork.Alike source other)
      (work.trade world source sequence bar side quantity price action)
      (seen.trade world other sequence { bar with row := row } side quantity
        price action) := by
  unfold BarWork.trade
  apply Outcome.matches_map
    (alike.fill world sequence bar row side quantity price same.state)
  intro left right both
  exact
    { fills := List.rel_append same.fills (.cons both.1 .nil)
      actions := by
        dsimp only
        rw [same.actions]
      state := both.2 }

theorem leaveAtOpen {state seen : AccountState}
    (same : state.Alike source other seen) :
    Outcome.Matches (BarWork.Alike source other)
      (leaveAtOpen world source sequence bar state)
      (leaveAtOpen world other sequence { bar with row := row } seen) := by
  unfold GptTrader.leaveAtOpen
  rw [alike.benchmark, alike.settings, same.exitPending, same.quantity]
  split
  · apply alike.trade world sequence bar row
    exact ⟨.nil, rfl, same.clearExit _⟩
  · exact .ok ⟨.nil, rfl, same⟩

theorem enterAtOpen {work seen : BarWork}
    (same : work.Alike source other seen) :
    Outcome.Matches (BarWork.Alike source other)
      (enterAtOpen world source sequence bar work)
      (enterAtOpen world other sequence { bar with row := row } seen) := by
  have settled := same.state.withPending .none
  unfold GptTrader.enterAtOpen
  rw [alike.settings]
  dsimp only
  rcases optionRel_cases same.state.pending with
    ⟨planned, seenPlanned⟩ | ⟨plan, seenPlan, planned, seenPlanned, plans⟩
  · rw [planned, seenPlanned]
    exact .ok ⟨same.fills, same.actions, settled⟩
  · rw [planned, seenPlanned]
    cases plans with
    | renamed renamed =>
        dsimp only
        rw [same.state.halted, same.state.holding, same.state.cash,
          same.actions]
        rw [same.state.halted, same.state.cash] at settled
        split
        · exact .ok ⟨same.fills, rfl, settled⟩
        · split
          · cases entryQuantity world.decimals source.settings work.state.cash
                (purchasePrice world.decimals source.settings bar.openPrice)
                plan.stop plan.sizeFraction with
            | error error => exact .error error
            | ok quantity =>
                dsimp only
                split
                · exact .ok ⟨same.fills, rfl, settled⟩
                · refine Outcome.matches_map
                    (alike.trade world sequence bar row .buy quantity _ _ ?_) ?_
                  · exact ⟨same.fills, rfl, settled⟩
                  · intro filled seenFilled both
                    exact ⟨both.fills, both.actions,
                      both.state.withPlans (.some (.renamed renamed))
                        both.state.pending⟩
          · exact .ok ⟨same.fills, rfl, settled⟩

theorem leaveInside {work seen : BarWork}
    (same : work.Alike source other seen) :
    Outcome.Matches (BarWork.Alike source other)
      (leaveInside world source sequence bar work)
      (leaveInside world other sequence { bar with row := row } seen) := by
  have exits : seen.state.position.bind
      (protectiveExit { bar with row := row }) =
        work.state.position.bind (protectiveExit bar) := by
    rcases optionRel_cases same.state.position with
      ⟨absent, seenAbsent⟩ | ⟨plan, seenPlan, held, seenHeld, plans⟩
    · rw [absent, seenAbsent]
      rfl
    · rw [held, seenHeld]
      cases plans
      rfl
  unfold GptTrader.leaveInside
  rw [exits, alike.settings, same.state.quantity]
  split
  · exact .ok same
  · exact alike.trade world sequence bar row _ _ _ _ same

theorem tradeBar {state seen : AccountState}
    (same : state.Alike source other seen) :
    Outcome.Matches (BarWork.Alike source other)
      (tradeBar world source sequence bar state)
      (tradeBar world other sequence { bar with row := row } seen) := by
  rw [tradeBar_eq_bind, tradeBar_eq_bind]
  apply Outcome.matches_bind (alike.leaveAtOpen world sequence bar row same)
  intro left seenLeft lefts
  apply Outcome.matches_bind (alike.enterAtOpen world sequence bar row lefts)
  intro entered seenEntered enters
  exact alike.leaveInside world sequence bar row enters

theorem markAtClose {state seen : AccountState}
    (same : state.Alike source other seen) :
    (markAtClose world source bar state).Alike source other
      (markAtClose world other { bar with row := row } seen) := by
  unfold GptTrader.markAtClose
  rw [alike.settings]
  cases same with
  | planned held waiting => exact .planned held waiting

/-! ## Decisions -/

theorem evaluateRulebook (ruled : source.benchmark = .aiRulebook)
    (within : sequence ≤ last) (bounded : last < source.candles.length)
    (found : source.candles[sequence]? = some bar)
    (scored : source.scoredIndex ≤ sequence) {state seen : AccountState}
    (same : state.Alike source other seen) :
    Outcome.Matches
      (fun left right :
          String × Option EntryPlan × Option RulebookVersion × AccountState =>
        right.1 = left.1 ∧
        Option.Rel (EntryPlan.Alike source other) left.2.1 right.2.1 ∧
        right.2.2.1 = left.2.2.1 ∧
        left.2.2.2.Alike source other right.2.2.2)
      (evaluateRulebook world source sequence bar state)
      (evaluateRulebook world other sequence { bar with row := row } seen) := by
  have known := fun control => same.withRulebook control
  unfold GptTrader.evaluateRulebook
  rw [same.halted] at known
  rw [same.rulebook, same.holding, same.halted, alike.closes within,
    alike.active ruled within found bounded scored]
  cases activeVersion source.rulebooks bar.ts.instant with
  | none => exact .error _
  | some active =>
      cases state.rulebook with
      | none => exact .error _
      | some control =>
          dsimp only
          split
          · exact .ok ⟨rfl, .none, rfl, known _⟩
          · split
            · split
              · exact .ok ⟨rfl, .none, rfl, known _⟩
              · exact .ok ⟨rfl, .none, rfl, known _⟩
            · split
              · exact .ok ⟨rfl, .none, rfl, known _⟩
              · split
                · exact .ok ⟨rfl, .none, rfl, known _⟩
                · have plans := rulebookPlan_alike source other world
                    sequence bar row active.rules
                  exact .ok ⟨rfl, .some plans, rfl,
                    (known (some
                      { control with version := active.rules.version }
                    )).withPending (.some plans)⟩

theorem buildRequest (context : DecimalContext)
    (managed : source.benchmark = .aiTradeManager)
    (within : sequence ≤ last) (manager : ManagerSettings)
    (control : ManagerState) {state seen : AccountState}
    (same : state.Alike source other seen) :
    buildRequest context other sequence { bar with row := row } manager control
        seen =
      buildRequest context source sequence bar manager control state := by
  have rows := closedBars_map manager.historyBars (alike.rows managed) within
  unfold GptTrader.buildRequest
  rw [alike.settings, alike.symbol, alike.scoredFrom, alike.endsAt, rows]
  cases same with
  | planned held waiting =>
      dsimp only
      congr 2
      rcases optionRel_cases held with
        ⟨absent, seenAbsent⟩ | ⟨plan, seenPlan, held, seenHeld, plans⟩
      · rw [absent, seenAbsent]
      · rw [held, seenHeld]
        cases plans
        rfl

theorem managerPlan (reason : String) (sizeFraction stop target : ℚ)
    (expiresInHours : ℕ) (guarded : 0 < stop) :
    (managerPlan source sequence bar reason sizeFraction stop target
      expiresInHours guarded).Alike source other
      (managerPlan other sequence { bar with row := row } reason sizeFraction
        stop target expiresInHours guarded) := by
  unfold GptTrader.managerPlan
  rw [alike.settings]
  apply EntryPlan.Alike.renamed
  simp only [String.append_assoc]
  exact .prefixed _

theorem applyDecision (formats : TextFormats) (decision : Decision)
    (control : ManagerState) {state seen : AccountState}
    (same : state.Alike source other seen) :
    let left := applyDecision formats source sequence bar decision control state
    let right := applyDecision formats other sequence { bar with row := row }
      decision control seen
    right.1 = left.1 ∧
    Option.Rel (EntryPlan.Alike source other) left.2.1 right.2.1 ∧
    right.2.2.1 = left.2.2.1 ∧
    left.2.2.2.Alike source other right.2.2.2 := by
  have known := fun control => same.withManager control
  unfold GptTrader.applyDecision
  dsimp only
  rw [alike.settings, same.holding]
  cases decision.action with
  | hold => exact ⟨rfl, .none, rfl, known _⟩
  | exit => exact ⟨rfl, .none, rfl, known _⟩
  | enter sizeFraction stop target expiresInHours guarded =>
      have plans := alike.managerPlan sequence bar row decision.reason
        sizeFraction stop target expiresInHours guarded
      exact ⟨rfl, .some plans, rfl,
        (known (some (control.rewrite
          (decision.rewritten control)))).withPending (.some plans)⟩

theorem settleTurn (model : String) (request : ManagerRequest)
    (reading : TurnReading) (control : ManagerState)
    {state seen : AccountState} (same : state.Alike source other seen) :
    ManagerDecision.Alike source other
      (settleTurn world source sequence bar model request reading control state)
      (settleTurn world other sequence { bar with row := row } model request
        reading control seen) := by
  unfold GptTrader.settleTurn
  cases reading.decision with
  | none => exact ⟨rfl, .none, rfl, rfl, same⟩
  | some decision =>
      obtain ⟨label, plans, actions, settled⟩ :=
        alike.applyDecision sequence bar row world.formats decision control same
      exact
        { label := label
          proposal := plans
          turn := rfl
          actions := actions
          state := settled }

theorem manage (managed : source.benchmark = .aiTradeManager)
    (within : sequence ≤ last) (transport : Option DecisionTransport)
    (filled : Bool) {state seen : AccountState}
    (same : state.Alike source other seen) :
    Outcome.Matches
      (ManagerDecision.Alike source other)
      (manage world source sequence bar transport filled state)
      (manage world other sequence { bar with row := row } transport filled
        seen) := by
  have due : ∀ manager, turnDue other manager sequence filled =
      turnDue source manager sequence filled := by
    intro manager
    unfold turnDue
    rw [alike.scoredIndex]
  unfold GptTrader.manage
  rw [alike.manager, same.manager, same.holding]
  cases source.manager with
  | none => exact .error _
  | some manager =>
      cases state.manager with
      | none => exact .error _
      | some control =>
          dsimp only
          rw [due]
          split
          · cases transport with
            | none => exact .error _
            | some transport =>
                dsimp only
                rw [alike.buildRequest sequence bar row world.decimals managed
                  within manager control same]
                generalize GptTrader.buildRequest world.decimals source sequence
                  bar manager control state = request
                cases readTurn world state.position.isSome bar.close
                    (transport.decide request) with
                | error error => exact .error _
                | ok reading =>
                    exact .ok (alike.settleTurn world sequence bar row _ _
                      reading control same)
          · exact .ok ⟨rfl, .none, rfl, rfl, same⟩

theorem closedSnapshot (within : sequence ≤ last) :
    closedSnapshot other sequence { bar with row := row } =
      closedSnapshot source sequence bar := by
  have candles := closedBars_map historyBars alike.bars within
  unfold GptTrader.closedSnapshot
  rw [alike.label, alike.symbol, candles]

theorem decideByRule (within : sequence ≤ last) {state seen : AccountState}
    (same : state.Alike source other seen) :
    Outcome.Matches (ChannelDecision.Alike source other)
      (decideByRule world source sequence bar state)
      (decideByRule world other sequence { bar with row := row } seen) := by
  unfold GptTrader.decideByRule
  rw [alike.benchmark, alike.closedSnapshot sequence bar row within]
  dsimp only
  split
  · exact .error _
  · exact .ok
      { label := rfl
        proposal := .some (.idea _)
        activation := rfl
        turn := rfl
        actions := rfl
        state := same.withPending (.some (.refl _)) }
  · exact .ok (.labelled _ same)
  · split
    · exact .ok (.labelled _ same)
    · exact .ok (.labelled _ same)

theorem decideChannel (within : sequence ≤ last)
    (bounded : last < source.candles.length)
    (found : source.candles[sequence]? = some bar)
    (transport : Option DecisionTransport) (filled : Bool)
    {state seen : AccountState} (same : state.Alike source other seen) :
    Outcome.Matches (ChannelDecision.Alike source other)
      (decideChannel world source sequence bar transport filled state)
      (decideChannel world other sequence { bar with row := row } transport
        filled seen) := by
  unfold GptTrader.decideChannel
  rw [alike.benchmark, alike.scoredIndex, same.halted, same.holding]
  split
  case isTrue ruled =>
      apply Outcome.matches_map (alike.evaluateRulebook world sequence bar row
        ruled.1 within bounded found ruled.2 same)
      intro left right both
      obtain ⟨label, plans, activation, states⟩ := both
      exact
        { label := label
          proposal := Proposal.alike_plans plans
          activation := activation
          turn := rfl
          actions := rfl
          state := states }
  case isFalse =>
    split
    · exact .ok (.labelled _ same)
    · split
      case isTrue managed =>
          apply Outcome.matches_map (alike.manage world sequence bar row
            managed.1 within transport filled same)
          intro left right both
          exact
            { label := both.label
              proposal := Proposal.alike_plans both.proposal
              activation := rfl
              turn := both.turn
              actions := both.actions
              state := both.state }
      case isFalse =>
        split
        · exact .ok (.labelled _ same)
        · split
          · exact .ok (.labelled _ same)
          · exact alike.decideByRule world sequence bar row within same

/-! ## Runs -/

theorem initialState :
    (initialState source).Alike source other (initialState other) := by
  unfold GptTrader.initialState
  rw [alike.settings, alike.manager, alike.benchmark]
  exact .planned .none .none

theorem advance (within : sequence ≤ last)
    (bounded : last < source.candles.length)
    (transport : Option DecisionTransport) {state seen : AccountState}
    (same : state.Alike source other seen) :
    Outcome.Matches (ExperimentEvent.Alike source other)
      (advance world source sequence transport state)
      (advance world other sequence transport seen) := by
  have found := List.getElem?_eq_getElem (lt_of_le_of_lt within bounded)
  obtain ⟨row, foundOther⟩ := alike.bar within found
  unfold GptTrader.advance
  rw [found, foundOther]
  dsimp only
  generalize source.candles[sequence] = bar at found
  unfold advanceBar
  have traded := alike.tradeBar world sequence bar row same
  generalize GptTrader.tradeBar world source sequence bar state = left at traded
  generalize GptTrader.tradeBar world other sequence { bar with row := row }
    seen = right at traded
  cases traded with
  | error error => exact .error error
  | @ok work seenWork works =>
      have filled : seenWork.fills.isEmpty = work.fills.isEmpty := by
        rw [Bool.eq_iff_iff, List.isEmpty_iff_length_eq_zero,
          List.isEmpty_iff_length_eq_zero, works.fills.length_eq]
      dsimp only
      rw [filled]
      apply Outcome.matches_map (alike.decideChannel world sequence bar row
        within bounded found transport _
        (alike.markAtClose world bar row works.state))
      intro decided seenDecided decisions
      exact
        { sequence := rfl
          decision := decisions.label
          proposal := decisions.proposal
          actions := by
            dsimp only
            rw [works.actions, decisions.actions]
          fills := works.fills
          state := decisions.state
          activation := decisions.activation
          turn := decisions.turn }

theorem stateAfter {events seenEvents : List ExperimentEvent}
    (same : List.Forall₂ (ExperimentEvent.Alike source other) events
      seenEvents) :
    (stateAfter source events).Alike source other
      (stateAfter other seenEvents) := by
  have reversed := List.forall₂_reverse_iff.mpr same
  unfold GptTrader.stateAfter
  rw [← List.head?_reverse, ← List.head?_reverse]
  generalize events.reverse = left at reversed
  generalize seenEvents.reverse = right at reversed
  cases reversed with
  | nil => exact alike.initialState
  | cons last rest => exact last.state

end SeenAlike

/-- Runs over inputs that look alike up to a bar fail alike up to it, or have
alike events. -/
theorem runs_see_closed_bars (world : EngineWorld)
    {source other : ExperimentInput} {last : ℕ}
    (bounded : last < source.candles.length)
    (alike : SeenAlike source other last)
    (transports : ℕ → Option DecisionTransport) :
    ∀ count ≤ last + 1,
      Outcome.Matches (List.Forall₂ (ExperimentEvent.Alike source other))
        (runBars world source transports count)
        (runBars world other transports count) := by
  intro count le
  induction count with
  | zero => exact .ok .nil
  | succ count induction =>
      have earlier := induction (by omega)
      unfold runBars
      generalize runBars world source transports count = left at earlier
      generalize runBars world other transports count = right at earlier
      cases earlier with
      | error error => exact .error error
      | ok events =>
          apply Outcome.matches_map (alike.advance world count (by omega)
            bounded (transports count) (alike.stateAfter events))
          intro event seenEvent same
          exact List.rel_append events (.cons same .nil)

/-- Dollar bars, the last of which rises to five dollars. -/
def risingInput : ExperimentInput :=
  { coinInput 3 1 three_dollars whole_exposure with
    identity := "ffeeddccbbaa99887766554433221100"
    candles := [
      dollarBar 0 "1970-01-01T00:00:00+00:00",
      dollarBar 1 "1970-01-01T01:00:00+00:00",
      { dollarBar 2 "1970-01-01T02:00:00+00:00" with
        high := 5
        positive := by decide +kernel
        consistent := by decide +kernel
        row := .null }]
    counted := by decide
    contiguous := by decide
    scored := by decide
    ruled := by
      rw [if_pos (by decide)]
      exact
        { counted := by decide
          capped := fun version member => by
            rw [List.mem_singleton.mp member]
            exact le_rfl
          numbered := rfl
          placed := ⟨[0], rfl, List.pairwise_singleton .., rfl⟩ } }

theorem risingInput_alike :
    SeenAlike (coinInput 3 1 three_dollars whole_exposure)
      risingInput 1 :=
  { benchmark := rfl
    symbol := rfl
    label := rfl
    settings := rfl
    scoredIndex := rfl
    scoredFrom := rfl
    manager := rfl
    times := rfl
    bars := rfl
    rows := fun managed => by cases managed
    versions := fun _ _ => rfl }

/-- What the coin does on the third bar does not change the purchase on the
second. -/
theorem rise_unseen :
    Outcome.Matches
      (List.Forall₂ (ExperimentEvent.Alike
        (coinInput 3 1 three_dollars whole_exposure)
        risingInput))
      (runBars (quietWorld .exact id)
        (coinInput 3 1 three_dollars whole_exposure)
        (fun _ => none) 2)
      (runBars (quietWorld .exact id) risingInput
        (fun _ => none) 2) :=
  runs_see_closed_bars (quietWorld .exact id) (show 1 < 3 by decide)
    risingInput_alike (fun _ => none) 2 le_rfl

end GptTrader
