import GptTrader.Experiment.TradeManager

/-!
# The bounded spot simulation

`advance` (`features/experiment/engine.py`), in its stages: an exit decided on
the previous bar and then an entry decided there are filled at the open, the
recorded plan may close the position inside the bar, the account is marked at
the close, and the channel decides.
-/

namespace GptTrader

def historyBars : ℕ := 53

/-- `event["proposal"]`. -/
inductive Proposal where
  | plan (plan : EntryPlan)
  | idea (record : Json)
  deriving DecidableEq

/-- What `advance` records of a bar. -/
structure ExperimentEvent where
  sequence : ℕ
  bar : Json
  decision : String
  proposal : Option Proposal
  actions : List String
  fills : List FillFact
  state : AccountState
  activation : Option RulebookVersion
  turn : Option ManagerTurn

/-- What the stages of a bar have done so far. -/
structure BarWork where
  fills : List FillFact
  actions : List String
  state : AccountState

section Stages

variable (world : EngineWorld) (source : ExperimentInput) (sequence : ℕ)
variable (bar : RecordedBar)

/-- `settings.slippage_bps / 10000`. -/
def slippage (context : DecimalContext) (settings : ExperimentSettings) : ℚ :=
  context.div settings.slippageBps 10000

/-- `settings.fee_bps / 10000`. -/
def feeRate (context : DecimalContext) (settings : ExperimentSettings) : ℚ :=
  context.div settings.feeBps 10000

/-- The reference price less slippage. -/
def salePrice (context : DecimalContext) (settings : ExperimentSettings)
    (reference : ℚ) : ℚ :=
  context.mul reference (context.sub 1 (slippage context settings))

def purchasePrice (context : DecimalContext) (settings : ExperimentSettings)
    (reference : ℚ) : ℚ :=
  context.mul reference (context.add 1 (slippage context settings))

def BarWork.trade (side : FillSide) (quantity price : ℚ) (action : String)
    (work : BarWork) : Except EngineError BarWork :=
  (fill world.decimals source sequence bar side quantity price
    work.state).map fun (fact, state) =>
      { fills := work.fills ++ [fact]
        actions := work.actions ++ [action]
        state := state }

/-- Why the benchmark leaves. -/
def exitReason (benchmark : Benchmark) : String :=
  if benchmark = .aiTradeManager then "manager exit" else "rulebook exit"

def leaveAtOpen (state : AccountState) : Except EngineError BarWork :=
  if state.exitPending source.benchmark then
    BarWork.trade world source sequence bar .sell state.quantity
      (salePrice world.decimals source.settings bar.openPrice)
      ("position settled: " ++ exitReason source.benchmark ++ " at next open")
      { fills := []
        actions := []
        state := state.clearExit source.benchmark }
  else
    .ok
      { fills := []
        actions := []
        state := state }

/-- A quotient, or `decimal.DivisionByZero`. -/
def quotient (context : DecimalContext) (left right : ℚ) :
    Except EngineError ℚ :=
  if right = 0 then .error .divisionByZero else .ok (context.div left right)

def lossPerUnit (context : DecimalContext) (settings : ExperimentSettings)
    (price stop : ℚ) : ℚ :=
  let stopFill := salePrice context settings stop
  context.add (context.sub price stopFill)
    (context.mul (feeRate context settings) (context.add price stopFill))

def entryQuantity (context : DecimalContext) (settings : ExperimentSettings)
    (cash price stop : ℚ) (sizeFraction : Option ℚ) :
    Except EngineError ℚ := do
  let affordable ← quotient context cash
    (context.mul price (context.add 1 (feeRate context settings)))
  let exposed ← quotient context
    (context.mul cash (sizeFraction.getD settings.exposureFraction)) price
  let risked ← quotient context (context.mul cash settings.riskFraction)
    (lossPerUnit context settings price stop)
  let quantity := min (min affordable exposed) risked
  return context.mul
    (TextFormats.truncate (context.div quantity settings.quantityIncrement))
    settings.quantityIncrement

/-- Fill the entry decided on the previous bar. -/
def enterAtOpen (work : BarWork) : Except EngineError BarWork :=
  let settings := source.settings
  let state := { work.state with pending := none }
  match work.state.pending with
  | none => .ok { work with state := state }
  | some plan =>
      if state.halted || state.position.isSome then
        .ok { work with state := state }
      else
        let price := purchasePrice world.decimals settings bar.openPrice
        if plan.lower ≤ price ∧ price ≤ plan.upper ∧ plan.stop < price ∧
            price < plan.target then
          match entryQuantity world.decimals settings state.cash price
              plan.stop plan.sizeFraction with
          | .error error => .error error
          | .ok quantity =>
              if quantity ≤ 0 then
                .ok
                  { work with
                    actions := work.actions ++
                      ["entry refused: size rounds to zero"]
                    state := state }
              else
                (BarWork.trade world source sequence bar .buy quantity price
                  ("entry filled at next open with costs and current " ++
                    "cash limits")
                  { work with state := state }).map fun filled =>
                    { filled with
                      state := { filled.state with position := some plan } }
        else
          .ok
            { work with
              actions := work.actions ++
                ["entry refused: next opening fill is outside the recorded " ++
                  "plan"]
              state := state }

/-- The reference price at which the plan closes a position inside a bar: the
stop comes first, and gaps through at the open. -/
def protectiveExit (bar : RecordedBar) (position : EntryPlan) :
    Option (ℚ × String) :=
  if bar.low ≤ position.stop then
    some (min bar.openPrice position.stop, "stop (stop first if both touched)")
  else if position.target ≤ bar.high then some (position.target, "target")
  else if position.expiresAt.instant ≤ bar.ts.instant + hour then
    some (bar.close, "expiry")
  else none

/-- A stop or target inside the bar. -/
def leaveInside (work : BarWork) : Except EngineError BarWork :=
  match work.state.position.bind (protectiveExit bar) with
  | none => .ok work
  | some (reference, reason) =>
      work.trade world source sequence bar .sell work.state.quantity
        (salePrice world.decimals source.settings reference)
        ("position settled: " ++ reason)

/-- The account marked at the close. -/
def markAtClose (state : AccountState) : AccountState :=
  let context := world.decimals
  let equity := context.add state.cash (context.mul state.quantity bar.close)
  let peak := max state.peakEquity equity
  { state with
    peakEquity := peak
    halted := state.halted || decide (equity ≤ context.mul peak
      (context.sub 1 source.settings.drawdownFraction)) }

/-- What the channel settled on a bar. -/
structure ChannelDecision where
  label : String
  proposal : Option Proposal
  activation : Option RulebookVersion
  turn : Option ManagerTurn
  actions : List String
  state : AccountState

def ChannelDecision.labelled (label : String) (state : AccountState) :
    ChannelDecision :=
  { label := label
    proposal := none
    activation := none
    turn := none
    actions := []
    state := state }

/-- The entry plan of an idea. -/
def ProposedIdea.plan (idea : ProposedIdea) : EntryPlan :=
  { decisionId := idea.decisionId
    lower := idea.lower
    upper := idea.upper
    stop := idea.stop
    target := idea.target
    expiresAt := idea.expiresAt
    sizeFraction := none
    thesis := idea.thesis
    guarded := idea.guarded }

def closedSnapshot : ClosedSnapshot :=
  { asOf := bar.ts.plus hour
    source := source.label
    symbol := source.symbol
    granularity := "1h"
    candles := (closedBars source sequence historyBars).map (·.toCandle) }

/-- The decision of a rule benchmark. -/
def decideByRule (state : AccountState) : Except EngineError ChannelDecision :=
  let name := source.benchmark.value
  match world.propose source.benchmark
      (closedSnapshot source sequence bar) with
  | .error error => .error (.raised error)
  | .ok (idea :: _, _) =>
      .ok
        { label := name ++ " rule: consider entry at next open"
          proposal := some (.idea idea.record)
          activation := none
          turn := none
          actions := []
          state := { state with pending := some idea.plan } }
  | .ok ([], some refusal) => .ok (.labelled (name ++ " " ++ refusal) state)
  | .ok ([], none) =>
      if sequence < historyBars - 1 then
        .ok (.labelled "collecting benchmark history" state)
      else .ok (.labelled ("no " ++ name ++ " signal") state)

/-- The decision of the channel, once the account is marked. -/
def decideChannel (transport : Option DecisionTransport) (filled : Bool)
    (state : AccountState) : Except EngineError ChannelDecision :=
  if source.benchmark = .aiRulebook ∧ source.scoredIndex ≤ sequence then
    (evaluateRulebook world source sequence bar state).map
      fun (label, plan, activation, state) =>
        { label := label
          proposal := plan.map .plan
          activation := activation
          turn := none
          actions := []
          state := state }
  else if state.halted then
    .ok (.labelled "new entries halted by drawdown limit" state)
  else if source.benchmark = .aiTradeManager ∧
      source.scoredIndex ≤ sequence then
    (manage world source sequence bar transport filled state).map
      fun decided =>
        { label := decided.label
          proposal := decided.proposal.map .plan
          activation := none
          turn := decided.turn
          actions := decided.actions
          state := decided.state }
  else if state.position.isSome then
    .ok (.labelled "hold existing position" state)
  else if sequence < source.scoredIndex then
    .ok (.labelled "warm-up bar: indicator history only" state)
  else decideByRule world source sequence bar state

def tradeBar (state : AccountState) : Except EngineError BarWork :=
  match leaveAtOpen world source sequence bar state with
  | .error error => .error error
  | .ok left =>
      match enterAtOpen world source sequence bar left with
      | .error error => .error error
      | .ok entered => leaveInside world source sequence bar entered

/-- `advance`, on a bar. -/
def advanceBar (transport : Option DecisionTransport) (state : AccountState) :
    Except EngineError ExperimentEvent :=
  match tradeBar world source sequence bar state with
  | .error error => .error error
  | .ok work =>
      (decideChannel world source sequence bar transport (!work.fills.isEmpty)
        (markAtClose world source bar work.state)).map fun decided =>
          { sequence := sequence
            bar := bar.row
            decision := decided.label
            proposal := decided.proposal
            actions := work.actions ++ decided.actions
            fills := work.fills
            state := decided.state
            activation := decided.activation
            turn := decided.turn }

end Stages

def advance (world : EngineWorld) (source : ExperimentInput) (sequence : ℕ)
    (transport : Option DecisionTransport) (state : AccountState) :
    Except EngineError ExperimentEvent :=
  match source.candles[sequence]? with
  | none => .error (.internal "IndexError")
  | some bar => advanceBar world source sequence bar transport state

/-- The account of the last event. -/
def stateAfter (source : ExperimentInput) (events : List ExperimentEvent) :
    AccountState :=
  (events.getLast?.map (·.state)).getD (initialState source)

def runBars (world : EngineWorld) (source : ExperimentInput)
    (transports : ℕ → Option DecisionTransport) :
    ℕ → Except EngineError (List ExperimentEvent)
  | 0 => .ok []
  | count + 1 =>
      match runBars world source transports count with
      | .error error => .error error
      | .ok events =>
          (advance world source count (transports count)
            (stateAfter source events)).map fun event => events ++ [event]

end GptTrader
