import GptTrader.Experiment.RulebookChannel

/-!
# The trade manager's turns

`features/experiment/trade_manager.py`: the request of a turn, the decision
read from a reply, and what a due turn does to the account.  A request is kept
as the values its texts spell.
-/

namespace GptTrader

def maxReasonChars : ℕ := 500

def maxExpiryHours : ℕ := 720

/-- The position as a request shows it. -/
structure PositionView where
  costBasisWithFee : ℚ
  unrealizedNetAtLastClose : ℚ
  stop : ℚ
  target : ℚ
  expiresAt : AwareTime
  deriving DecidableEq

/-- `request["context"]`. -/
structure ManagerContext where
  symbol : String
  decisionTime : AwareTime
  startsAt : Json
  endsAt : AwareTime
  bars : List Json
  cash : ℚ
  quantity : ℚ
  equityAtLastClose : ℚ
  position : Option PositionView
  feeBps : ℚ
  slippageBps : ℚ
  roundTripBps : ℚ
  exposureFraction : ℚ
  stopRiskFraction : ℚ
  drawdownHaltFraction : ℚ
  peakEquity : ℚ
  rulebookVersion : ℕ
  rulebookText : String
  deriving DecidableEq

structure ManagerRequest where
  contextVersion : String
  instructions : String
  context : ManagerContext
  deriving DecidableEq

/-- `INSTRUCTIONS.format(symbol=symbol)`. -/
def managerInstructions (symbol : String) : String :=
  "You manage one simulated USD spot account trading " ++ symbol ++
  " on hourly bars.\n" ++
  "You decide alone; no person approves your trades. The simulator fills any " ++
  "entry or\nexit at the next bar's open with the fees and slippage in the " ++
  "context, sizes an\nentry no larger than the exposure cap and the stop risk " ++
  "allow, halts new entries\nafter the drawdown limit, and keeps the stop you " ++
  "set at entry as a hard exit.\nYou see only bars that have closed. Holding " ++
  "cash and keeping a position are\nnormal choices; every round trip pays the " ++
  "costs twice. Your result is read once,\nat the window's end in the context, " ++
  "net of every cost and with anything still\nheld valued at its sale price " ++
  "after costs. It is compared with cash, with\nholding the coin at the " ++
  "exposure cap from the window's first bar, and with the\nfixed trading rules " ++
  "run beside you, all on the same account size, costs and limits.\n\n" ++
  "Reply with one JSON object and nothing else:\n\x7b\n" ++
  "  \"action\": \"hold\" | \"enter\" | \"exit\",\n" ++
  "  \"reason\": \"<at most " ++ toString maxReasonChars ++ " characters>\",\n" ++
  "  \"rulebook\": \"<optional: your rewritten rulebook, at most " ++
  toString maxRulebookChars ++ " characters>\",\n" ++
  "  \"size_fraction\": \"<enter only: fraction of equity to commit, " ++
  "above 0>\",\n" ++
  "  \"stop\": \"<enter only: price below the last close>\",\n" ++
  "  \"target\": \"<enter only: price above the last close>\",\n" ++
  "  \"expires_in_hours\": <enter only: whole hours from 1 to " ++
  toString maxExpiryHours ++ ">\n\x7d\n" ++
  "\"hold\" stays out while flat and keeps the position while holding. " ++
  "\"enter\" is\nvalid only while flat and \"exit\" only while holding. Your " ++
  "rulebook is yours to\nkeep: it is sent back to you on every turn, and you " ++
  "may rewrite it on any turn."

/-- `source.payload["scored_from"]`: the start of the first scored bar, as its
row spells it. -/
def ExperimentInput.scoredFrom (source : ExperimentInput) : Json :=
  match source.candles[source.scoredIndex]? with
  | some bar => (bar.row.field? "ts").getD .null
  | none => .null

def ExperimentInput.endsAt (source : ExperimentInput) (bar : RecordedBar) :
    AwareTime :=
  ((source.candles.getLast?).getD bar).ts.plus hour

/-- The request at a bar. -/
def buildRequest (context : DecimalContext) (source : ExperimentInput)
    (sequence : ℕ) (bar : RecordedBar) (manager : ManagerSettings)
    (control : ManagerState) (state : AccountState) : ManagerRequest :=
  let settings := source.settings
  { contextVersion := "ai-trade-manager-context/2"
    instructions := managerInstructions source.symbol
    context :=
      { symbol := source.symbol
        decisionTime := bar.ts.plus hour
        startsAt := source.scoredFrom
        endsAt := source.endsAt bar
        bars := (closedBars source sequence manager.historyBars).map (·.row)
        cash := state.cash
        quantity := state.quantity
        equityAtLastClose :=
          context.add state.cash (context.mul state.quantity bar.close)
        position := state.position.map fun position =>
          { costBasisWithFee := state.costBasis
            unrealizedNetAtLastClose :=
              context.sub (context.mul state.quantity bar.close) state.costBasis
            stop := position.stop
            target := position.target
            expiresAt := position.expiresAt }
        feeBps := settings.feeBps
        slippageBps := settings.slippageBps
        roundTripBps :=
          context.mul 2 (context.add settings.feeBps settings.slippageBps)
        exposureFraction := settings.exposureFraction
        stopRiskFraction := settings.riskFraction
        drawdownHaltFraction := settings.drawdownFraction
        peakEquity := state.peakEquity
        rulebookVersion := control.rulebookVersion
        rulebookText := control.rulebook } }

/-- How a sent request ends. -/
inductive TransportOutcome where
  | reply (reply : TransportReply)
  /-- `TransportError`, of a class. -/
  | failed (message : String) (errorClass : String)
  /-- Any other exception. -/
  | raised (error : String)
  deriving DecidableEq

/-- `DecisionTransportProtocol`. -/
structure DecisionTransport where
  model : String
  decide : ManagerRequest → TransportOutcome

/-- What a reply decides. -/
inductive DecisionAction where
  | hold
  | enter (sizeFraction stop target : ℚ) (expiresInHours : ℕ)
      (guarded : 0 < stop)
  | exit
  deriving DecidableEq

structure Decision where
  action : DecisionAction
  reason : String
  rulebook : Option String
  deriving DecidableEq

/-- Why a reply is no decision. -/
inductive ReplyError where
  | malformed (why : String)
  | raised (error : String)
  deriving DecidableEq

/-- `_price`. -/
def replyPrice (formats : TextFormats) (value : Json) (name : String) :
    Except ReplyError { number : ℚ // 0 < number } :=
  let number : Option Decimal :=
    match value with
    | .int value => some (.finite value)
    | .float (.finite value) => some (.finite value)
    | .str text => formats.parseDecimal text
    | _ => none
  match number with
  | none => .error (.malformed (name ++ " must be a number"))
  | some number =>
      match decimalValue number with
      | none => .error (.malformed (name ++ " must be above 0"))
      | some value =>
          if positive : 0 < value then .ok ⟨value, positive⟩
          else .error (.malformed (name ++ " must be above 0"))

/-- The fields a reply may have only with `enter`. -/
def entryKeys : List String :=
  ["size_fraction", "stop", "target", "expires_in_hours"]

def unknownFields (fields : List (String × Json)) : List String :=
  ((fields.map Prod.fst).filter fun name =>
      !(["action", "reason", "rulebook"] ++ entryKeys).contains name)
    |>.mergeSort fun left right => decide (left ≤ right)

/-- `expires_in_hours` of an entry. -/
def replyHours : Json → Except ReplyError ℕ
  | .int hours =>
      if 1 ≤ hours ∧ hours ≤ maxExpiryHours then .ok hours.toNat
      else .error (.malformed
        "expires_in_hours must be a whole number from 1 to 720")
  | _ => .error (.malformed
      "expires_in_hours must be a whole number from 1 to 720")

def replyEntry (formats : TextFormats) (reply : Json) (holding : Bool)
    (lastClose : ℚ) : Except ReplyError DecisionAction :=
  if holding then .error (.malformed "enter is valid only while flat")
  else
    match reply.field? "size_fraction", reply.field? "stop",
        reply.field? "target", reply.field? "expires_in_hours" with
    | some size, some stop, some target, some hours => do
        let ⟨sizeFraction, _⟩ ← replyPrice formats size "size_fraction"
        let ⟨stop, guarded⟩ ← replyPrice formats stop "stop"
        let ⟨target, _⟩ ← replyPrice formats target "target"
        if stop < lastClose ∧ lastClose < target then
          let expiresInHours ← replyHours hours
          return .enter sizeFraction stop target expiresInHours guarded
        else
          throw (.malformed "enter requires stop < last close < target")
    | _, _, _, _ => .error (.malformed
        "enter requires size_fraction, stop, target and expires_in_hours")

/-- `reason` of a reply. -/
def replyReason (reply : Json) : Except ReplyError String :=
  match reply.field? "reason" with
  | some (.str reason) =>
      if 0 < reason.length ∧ reason.length ≤ maxReasonChars then .ok reason
      else .error (.malformed "reason must be 1 to 500 characters")
  | _ => .error (.malformed "reason must be 1 to 500 characters")

/-- `rulebook` of a reply. -/
def replyRulebook (reply : Json) : Except ReplyError (Option String) :=
  match reply.field? "rulebook" with
  | none => .ok none
  | some .null => .ok none
  | some (.str rulebook) =>
      if 0 < rulebook.length ∧ rulebook.length ≤ maxRulebookChars then
        .ok (some rulebook)
      else .error (.malformed "rulebook must be 1 to 4000 characters")
  | some _ => .error (.malformed "rulebook must be 1 to 4000 characters")

def replyAction (formats : TextFormats) (reply : Json) (action : String)
    (holding : Bool) (lastClose : ℚ) : Except ReplyError DecisionAction :=
  if action = "enter" then replyEntry formats reply holding lastClose
  else if entryKeys.any reply.hasKey then
    .error (.malformed "entry fields are valid only with enter")
  else if action = "hold" then .ok .hold
  else if holding then .ok .exit
  else .error (.malformed "exit is valid only while holding a position")

/-- `parse_reply`, of a read reply. -/
def readReply (formats : TextFormats) (reply : Json) (holding : Bool)
    (lastClose : ℚ) : Except ReplyError Decision :=
  match reply with
  | .obj fields =>
      if (unknownFields fields).isEmpty then
        match reply.field? "action" with
        | some (.str action) =>
            if action ∈ ["hold", "enter", "exit"] then do
              let reason ← replyReason reply
              let rulebook ← replyRulebook reply
              let decided ←
                replyAction formats reply action holding lastClose
              return { action := decided, reason, rulebook }
            else
              .error (.malformed "action must be hold, enter or exit")
        | _ => .error (.malformed "action must be hold, enter or exit")
      else
        .error (.malformed ("unknown reply fields: " ++
          ", ".intercalate (unknownFields fields)))
  | _ => .error (.malformed "reply is not one JSON object")

def parseReply (world : EngineWorld) (text : String) (holding : Bool)
    (lastClose : ℚ) : Except ReplyError Decision :=
  match world.loads text with
  | .error .notJson => .error (.malformed "reply is not one JSON object")
  | .error .repeatedField => .error (.malformed "reply repeats a field")
  | .error (.raised error) => .error (.raised error)
  | .ok reply => readReply world.formats reply holding lastClose

/-- The journaled evidence of a turn. -/
structure ManagerTurn where
  model : String
  request : ManagerRequest
  reply : Option TransportReply
  costUsd : ℚ
  error : Option String
  outcome : String
  reason : String
  rulebookVersion : ℕ
  rulebook : Option String
  deriving DecidableEq

/-- What the outcome of a request amounts to. -/
structure TurnReading where
  outcome : String
  why : String
  error : Option String
  reply : Option TransportReply
  decision : Option Decision

/-- Read the outcome of a request. -/
def readTurn (world : EngineWorld) (holding : Bool) (lastClose : ℚ) :
    TransportOutcome → Except EngineError TurnReading
  | .raised error => .error (.raised error)
  | .failed message errorClass =>
      let error := if message = "" then errorClass else message
      .ok
        { outcome := "failed"
          why := "transport failed: " ++ error
          error := some error
          reply := none
          decision := none }
  | .reply reply =>
      if reply.stopReason = "refusal" then
        .ok
          { outcome := "refused"
            why := "model refused (stop reason " ++ reply.stopReason ++ ")"
            error := none
            reply := some reply
            decision := none }
      else
        match parseReply world reply.text holding lastClose with
        | .ok decision =>
            .ok
              { outcome := "accepted"
                why := decision.reason
                error := none
                reply := some reply
                decision := some decision }
        | .error (.malformed why) =>
            .ok
              { outcome := "malformed"
                why := "malformed reply: " ++ why
                error := none
                reply := some reply
                decision := none }
        | .error (.raised error) => .error (.raised error)

def Decision.rewritten (decision : Decision) (control : ManagerState) :
    Option String :=
  decision.rulebook.filter fun rulebook => decide (rulebook ≠ control.rulebook)

def ManagerState.rewrite (control : ManagerState) :
    Option String → ManagerState
  | none => control
  | some rulebook =>
      { control with
        rulebook := rulebook
        rulebookVersion := control.rulebookVersion + 1 }

def managerPlan (source : ExperimentInput) (sequence : ℕ) (bar : RecordedBar)
    (reason : String) (sizeFraction stop target : ℚ) (expiresInHours : ℕ)
    (guarded : 0 < stop) : EntryPlan :=
  { decisionId := source.identityPrefix ++ "-" ++ toString sequence ++
      "-manager"
    lower := stop
    upper := target
    stop := stop
    target := target
    expiresAt := bar.ts.plus (hour * (1 + expiresInHours))
    sizeFraction := some (min sizeFraction source.settings.exposureFraction)
    thesis := reason
    guarded := guarded }

/-- What a decision does: label, entry, actions and the state afterwards. -/
def applyDecision (formats : TextFormats) (source : ExperimentInput)
    (sequence : ℕ) (bar : RecordedBar) (decision : Decision)
    (control : ManagerState) (state : AccountState) :
    String × Option EntryPlan × List String × AccountState :=
  let rewritten := decision.rewritten control
  let control := control.rewrite rewritten
  let noted := rewritten.toList.map fun _ =>
    "rulebook rewritten to version " ++ toString control.rulebookVersion
  let state := { state with manager := some control }
  match decision.action with
  | .hold =>
      (if state.position.isSome then "ai-trade-manager: keep position"
        else "ai-trade-manager: stay out", none, noted, state)
  | .exit =>
      ("ai-trade-manager: exit at next open", none, noted,
        { state with manager := some { control with exitPending := true } })
  | .enter sizeFraction stop target expiresInHours guarded =>
      let cap := source.settings.exposureFraction
      let clamped :=
        if cap < sizeFraction then
          ["entry size clamped to the " ++
            formats.showDecimal (.finite cap) ++ " exposure cap"]
        else []
      let plan := managerPlan source sequence bar decision.reason sizeFraction
        stop target expiresInHours guarded
      ("ai-trade-manager: consider entry at next open", some plan,
        noted ++ clamped, { state with pending := some plan })

/-- What a decision channel settled on a bar. -/
structure ManagerDecision where
  label : String
  proposal : Option EntryPlan
  turn : Option ManagerTurn
  actions : List String
  state : AccountState

def turnDue (source : ExperimentInput) (manager : ManagerSettings)
    (sequence : ℕ) (filled : Bool) : Bool :=
  filled ||
    decide ((sequence - source.scoredIndex) % manager.cadenceBars = 0)

/-- A due turn, from the outcome of its request. -/
def settleTurn (world : EngineWorld) (source : ExperimentInput)
    (sequence : ℕ) (bar : RecordedBar) (model : String)
    (request : ManagerRequest) (reading : TurnReading)
    (control : ManagerState) (state : AccountState) : ManagerDecision :=
  let (label, proposal, actions, settled) :=
    match reading.decision with
    | none => ("ai-trade-manager " ++ reading.outcome ++ " reply: no trade",
        none, [], state)
    | some decision =>
        applyDecision world.formats source sequence bar decision control state
  let rewritten := reading.decision.bind fun decision =>
    decision.rewritten control
  { label := label
    proposal := proposal
    turn := some
      { model := (reading.reply.map (·.model)).getD model
        request := request
        reply := reading.reply
        costUsd :=
          (reading.reply.map (·.costUsd world.decimals)).getD 0
        error := reading.error
        outcome := reading.outcome
        reason := reading.why
        rulebookVersion := (control.rewrite rewritten).rulebookVersion
        rulebook := rewritten }
    actions := actions
    state := settled }

def manage (world : EngineWorld) (source : ExperimentInput) (sequence : ℕ)
    (bar : RecordedBar) (transport : Option DecisionTransport) (filled : Bool)
    (state : AccountState) : Except EngineError ManagerDecision :=
  match source.manager, state.manager with
  | some manager, some control =>
      if turnDue source manager sequence filled then
        match transport with
        | none => .error (.transportUnavailable
            ("A ai-trade-manager decision turn is due at bar " ++
              toString sequence ++ " but no model transport was supplied"))
        | some transport =>
            let request := buildRequest world.decimals source sequence bar
              manager control state
            (readTurn world state.position.isSome bar.close
              (transport.decide request)).map fun reading =>
                settleTurn world source sequence bar transport.model request
                  reading control state
      else
        .ok
          { label :=
              if state.position.isSome then "hold existing position"
              else "ai-trade-manager: between decision turns"
            proposal := none
            turn := none
            actions := []
            state := state }
  | none, _ => .error (.internal "AssertionError")
  | _, none => .error (.internal "KeyError")

end GptTrader
