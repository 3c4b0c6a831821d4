import GptTrader.Experiment.AccountState

/-!
# The rulebook channel

`evaluate` (`features/experiment/rulebook.py`): the active version of the
schedule decides on the closes up to the decision bar.  The square root of the
decimal context is given.
-/

namespace GptTrader

/-- `MarketSnapshot` (`features/trade_ideas/snapshot.py`), of one symbol. -/
structure ClosedSnapshot where
  asOf : AwareTime
  source : String
  symbol : String
  granularity : String
  candles : List Candle

/-- The fields of a proposed idea that are read, and its record.  Proposers
refuse a stop that is not positive (`BaselineProposer`,
`StrategySignalToTradeIdeaAdapter._validate_price_levels`). -/
structure ProposedIdea where
  decisionId : String
  lower : ℚ
  upper : ℚ
  stop : ℚ
  target : ℚ
  expiresAt : AwareTime
  thesis : String
  record : Json
  guarded : 0 < stop

/-- Why a reply text was not read as one JSON value. -/
inductive ReplyReadError where
  | notJson
  | repeatedField
  | raised (error : String)
  deriving DecidableEq

/-- What the engine computes with and asks outside of itself, apart from the
model; the decimal operators keep the sign, and proposers see only a snapshot. -/
structure EngineWorld where
  decimals : DecimalContext
  keepsSign : ∀ {value : ℚ}, 0 < value → 0 < decimals.round value
  sqrt : ℚ → ℚ
  formats : TextFormats
  loads : String → Except ReplyReadError Json
  propose : Benchmark → ClosedSnapshot →
    Except String (List ProposedIdea × Option String)

def lastValues (count : ℕ) (values : List ℚ) : List ℚ :=
  values.drop (values.length - count)

/-- `sum(values, Decimal(0)) / len(values)`. -/
def DecimalContext.mean (context : DecimalContext) (values : List ℚ) : ℚ :=
  context.div (context.sum values) values.length

def closedBars (source : ExperimentInput) (sequence count : ℕ) :
    List RecordedBar :=
  (source.candles.take (sequence + 1)).drop (sequence + 1 - count)

def activeVersion (versions : List RulebookVersion) (ts : ℤ) :
    Option RulebookVersion :=
  match versions with
  | [] => none
  | first :: later =>
      some ((later.takeWhile fun version =>
        decide (version.effectiveFrom.instant ≤ ts)).getLastD first)

namespace Rulebook

variable (rule : Rulebook)

/-- The closes a rule needs. -/
def needed (holding : Bool) : ℕ :=
  max (max (if rule.entry = .trend then rule.slowBars + 1 else 1)
      (if rule.entry = .meanReversion then rule.reversionBars else 1))
    (if !holding && rule.entry != .cash then rule.trendFilterBars else 0)

def signals (world : EngineWorld) (closes : List ℚ) (close : ℚ) : Bool × Bool :=
  let context := world.decimals
  match rule.entry with
  | .cash => (false, true)
  | .hold => (true, false)
  | .trend =>
      let fast := context.mean (lastValues rule.fastBars closes)
      let slow := context.mean (lastValues rule.slowBars closes)
      let priorFast := context.mean (lastValues rule.fastBars closes.dropLast)
      let priorSlow := context.mean (lastValues rule.slowBars closes.dropLast)
      (decide (slow < fast ∧ priorFast ≤ priorSlow), decide (fast ≤ slow))
  | .meanReversion =>
      let window := lastValues rule.reversionBars closes
      let average := context.mean window
      let deviation := world.sqrt (context.mean (window.map fun value =>
        context.mul (context.sub value average) (context.sub value average)))
      (decide (0 < deviation ∧ close ≤
          context.sub average (context.mul rule.entryZ deviation)),
        decide (average ≤ close))

/-- The trend filter forbids an entry. -/
def filtered (world : EngineWorld) (closes : List ℚ) (close : ℚ) : Bool :=
  decide (rule.trendFilterBars ≠ 0 ∧
    close ≤ world.decimals.mean (lastValues rule.trendFilterBars closes))

theorem plan_guarded (world : EngineWorld) (bar : RecordedBar) :
    0 < world.decimals.mul bar.close
      (world.decimals.sub 1 rule.stopFraction) := by
  have part := rule.stop.2
  apply world.keepsSign
  exact mul_pos bar.positive.2.2.2 (world.keepsSign (by linarith))

def plan (world : EngineWorld) (source : ExperimentInput) (sequence : ℕ)
    (bar : RecordedBar) : EntryPlan :=
  let context := world.decimals
  let stop := context.mul bar.close (context.sub 1 rule.stopFraction)
  let target := context.mul bar.close (context.add 1 rule.targetFraction)
  { decisionId := source.identityPrefix ++ "-" ++ toString sequence ++
      "-rulebook-" ++ toString rule.version
    lower := stop
    upper := target
    stop := stop
    target := target
    expiresAt := bar.ts.plus (hour * (1 + rule.expiryHours))
    sizeFraction := some rule.exposureFraction
    thesis := "ai-rulebook v" ++ toString rule.version ++ ": " ++
      rule.entry.value
    guarded := rule.plan_guarded world bar }

end Rulebook

/-- `evaluate`: label, entry, activation and the state afterwards. -/
def evaluateRulebook (world : EngineWorld) (source : ExperimentInput)
    (sequence : ℕ) (bar : RecordedBar) (state : AccountState) :
    Except EngineError
      (String × Option EntryPlan × Option RulebookVersion × AccountState) :=
  match activeVersion source.rulebooks bar.ts.instant, state.rulebook with
  | some active, some control =>
      let rule := active.rules
      let activation :=
        if control.version = rule.version then none else some active
      let known := { state with
        rulebook := some { control with version := rule.version } }
      let closes := (closedBars source sequence 501).map (·.close)
      let holding := state.position.isSome
      if closes.length < rule.needed holding then
        .ok ("ai-rulebook: collecting history", none, activation, known)
      else
        let (enter, leave) := rule.signals world closes bar.close
        if holding then
          if leave && (rule.entry == .cash || rule.exitOnSignal) then
            .ok ("ai-rulebook: exit at next open", none, activation,
              { state with
                rulebook := some
                  { version := rule.version, exitPending := true } })
          else .ok ("ai-rulebook: keep position", none, activation, known)
        else if state.halted then
          .ok ("new entries halted by drawdown limit", none, activation, known)
        else if !enter || rule.filtered world closes bar.close then
          .ok ("ai-rulebook: stay in cash", none, activation, known)
        else
          let plan := rule.plan world source sequence bar
          .ok ("ai-rulebook: consider entry at next open", some plan,
            activation, { known with pending := some plan })
  | none, _ => .error (.internal "IndexError")
  | _, none => .error (.internal "KeyError")

end GptTrader
