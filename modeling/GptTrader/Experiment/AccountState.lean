import GptTrader.Core.FillAccounting
import GptTrader.Experiment.ModelTransport
import GptTrader.Experiment.RecordedInput
import GptTrader.Python.DecimalContext

/-!
# The state of a simulated account

What the engine threads from bar to bar (`features/experiment/engine.py`), and
`_fill`.  Amounts are stored as exact texts, so they are kept as numbers; the
operators round as the decimal context says.
-/

namespace GptTrader

/-- An entry decided for the next open, and the position it opened.  Every
channel refuses a stop that is not positive. -/
@[ext]
structure EntryPlan where
  decisionId : String
  lower : ℚ
  upper : ℚ
  stop : ℚ
  target : ℚ
  expiresAt : AwareTime
  sizeFraction : Option ℚ
  thesis : String
  guarded : 0 < stop

instance : DecidableEq EntryPlan :=
  fun _ _ => decidable_of_iff' _ EntryPlan.ext_iff

/-- `state["manager"]`. -/
structure ManagerState where
  rulebook : String
  rulebookVersion : ℕ
  exitPending : Bool
  deriving DecidableEq

/-- `state["rulebook"]`. -/
structure RulebookState where
  version : ℕ
  exitPending : Bool
  deriving DecidableEq

structure AccountState where
  cash : ℚ
  quantity : ℚ
  costBasis : ℚ
  realizedNet : ℚ
  fees : ℚ
  peakEquity : ℚ
  halted : Bool
  position : Option EntryPlan
  pending : Option EntryPlan
  manager : Option ManagerState
  rulebook : Option RulebookState
  deriving DecidableEq

/-- The exceptions a bar may end with. -/
inductive EngineError where
  /-- `AccountingIntegrityError` of an invalid fill. -/
  | accounting
  /-- `decimal.DivisionByZero`. -/
  | divisionByZero
  /-- `TransportUnavailableError`. -/
  | transportUnavailable (message : String)
  /-- Any other exception of a transport, a proposer or a JSON reader. -/
  | raised (error : String)
  /-- An exception of the engine's own lookups and assertions. -/
  | internal (error : String)
  deriving DecidableEq

/-- `initial_state` (`features/experiment/ledger.py`). -/
def initialState (source : ExperimentInput) : AccountState :=
  { cash := source.settings.initialCash
    quantity := 0
    costBasis := 0
    realizedNet := 0
    fees := 0
    peakEquity := source.settings.initialCash
    halted := false
    position := none
    pending := none
    manager := source.manager.map fun settings =>
      { rulebook := settings.rulebook
        rulebookVersion := 1
        exitPending := false }
    rulebook :=
      if source.benchmark = .aiRulebook then
        some { version := 0, exitPending := false }
      else none }

namespace AccountState

def exitPending (benchmark : Benchmark) (state : AccountState) : Bool :=
  if benchmark = .aiTradeManager then state.manager.any (·.exitPending)
  else state.rulebook.any (·.exitPending)

/-- `control["exit_pending"] = False`. -/
def clearExit (benchmark : Benchmark) (state : AccountState) : AccountState :=
  if benchmark = .aiTradeManager then
    { state with
      manager := state.manager.map fun control =>
        { control with exitPending := false } }
  else
    { state with
      rulebook := state.rulebook.map fun control =>
        { control with exitPending := false } }

end AccountState

/-- The sides of a fill, and how they are spelled. -/
inductive FillSide where
  | buy
  | sell
  deriving DecidableEq

def FillSide.value : FillSide → String
  | .buy => "buy"
  | .sell => "sell"

/-- `source.identity[:16]`. -/
def ExperimentInput.identityPrefix (source : ExperimentInput) : String :=
  .ofList (source.identity.toList.take 16)

/-- `f"{source.identity[:16]}-{sequence}-{side}"`. -/
def fillIdentity (source : ExperimentInput) (sequence : ℕ) (side : FillSide) :
    String :=
  source.identityPrefix ++ "-" ++ toString sequence ++ "-" ++ side.value

theorem fillIdentity_ne_empty (source : ExperimentInput) (sequence : ℕ)
    (side : FillSide) : fillIdentity source sequence side ≠ "" := by
  intro empty
  have letters := congrArg String.toList empty
  unfold fillIdentity at letters
  rw [String.toList_append, String.toList_append] at letters
  simp at letters

def fillTime (bar : RecordedBar) : FillSide → ℤ
  | .buy => bar.ts.instant + 1
  | .sell => bar.ts.instant + (hour - 1)

/-- The checked fact of a fill. -/
def fillFact (source : ExperimentInput) (sequence : ℕ) (bar : RecordedBar)
    (side : FillSide) (quantity price fee : ℚ) : Except EngineError FillFact :=
  if positive : 0 < quantity ∧ 0 < price then
    .ok
      { fillId := fillIdentity source sequence side
        orderId := fillIdentity source sequence side
        clientOrderId := fillIdentity source sequence side
        symbol := source.symbol
        side := side.value
        quantity := quantity
        price := price
        executedAt := fillTime bar side
        fee := some fee
        feeCurrency := some "USD"
        identified :=
          ⟨fillIdentity_ne_empty source sequence side,
            fillIdentity_ne_empty source sequence side,
            source.symbol_ne_empty⟩
        sided := by cases side <;> decide
        positive := positive }
  else .error .accounting

section Fill

variable (context : DecimalContext) (settings : ExperimentSettings)

/-- `quantity * price * source.settings.fee_bps / 10000`. -/
def fillFee (quantity price : ℚ) : ℚ :=
  context.div
    (context.mul (context.mul quantity price) settings.feeBps) 10000

/-- What a fill leaves of the account. -/
def AccountState.settle (state : AccountState) (side : FillSide)
    (quantity price : ℚ) : AccountState :=
  let fee := fillFee context settings quantity price
  let notional := context.mul quantity price
  let fees := context.add state.fees fee
  match side with
  | .buy =>
      { state with
        cash := context.sub (context.sub state.cash notional) fee
        quantity := quantity
        costBasis := context.add notional fee
        fees := fees }
  | .sell =>
      { state with
        cash := context.sub (context.add state.cash notional) fee
        realizedNet :=
          context.sub
            (context.sub (context.add state.realizedNet notional) fee)
            state.costBasis
        quantity := 0
        costBasis := 0
        position := none
        fees := fees }

def fill (source : ExperimentInput) (sequence : ℕ) (bar : RecordedBar)
    (side : FillSide) (quantity price : ℚ) (state : AccountState) :
    Except EngineError (FillFact × AccountState) :=
  (fillFact source sequence bar side quantity price
      (fillFee context source.settings quantity price)).map fun fact =>
    (fact, state.settle context source.settings side quantity price)

end Fill

end GptTrader
