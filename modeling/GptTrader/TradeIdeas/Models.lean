import GptTrader.Core.OrderIntent

/-!
# Trade-idea records

The broker-neutral records of `trade_ideas/models.py` and the instrument
taxonomy of `core/instruments.py`.  What a constructor checks is a field of the
structure.  Decimals of a record are finite, so they are read exactly; its
timestamps carry a timezone, so they are instants in microseconds.
-/

namespace GptTrader

/-- How far the system may go alone. -/
inductive AutonomyMode where
  | researchOnly
  | humanApprovedExecution
  | boundedAutonomy
  deriving DecidableEq, Repr

def AutonomyMode.value : AutonomyMode → String
  | .researchOnly => "research_only"
  | .humanApprovedExecution => "human_approved_execution"
  | .boundedAutonomy => "bounded_autonomy"

/-- `AutonomyMode(value)`. -/
def AutonomyMode.parse : Json → Except PyError AutonomyMode
  | .str text =>
      if text = "research_only" then .ok .researchOnly
      else if text = "human_approved_execution" then .ok .humanApprovedExecution
      else if text = "bounded_autonomy" then .ok .boundedAutonomy
      else .error .valueError
  | _ => .error .valueError

/-- The directions of an idea. -/
inductive TradeDirection where
  | long
  | short
  | spread
  | hedge
  | noTrade
  deriving DecidableEq, Repr

def TradeDirection.value : TradeDirection → String
  | .long => "long"
  | .short => "short"
  | .spread => "spread"
  | .hedge => "hedge"
  | .noTrade => "no_trade"

inductive ConfidenceLabel where
  | low
  | medium
  | high
  deriving DecidableEq, Repr

inductive TicketVenue where
  | coinbase
  | manual
  | paper
  | robinhood
  | none
  deriving DecidableEq, Repr

def TicketVenue.value : TicketVenue → String
  | .coinbase => "coinbase"
  | .manual => "manual"
  | .paper => "paper"
  | .robinhood => "robinhood"
  | .none => "none"

inductive TicketStatus where
  | notCreated
  | drafted
  | approved
  | submitted
  | cancelled
  deriving DecidableEq, Repr

def TicketStatus.value : TicketStatus → String
  | .notCreated => "not_created"
  | .drafted => "drafted"
  | .approved => "approved"
  | .submitted => "submitted"
  | .cancelled => "cancelled"

inductive ProductType where
  | spot
  | futures
  | options
  | eventContract
  | other
  deriving DecidableEq, Repr

inductive AssetClass where
  | crypto
  | equity
  deriving DecidableEq, Repr

def AssetClass.settlementDays : AssetClass → ℕ
  | .crypto => 0
  | .equity => 1

def isUpper (char : Char) : Bool :=
  'A' ≤ char && char ≤ 'Z'

def isUpperAlphanumeric (char : Char) : Bool :=
  isUpper char || ('0' ≤ char && char ≤ '9')

/-- `Instrument.parse(raw).asset_class`: a `BASE-QUOTE` pair or an uppercase
ticker; anything else is an `InstrumentParseError`. -/
def classifyInstrument (raw : String) : Option AssetClass :=
  let characters := raw.toList
  let base := characters.takeWhile fun char => char != '-'
  match characters.dropWhile fun char => char != '-' with
  | [] =>
      if !base.isEmpty && base.all isUpper then some .equity else none
  | _ :: quote =>
      if !base.isEmpty && base.all isUpperAlphanumeric && !quote.isEmpty &&
          quote.all isUpperAlphanumeric then some .crypto
      else none

/-- The prices an entry is planned at. -/
structure EntryZone where
  lower : Option ℚ
  upper : Option ℚ
  trigger : String
  deriving DecidableEq

structure MaxLoss where
  amount : Option ℚ
  percentOfAccount : Option ℚ
  assumptions : List String
  nonNegative : (∀ value ∈ amount, 0 ≤ value) ∧
    ∀ value ∈ percentOfAccount, 0 ≤ value
  deriving DecidableEq

/-- Machine-readable stop and target levels. -/
structure ExitPlan where
  stop : Option ℚ
  target : Option ℚ
  deriving DecidableEq

/-- The size an idea recommends. -/
structure SizingRecommendation where
  quantity : Option ℚ
  notional : Option ℚ
  rationale : String
  deriving DecidableEq

structure TimeHorizon where
  expectedHold : String
  expiresAt : Option ℤ
  deriving DecidableEq

structure Confidence where
  label : ConfidenceLabel
  rationale : String
  deriving DecidableEq

/-- Where an idea would be traded. -/
structure BrokerTicket where
  venue : TicketVenue
  status : TicketStatus
  deriving DecidableEq

/-- An immutable trade idea.  Its workflow state lives in the audit log. -/
structure TradeIdea where
  decisionId : String
  autonomyMode : AutonomyMode
  thesis : String
  instrument : String
  productType : ProductType
  direction : TradeDirection
  entryZone : EntryZone
  invalidation : String
  targetExit : String
  maxLoss : MaxLoss
  sizingRecommendation : SizingRecommendation
  timeHorizon : TimeHorizon
  dataUsed : List String
  confidence : Confidence
  failureMode : String
  doNotTradeIf : List String
  brokerTicket : BrokerTicket
  exitPlan : Option ExitPlan
  positionOperation : Option PositionOperation
  safe : isSafeDecisionId decisionId = true
  targeted : ∀ operation ∈ positionOperation,
    operation.targetDecisionId ≠ decisionId ∧
      (direction = .long ∨ direction = .short) ∧
      (operation.action = .reduce →
        ∃ quantity ∈ sizingRecommendation.quantity, 0 < quantity)
  deriving DecidableEq

def TradeIdea.reducing (idea : TradeIdea) : Bool :=
  idea.positionOperation.isSome

end GptTrader
