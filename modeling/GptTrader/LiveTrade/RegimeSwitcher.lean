import GptTrader.Intelligence.RegimeDetector
import GptTrader.Library.DictSums
import GptTrader.Python.Values

/-!
# The regime switching strategy

`live_trade/strategies/regime_switcher/strategy.py`.  Every call detects a regime, whose
bucket names the side that decides, unless a position is open and the side that asked for
it is on record.  The delegates are any strategies; the regimes that are detected and the
positions that are seen are inputs of a call.
-/

namespace GptTrader

namespace RegimeSwitcher

open Regime (RegimeState RegimeType)

/-! ## Decisions -/

/-- The two strategies to switch between. -/
inductive StrategyKind where
  | trend
  | meanReversion
  deriving DecidableEq

inductive Action where
  | buy
  | sell
  | hold
  | close
  deriving DecidableEq

/-- A value among the indicators of a decision: one of the delegate's, or one that the
switcher adds. -/
inductive IndicatorValue (φ ν : Type) where
  | delegate (value : ν)
  | text (value : String)
  | number (value : φ)
  | count (value : ℕ)
  | side (value : Option StrategyKind)
  | flag (value : Bool)

/-- A strategy's answer. -/
structure Decision (φ ν : Type) where
  action : Action
  reason : String
  confidence : φ
  indicators : Option (Dict String (IndicatorValue φ ν))

/-! ## Positions -/

/-- A value of a position as `str` and `bool` read it. -/
structure StateValue where
  text : String
  truthy : Bool
  deriving DecidableEq

abbrev PositionState :=
  Dict String StateValue

def present (positionState : Option PositionState) : Option PositionState :=
  match positionState with
  | none => none
  | some state => if state.entries.isEmpty then none else some state

variable (formats : TextFormats)

/-- `position_state.get("quantity", 0)`. -/
def quantityValue (state : PositionState) : StateValue :=
  (state.get? "quantity").getD { text := "0", truthy := false }

/-- `Decimal(str(value))`. -/
def decimalOf (value : StateValue) : Except PyError Decimal :=
  match formats.parseDecimal value.text with
  | some quantity => .ok quantity
  | none => .error .invalidOperation

def isPositionOpen (positionState : Option PositionState) : Bool :=
  match present positionState with
  | none => false
  | some state =>
      let quantity := quantityValue state
      match decimalOf formats quantity >>= fun value => value.eq (.finite 0) with
      | .ok isZero => !isZero
      | .error _ => quantity.truthy

/-! ## Regimes -/

/-- What `_bucket_for_regime` returns. -/
inductive Bucket where
  | side (kind : StrategyKind)
  | crisis
  | unknown
  deriving DecidableEq

/-- The strategy of a regime. -/
def bucketForRegime : RegimeType → Bucket
  | .bullQuiet => .side .trend
  | .bullVolatile => .side .trend
  | .bearQuiet => .side .trend
  | .bearVolatile => .side .trend
  | .sidewaysQuiet => .side .meanReversion
  | .sidewaysVolatile => .side .meanReversion
  | .crisis => .crisis
  | .unknown => .unknown

def isBullish (regime : RegimeType) : Bool :=
  decide (regime = .bullQuiet ∨ regime = .bullVolatile)

def isBearish (regime : RegimeType) : Bool :=
  decide (regime = .bearQuiet ∨ regime = .bearVolatile)

variable {σ ι φ ν : Type}

def withRegimeIndicators (decision : Decision φ ν) (regimeState : RegimeState φ)
    (selected : Option StrategyKind) (stickyUsed : Bool)
    (active : Option StrategyKind) : Decision φ ν :=
  let indicators := decision.indicators.getD .empty
  { decision with
    indicators := some (indicators.setAll
      [("regime", .text regimeState.regime.name),
        ("regime_confidence", .number regimeState.confidence),
        ("regime_trend_score", .number regimeState.trendScore),
        ("regime_volatility_percentile", .number regimeState.volatilityPercentile),
        ("regime_momentum_score", .number regimeState.momentumScore),
        ("regime_age_ticks", .count regimeState.regimeAgeTicks),
        ("regime_transition_probability", .number regimeState.transitionProbability),
        ("regime_switcher_selected", .side selected),
        ("regime_switcher_active", .side active),
        ("regime_switcher_sticky_used", .flag stickyUsed)]) }

/-! ## The strategy -/

/-- A strategy to delegate to, with its factory; `ι` is what a call hands on besides the
symbol and the position. -/
structure TradingStrategy (σ ι φ ν : Type) where
  create : σ
  decide : σ → String → Option PositionState → ι → σ × Except PyError (Decision φ ν)

inductive TrendMode where
  | delegate
  | regimeFollow
  deriving DecidableEq

/-- The settings of `RegimeSwitchingStrategy` that `decide` reads. -/
structure Settings (σ ι φ ν : Type) where
  trendStrategy : TradingStrategy σ ι φ ν
  meanReversionStrategy : TradingStrategy σ ι φ ν
  stickyPositions : Bool
  closeOnCrisis : Bool
  trendMode : TrendMode
  enableShorts : Bool

/-- The state of `RegimeSwitchingStrategy`, without that of its detector. -/
structure Switcher (σ : Type) where
  trendBySymbol : Dict String σ
  meanReversionBySymbol : Dict String σ
  activeBySymbol : Dict String StrategyKind

def Switcher.fresh : Switcher σ :=
  { trendBySymbol := .empty
    meanReversionBySymbol := .empty
    activeBySymbol := .empty }

/-- A call of `decide` for a symbol, with the regime its detector reports. -/
structure Call (ι φ : Type) where
  regimeState : RegimeState φ
  positionState : Option PositionState
  market : ι

variable [FloatOps φ]

/-- The side of a position as `_decide_regime_follow` reads it: long and short. -/
def directions (positionState : Option PositionState) : Except PyError (Bool × Bool) := do
  let sideRaw :=
    match (present positionState).bind fun state => state.get? "side" with
    | none => "none"
    | some value => if value.truthy then value.text else "none"
  let side := formats.lower (strip sideRaw)
  let quantity ←
    match present positionState with
    | none => pure (.finite 0)
    | some state => decimalOf formats (quantityValue state)
  if side = "long" ∨ side = "buy" then pure (true, false)
  else if side = "short" ∨ side = "sell" then pure (false, true)
  else
    let isLong ← Decimal.lt (.finite 0) quantity
    let isShort ← quantity.lt (.finite 0)
    pure (isLong, isShort)

/-- The action that follows the trend. -/
def followAction (regime : RegimeType) (isLong isShort enableShorts : Bool) :
    Action × String :=
  if isBullish regime then
    if isShort then (.close, "Regime follow: bull, closing short")
    else if isLong then (.hold, "Regime follow: bull, holding long")
    else (.buy, "Regime follow: bull, opening long")
  else if isBearish regime then
    if isLong then (.close, "Regime follow: bear, closing long")
    else if isShort then (.hold, "Regime follow: bear, holding short")
    else if enableShorts then (.sell, "Regime follow: bear, opening short")
    else (.hold, "Regime follow: bear, shorts disabled")
  else (.hold, "Regime follow: non-trend regime")

/-- The decision read off the regime. -/
def decideRegimeFollow (regimeState : RegimeState φ)
    (positionState : Option PositionState) (enableShorts : Bool) :
    Except PyError (Decision φ ν) := do
  let (isLong, isShort) ← directions formats positionState
  let (action, reason) := followAction regimeState.regime isLong isShort enableShorts
  pure
    { action := action
      reason := reason ++ " (" ++ regimeState.regime.name ++ ")"
      confidence := pyMax (FloatOps.literal 0)
        (pyMin regimeState.confidence (FloatOps.literal 1))
      indicators := some .empty }

/-- `_get_trend(symbol).decide(...)`: the delegate of the symbol, made if there is none,
and what it decides. -/
def delegated (strategy : TradingStrategy σ ι φ ν) (bySymbol : Dict String σ)
    (symbol : String) (call : Call ι φ) :
    Dict String σ × Except PyError (Decision φ ν) :=
  let (state, decision) := strategy.decide ((bySymbol.get? symbol).getD strategy.create)
    symbol call.positionState call.market
  (bySymbol.set symbol state, decision)

/-- The strategy asked for a symbol. -/
def delegate (settings : Settings σ ι φ ν) (switcher : Switcher σ) (symbol : String)
    (call : Call ι φ) :
    StrategyKind → Switcher σ × Except PyError (Decision φ ν)
  | .trend =>
      match settings.trendMode with
      | .regimeFollow =>
          (switcher, decideRegimeFollow formats call.regimeState call.positionState
            settings.enableShorts)
      | .delegate =>
          let (bySymbol, decision) := delegated settings.trendStrategy
            switcher.trendBySymbol symbol call
          ({ switcher with trendBySymbol := bySymbol }, decision)
  | .meanReversion =>
      let (bySymbol, decision) := delegated settings.meanReversionStrategy
        switcher.meanReversionBySymbol symbol call
      ({ switcher with meanReversionBySymbol := bySymbol }, decision)

def crisisDecision (closeOnCrisis positionOpen : Bool) : Decision φ ν :=
  if closeOnCrisis && positionOpen then
    { action := .close
      reason := "Crisis regime: closing position"
      confidence := FloatOps.literal 1
      indicators := some .empty }
  else
    { action := .hold
      reason := "Crisis regime: holding"
      confidence := FloatOps.literal 0
      indicators := some .empty }

def unknownDecision : Decision φ ν :=
  { action := .hold
    reason := "Regime unknown: holding"
    confidence := FloatOps.literal 0
    indicators := some .empty }

def select (stickyPositions positionOpen : Bool) (active : Option StrategyKind)
    (kind : StrategyKind) : StrategyKind × Bool :=
  match active with
  | none => (kind, false)
  | some side => if positionOpen && stickyPositions then (side, true) else (kind, false)

/-- The strategy a position was opened by. -/
def track (activeBySymbol : Dict String StrategyKind) (symbol : String)
    (positionOpen : Bool) (selected : StrategyKind) (action : Action) :
    Dict String StrategyKind :=
  if positionOpen = false ∧ (action = .buy ∨ action = .sell) then
    activeBySymbol.set symbol selected
  else if positionOpen = true ∧ action = .close then activeBySymbol.erase symbol
  else activeBySymbol

/-- `RegimeSwitchingStrategy.decide`. -/
def decide (settings : Settings σ ι φ ν) (switcher : Switcher σ) (symbol : String)
    (call : Call ι φ) : Switcher σ × Except PyError (Decision φ ν) :=
  let positionOpen := isPositionOpen formats call.positionState
  let active := switcher.activeBySymbol.get? symbol
  match bucketForRegime call.regimeState.regime with
  | .crisis =>
      (switcher, .ok (withRegimeIndicators
        (crisisDecision settings.closeOnCrisis positionOpen) call.regimeState none false
        active))
  | .unknown =>
      (switcher, .ok (withRegimeIndicators unknownDecision call.regimeState none false
        active))
  | .side kind =>
      let (selected, stickyUsed) :=
        select settings.stickyPositions positionOpen active kind
      match delegate formats settings switcher symbol call selected with
      | (asked, .error error) => (asked, .error error)
      | (asked, .ok decision) =>
          let activeBySymbol := track asked.activeBySymbol symbol positionOpen selected
            decision.action
          ({ asked with activeBySymbol := activeBySymbol },
            .ok (withRegimeIndicators decision call.regimeState (some selected)
              stickyUsed (activeBySymbol.get? symbol)))

end RegimeSwitcher

end GptTrader
