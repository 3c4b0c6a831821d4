import GptTrader.Core.OrderIntent
import GptTrader.Library.Dict
import GptTrader.Python.DecimalContext

/-!
# The pre-trade exposure check

`LiveRiskManager.pre_trade_validate` and the position dictionary that
`StateCollector.build_positions_dict` builds for it.  The check reads the keys
`mark` and `price` of an entry; the dictionary has a `mark_price`.  The check computes
in a decimal context, so its ratios are rounded before they are compared with the caps.
-/

namespace GptTrader

/-- An open position: its quantity is positive and its side gives the sign. -/
structure LivePosition where
  symbol : String
  quantity : ℚ
  side : String
  entryPrice : ℚ
  markPrice : ℚ

/-- A field of a position entry. -/
inductive EntryField where
  | amount (value : ℚ)
  | text (value : String)

abbrev PositionEntry : Type :=
  List (String × EntryField)

namespace PositionEntry

/-- `entry.get(key)`. -/
def get? (entry : PositionEntry) (key : String) : Option EntryField :=
  (entry.find? fun field => decide (field.1 = key)).map Prod.snd

/-- `Decimal(str(entry.get(key, default)))` of an amount. -/
def amount (entry : PositionEntry) (key : String) (default : ℚ) : ℚ :=
  match entry.get? key with
  | some (.amount value) => value
  | _ => default

end PositionEntry

def positionEntry (lower : String → String) (position : LivePosition) :
    PositionEntry :=
  [("quantity", .amount position.quantity),
    ("side", .text (lower position.side)),
    ("entry_price", .amount position.entryPrice),
    ("mark_price", .amount position.markPrice)]

def buildPositionsDict (lower : String → String)
    (positions : List LivePosition) : Dict String PositionEntry :=
  positions.foldl
    (fun entries position =>
      if position.quantity = 0 then entries
      else entries.set position.symbol (positionEntry lower position))
    Dict.empty

/-- What the validation raises, with the numbers of its message. -/
inductive RiskValidationError where
  | leverage (value cap : ℚ)
  | symbolLeverage (value : ℚ) (symbol : String) (cap : ℚ)
  | totalExposure (value cap : ℚ)
  | liquidationBuffer (value floor : ℚ)
  deriving DecidableEq

/-- The limits of the risk configuration.  Caps and margin requirements are
those of the current time window. -/
structure RiskLimits where
  maxLeverage : ℚ
  symbolLeverageCap : String → Option ℚ
  maxExposurePct : ℚ
  enablePreTradeLiqProjection : Bool
  maintenanceMargin : String → ℚ
  minLiquidationBufferPct : ℚ

namespace RiskLimits

variable (context : DecimalContext) (limits : RiskLimits)

/-- The exposure the check reads off the dictionary. -/
def currentExposure (positions : Dict String PositionEntry) : ℚ :=
  context.sum (positions.values.map fun entry =>
    context.abs (context.mul (entry.amount "quantity" 0)
      (entry.amount "mark" (entry.amount "price" 0))))

/-- `_validate_total_exposure`, which ignores the symbol. -/
def validateTotalExposure (notional equity : ℚ)
    (positions : Dict String PositionEntry) : Except RiskValidationError Unit :=
  let exposurePct :=
    context.div (context.add (currentExposure context positions) notional) equity
  if limits.maxExposurePct < exposurePct then
    .error (.totalExposure exposurePct limits.maxExposurePct)
  else .ok ()

/-- The liquidation buffer projected for a notional. -/
def projectedBuffer (symbol : String) (notional equity : ℚ) : ℚ :=
  context.div (context.sub equity
    (context.mul notional (limits.maintenanceMargin symbol))) equity

/-- `_validate_mmr_projection`. -/
def validateMmrProjection (symbol : String) (notional equity : ℚ) :
    Except RiskValidationError Unit :=
  let margin := limits.maintenanceMargin symbol
  let buffer :=
    if 0 < equity then limits.projectedBuffer context symbol notional equity else 0
  if margin ≠ 0 ∧ buffer < limits.minLiquidationBufferPct then
    .error (.liquidationBuffer buffer limits.minLiquidationBufferPct)
  else .ok ()

/-- The global and the symbol's leverage cap. -/
def validateLeverage (symbol : String) (leverage : ℚ) :
    Except RiskValidationError Unit :=
  if limits.maxLeverage < leverage then
    .error (.leverage leverage limits.maxLeverage)
  else
    match limits.symbolLeverageCap symbol with
    | none => .ok ()
    | some cap =>
        if cap < leverage then .error (.symbolLeverage leverage symbol cap)
        else .ok ()

/-- `LiveRiskManager.pre_trade_validate` with a configuration. -/
def preTradeValidate (symbol : String) (quantity price equity : ℚ)
    (positions : Dict String PositionEntry) : Except RiskValidationError Unit :=
  let notional := context.mul quantity price
  if equity ≤ 0 then .ok ()
  else do
    limits.validateLeverage symbol (context.div notional equity)
    limits.validateTotalExposure context notional equity positions
    if limits.enablePreTradeLiqProjection then
      limits.validateMmrProjection context symbol notional equity
    else .ok ()

end RiskLimits

section Dictionary

variable {lower : String → String}

theorem mem_buildPositionsDict {positions : List LivePosition}
    {entry : String × PositionEntry}
    (member : entry ∈ (buildPositionsDict lower positions).entries) :
    ∃ position ∈ positions, entry.2 = positionEntry lower position := by
  unfold buildPositionsDict at member
  induction positions using List.reverseRecOn with
  | nil => cases member
  | append_singleton earlier position induction =>
      rw [List.foldl_append] at member
      simp only [List.foldl_cons, List.foldl_nil] at member
      split at member
      · obtain ⟨source, found, made⟩ := induction member
        exact ⟨source, by simp [found], made⟩
      · obtain ⟨symbol, value⟩ := entry
        rw [Dict.mem_entries_set] at member
        rcases member with ⟨_, rfl⟩ | ⟨_, found⟩
        · exact ⟨position, by simp, rfl⟩
        · obtain ⟨source, found, made⟩ := induction found
          exact ⟨source, by simp [found], made⟩

theorem sum_eq_zero {context : DecimalContext} (rounds : context.round 0 = 0)
    {values : List ℚ} (zero : ∀ value ∈ values, value = 0) : context.sum values = 0 := by
  induction values using List.reverseRecOn with
  | nil => rfl
  | append_singleton earlier last induction =>
      rw [DecimalContext.sum_append_singleton, zero last (by simp),
        induction fun value member => zero value (by simp [member])]
      simpa [DecimalContext.add] using rounds

/-- Whatever is open, the check reads an exposure of 0: no entry has a `mark` or a
`price`. -/
theorem currentExposure_buildPositionsDict {context : DecimalContext}
    (rounds : context.round 0 = 0) (positions : List LivePosition) :
    RiskLimits.currentExposure context (buildPositionsDict lower positions) = 0 := by
  unfold RiskLimits.currentExposure
  refine sum_eq_zero rounds fun value member => ?_
  obtain ⟨entry, found, rfl⟩ := List.mem_map.mp member
  obtain ⟨pair, listed, rfl⟩ := List.mem_map.mp found
  obtain ⟨position, _, made⟩ := mem_buildPositionsDict listed
  rw [made]
  simp [positionEntry, PositionEntry.amount, PositionEntry.get?, DecimalContext.abs,
    DecimalContext.mul, rounds]

end Dictionary

/-- The open positions, one a symbol. -/
structure Portfolio where
  positions : List LivePosition
  nodup : (positions.map LivePosition.symbol).Nodup

/-- An order as the guards let it through. -/
structure GuardedOrder where
  symbol : String
  side : OrderSide
  quantity : ℚ
  price : ℚ

namespace Portfolio

variable (lower : String → String) (portfolio : Portfolio)

/-- The open positions' exposure: the sum of `|quantity * mark|`. -/
def exposure : ℚ :=
  (portfolio.positions.map fun position =>
    |position.quantity * position.markPrice|).sum

def signedQuantity (position : LivePosition) : ℚ :=
  if lower position.side = "short" then -position.quantity
  else position.quantity

def signedOrder (order : GuardedOrder) : ℚ :=
  match order.side with
  | .buy => order.quantity
  | .sell => -order.quantity

/-- The open position of a symbol. -/
def positionOf (symbol : String) : Option LivePosition :=
  portfolio.positions.find? fun position => decide (position.symbol = symbol)

/-- The exposure after the order, which changes the position of its symbol or
opens one at its price. -/
def exposureAfter (order : GuardedOrder) : ℚ :=
  let others := portfolio.positions.filter fun position =>
    decide (position.symbol ≠ order.symbol)
  let own :=
    match portfolio.positionOf order.symbol with
    | some position =>
        |(signedQuantity lower position + signedOrder order) *
          position.markPrice|
    | none => |signedOrder order * order.price|
  (others.map fun position =>
    |position.quantity * position.markPrice|).sum + own

/-- What an order does to the position of its symbol. -/
inductive Effect where
  | opens
  | adds (position : LivePosition)
  | reduces (position : LivePosition)
  | flips (position : LivePosition)

/-- An order against the position is a reduction up to the position's quantity, and
turns it over beyond. -/
def effect (order : GuardedOrder) : Effect :=
  match portfolio.positionOf order.symbol with
  | none => .opens
  | some position =>
      if 0 ≤ signedQuantity lower position * signedOrder order then .adds position
      else if |order.quantity| ≤ |position.quantity| then .reduces position
      else .flips position

/-- The order fits into the room the open positions leave under a cap. -/
def Fits (order : GuardedOrder) (cap : ℚ) : Prop :=
  match portfolio.effect lower order with
  | .opens => portfolio.exposure + |order.quantity * order.price| ≤ cap
  | .adds position =>
      portfolio.exposure + |order.quantity * position.markPrice| ≤ cap
  | .reduces position =>
      portfolio.exposure ≤ cap + |order.quantity * position.markPrice|
  | .flips position =>
      portfolio.exposure + |order.quantity * position.markPrice| ≤
        cap + 2 * |position.quantity * position.markPrice|

/-- The order is no reduction: it opens, adds, or turns over more than twice the
position. -/
def Expands (order : GuardedOrder) : Prop :=
  match portfolio.effect lower order with
  | .opens => order.quantity * order.price ≠ 0
  | .adds position => order.quantity * position.markPrice ≠ 0
  | .reduces _ => False
  | .flips position =>
      2 * |position.quantity * position.markPrice| <
        |order.quantity * position.markPrice|

variable {lower portfolio} {order : GuardedOrder}

theorem abs_signedQuantity (position : LivePosition) :
    |signedQuantity lower position| = |position.quantity| := by
  unfold signedQuantity
  split <;> simp

theorem abs_signedOrder (order : GuardedOrder) :
    |signedOrder order| = |order.quantity| := by
  unfold signedOrder
  cases order.side <;> simp

/-- The sum over a list of one entry a symbol, with one symbol's taken apart. -/
theorem sum_eq_others_add_own {positions : List LivePosition}
    (nodup : (positions.map LivePosition.symbol).Nodup) (symbol : String)
    (value : LivePosition → ℚ) :
    (positions.map value).sum =
      ((positions.filter fun position => decide (position.symbol ≠ symbol)).map
        value).sum +
      ((positions.find? fun position => decide (position.symbol = symbol)).elim 0
        value) := by
  induction positions with
  | nil => simp
  | cons position rest induction =>
      rw [List.map_cons, List.nodup_cons] at nodup
      have later := induction nodup.2
      by_cases own : position.symbol = symbol
      · have absent : rest.find? (fun other => decide (other.symbol = symbol)) = none := by
          rw [List.find?_eq_none]
          intro other member same
          refine nodup.1 (List.mem_map.mpr ⟨other, member, ?_⟩)
          rw [of_decide_eq_true same, own]
        rw [absent] at later
        simp only [Option.elim_none, add_zero] at later
        rw [List.map_cons, List.sum_cons, later]
        simp [own, add_comm]
      · rw [List.map_cons, List.sum_cons, later]
        simp [own, add_assoc]

theorem exposure_eq (order : GuardedOrder) : portfolio.exposure =
    ((portfolio.positions.filter fun position =>
      decide (position.symbol ≠ order.symbol)).map fun position =>
        |position.quantity * position.markPrice|).sum +
      ((portfolio.positionOf order.symbol).elim 0 fun position =>
        |position.quantity * position.markPrice|) :=
  sum_eq_others_add_own portfolio.nodup order.symbol _

theorem abs_add_of_against {left right : ℚ} (against : left * right < 0) :
    |left + right| = |(|left| - |right|)| := by
  rcases mul_neg_iff.mp against with ⟨positive, negative⟩ | ⟨negative, positive⟩
  · rw [abs_of_pos positive, abs_of_neg negative, sub_neg_eq_add]
  · rw [abs_of_neg negative, abs_of_pos positive, ← abs_neg]
    ring_nf

/-- The exposure after the order, by what the order does. -/
theorem exposureAfter_eq (order : GuardedOrder) :
    portfolio.exposureAfter lower order = portfolio.exposure +
      match portfolio.effect lower order with
      | .opens => |order.quantity * order.price|
      | .adds position => |order.quantity * position.markPrice|
      | .reduces position => -|order.quantity * position.markPrice|
      | .flips position => |order.quantity * position.markPrice| -
          2 * |position.quantity * position.markPrice| := by
  rw [exposure_eq order]
  unfold exposureAfter effect
  cases found : portfolio.positionOf order.symbol with
  | none => simp [abs_mul, abs_signedOrder]
  | some position =>
      dsimp only [Option.elim_some]
      rw [add_assoc, add_right_inj, abs_mul]
      by_cases along : 0 ≤ signedQuantity lower position * signedOrder order
      · rw [if_pos along, (abs_add_eq_add_abs_iff _ _).mpr (mul_nonneg_iff.mp along),
          abs_signedQuantity, abs_signedOrder]
        dsimp only
        rw [add_mul, ← abs_mul, ← abs_mul]
      · rw [if_neg along, abs_add_of_against (not_le.mp along), abs_signedQuantity,
          abs_signedOrder]
        by_cases within : |order.quantity| ≤ |position.quantity|
        · rw [if_pos within, abs_of_nonneg (sub_nonneg.mpr within)]
          dsimp only
          rw [sub_mul, ← abs_mul, ← abs_mul, sub_eq_add_neg]
        · rw [if_neg within, abs_of_nonpos (sub_nonpos.mpr (not_le.mp within).le)]
          dsimp only
          rw [neg_mul, sub_mul, ← abs_mul, ← abs_mul]
          ring

theorem exposureAfter_le_iff {cap : ℚ} :
    portfolio.exposureAfter lower order ≤ cap ↔ portfolio.Fits lower order cap := by
  rw [exposureAfter_eq]
  unfold Fits
  cases portfolio.effect lower order with
  | opens => rfl
  | adds position => rfl
  | reduces position =>
      dsimp only
      constructor <;> intro within <;> linarith
  | flips position =>
      dsimp only
      constructor <;> intro within <;> linarith

theorem exposure_lt_iff :
    portfolio.exposure < portfolio.exposureAfter lower order ↔
      portfolio.Expands lower order := by
  rw [exposureAfter_eq, lt_add_iff_pos_right]
  unfold Expands
  cases portfolio.effect lower order with
  | opens => exact abs_pos
  | adds position => exact abs_pos
  | reduces position =>
      have shrinks := abs_nonneg (order.quantity * position.markPrice)
      exact iff_of_false (by dsimp only; linarith) id
  | flips position => exact sub_pos

end Portfolio

section Check

variable (context : DecimalContext) (lower : String → String) (limits : RiskLimits)
  (equity : ℚ) (portfolio : Portfolio) (order : GuardedOrder)

/-- The validation of an order against the dictionary of the open positions. -/
def validatePortfolio : Except RiskValidationError Unit :=
  limits.preTradeValidate context order.symbol order.quantity order.price equity
    (buildPositionsDict lower portfolio.positions)

/-- What the exposure check should do: an order let through keeps the exposure
within the cap, and an order that adds no exposure is not refused for it. -/
structure CountsExposure : Prop where
  capped : validatePortfolio context lower limits equity portfolio order = .ok () →
    portfolio.exposureAfter lower order ≤ limits.maxExposurePct * equity
  admitted : portfolio.exposureAfter lower order ≤ portfolio.exposure →
    ∀ value cap, validatePortfolio context lower limits equity portfolio order ≠
      .error (.totalExposure value cap)

/-- The ratio of the order's own notional to the equity is within the leverage caps. -/
def LeverageWithin : Prop :=
  let leverage := context.div (context.mul order.quantity order.price) equity
  leverage ≤ limits.maxLeverage ∧
    ∀ cap, limits.symbolLeverageCap order.symbol = some cap → leverage ≤ cap

/-- The buffer projected for the order's own notional is large enough. -/
def BufferWithin : Prop :=
  limits.enablePreTradeLiqProjection = true →
    limits.maintenanceMargin order.symbol ≠ 0 →
      limits.minLiquidationBufferPct ≤ limits.projectedBuffer context order.symbol
        (context.mul order.quantity order.price) equity

/-- The order's own notional is within the exposure cap, as the check rounds them. -/
def NotionalWithin : Prop :=
  context.div (context.add 0 (context.mul order.quantity order.price)) equity ≤
    limits.maxExposurePct

variable {context lower limits equity portfolio order}

theorem validateLeverage_eq_ok {symbol : String} {leverage : ℚ} :
    limits.validateLeverage symbol leverage = .ok () ↔
      leverage ≤ limits.maxLeverage ∧
        ∀ cap, limits.symbolLeverageCap symbol = some cap → leverage ≤ cap := by
  unfold RiskLimits.validateLeverage
  split
  · next above => simp [not_le.mpr above]
  · next within =>
      rw [not_lt] at within
      split
      · next uncapped => simp [uncapped, within]
      · next cap capped =>
          split
          · next above => simp [capped, not_le.mpr above]
          · next below => simp [capped, within, not_lt.mp below]

theorem validateLeverage_ne_totalExposure {symbol : String}
    {leverage value cap : ℚ} :
    limits.validateLeverage symbol leverage ≠
      .error (.totalExposure value cap) := by
  unfold RiskLimits.validateLeverage
  split
  · simp
  · split
    · simp
    · split <;> simp

theorem validateMmrProjection_eq_ok (positive : 0 < equity) {symbol : String}
    {notional : ℚ} :
    limits.validateMmrProjection context symbol notional equity = .ok () ↔
      (limits.maintenanceMargin symbol ≠ 0 → limits.minLiquidationBufferPct ≤
        limits.projectedBuffer context symbol notional equity) := by
  unfold RiskLimits.validateMmrProjection
  simp only [positive, if_true]
  split
  · next below => simp [below.1, below.2]
  · next within =>
      refine iff_of_true rfl fun margin => ?_
      exact not_lt.mp fun below => within ⟨margin, below⟩

theorem validateMmrProjection_ne_totalExposure {symbol : String}
    {notional value cap : ℚ} :
    limits.validateMmrProjection context symbol notional equity ≠
      .error (.totalExposure value cap) := by
  unfold RiskLimits.validateMmrProjection
  dsimp only
  generalize (if 0 < equity then _ else _ : ℚ) = buffer
  split <;> simp

/-- Whatever is open, the check compares the order's own notional with the cap. -/
theorem validateTotalExposure_built (rounds : context.round 0 = 0) :
    limits.validateTotalExposure context (context.mul order.quantity order.price) equity
        (buildPositionsDict lower portfolio.positions) = .ok () ↔
      NotionalWithin context limits equity order := by
  unfold RiskLimits.validateTotalExposure NotionalWithin
  simp only [currentExposure_buildPositionsDict rounds]
  split
  · next above => simp [not_le.mpr above]
  · next within => simp [not_lt.mp within]

theorem validateTotalExposure_error {notional : ℚ}
    {positions : Dict String PositionEntry} {reason : RiskValidationError}
    (refused : limits.validateTotalExposure context notional equity positions =
      .error reason) : ∃ value cap, reason = .totalExposure value cap := by
  unfold RiskLimits.validateTotalExposure at refused
  dsimp only at refused
  split at refused
  · exact ⟨_, _, (Except.error.inj refused).symm⟩
  · cases refused

theorem validatePortfolio_of_nonpos (spent : equity ≤ 0) :
    validatePortfolio context lower limits equity portfolio order = .ok () := by
  unfold validatePortfolio RiskLimits.preTradeValidate
  simp [spent]

theorem validatePortfolio_eq_ok (rounds : context.round 0 = 0)
    (positive : 0 < equity) :
    validatePortfolio context lower limits equity portfolio order = .ok () ↔
      LeverageWithin context limits equity order ∧
        NotionalWithin context limits equity order ∧
        BufferWithin context limits equity order := by
  unfold validatePortfolio RiskLimits.preTradeValidate
  rw [if_neg (not_le.mpr positive)]
  unfold LeverageWithin BufferWithin
  dsimp only
  rw [← validateLeverage_eq_ok, ← validateMmrProjection_eq_ok positive,
    ← @validateTotalExposure_built context lower limits equity portfolio order rounds]
  cases limits.validateLeverage order.symbol
      (context.div (context.mul order.quantity order.price) equity) with
  | error reason => simp [bind, Except.bind]
  | ok _ =>
      cases limits.validateTotalExposure context
          (context.mul order.quantity order.price) equity
          (buildPositionsDict lower portfolio.positions) with
      | error reason => simp [bind, Except.bind]
      | ok _ => split <;> simp_all [bind, Except.bind]

theorem validatePortfolio_eq_totalExposure (lower : String → String)
    (portfolio : Portfolio) (rounds : context.round 0 = 0) (positive : 0 < equity) :
    (∃ value cap, validatePortfolio context lower limits equity portfolio order =
        .error (.totalExposure value cap)) ↔
      LeverageWithin context limits equity order ∧
        ¬NotionalWithin context limits equity order := by
  unfold validatePortfolio RiskLimits.preTradeValidate
  rw [if_neg (not_le.mpr positive)]
  unfold LeverageWithin
  dsimp only
  rw [← validateLeverage_eq_ok,
    ← @validateTotalExposure_built context lower limits equity portfolio order rounds]
  cases verdict : limits.validateLeverage order.symbol
      (context.div (context.mul order.quantity order.price) equity) with
  | error reason =>
      have other : ∀ value cap, reason ≠ .totalExposure value cap :=
        fun value cap same => validateLeverage_ne_totalExposure
          (verdict.trans (congrArg _ same))
      simp [bind, Except.bind, other]
  | ok _ =>
      cases total : limits.validateTotalExposure context
          (context.mul order.quantity order.price) equity
          (buildPositionsDict lower portfolio.positions) with
      | error reason =>
          obtain ⟨value, cap, rfl⟩ := validateTotalExposure_error total
          simp [bind, Except.bind]
      | ok _ =>
          split <;> simp [bind, Except.bind, validateMmrProjection_ne_totalExposure]

theorem defaultContext_round_zero : DecimalContext.defaultContext.round 0 = 0 :=
  DecimalContext.round_eq_self 0 ⟨0, by norm_num⟩ (by norm_num)

/-- The check counts the exposure exactly when the order it admits for its own
notional fits into the room the open positions leave, and the one it refuses is no
reduction. -/
theorem countsExposure_iff (lower : String → String) (limits : RiskLimits)
    (equity : ℚ) (portfolio : Portfolio) (order : GuardedOrder) :
    CountsExposure .defaultContext lower limits equity portfolio order ↔
      ((equity ≤ 0 ∨ LeverageWithin .defaultContext limits equity order ∧
            NotionalWithin .defaultContext limits equity order ∧
            BufferWithin .defaultContext limits equity order →
          portfolio.Fits lower order (limits.maxExposurePct * equity)) ∧
        (0 < equity → LeverageWithin .defaultContext limits equity order →
          ¬NotionalWithin .defaultContext limits equity order →
            portfolio.Expands lower order)) := by
  rw [← Portfolio.exposureAfter_le_iff, ← Portfolio.exposure_lt_iff]
  have rounds := defaultContext_round_zero
  rcases le_or_gt equity 0 with spent | positive
  · have accepted : validatePortfolio .defaultContext lower limits equity portfolio
        order = .ok () := validatePortfolio_of_nonpos spent
    constructor
    · intro counts
      exact ⟨fun _ => counts.capped accepted,
        fun positive => absurd spent (not_le.mpr positive)⟩
    · rintro ⟨capped, _⟩
      exact ⟨fun _ => capped (.inl spent), fun _ _ _ => by simp [accepted]⟩
  · constructor
    · intro counts
      refine ⟨fun within => ?_, fun _ leverage above => ?_⟩
      · rcases within with spent | within
        · exact absurd spent (not_le.mpr positive)
        · exact counts.capped ((validatePortfolio_eq_ok rounds positive).mpr within)
      · obtain ⟨value, cap, refused⟩ :=
          (validatePortfolio_eq_totalExposure lower portfolio rounds positive).mpr
            ⟨leverage, above⟩
        exact not_le.mp fun grows => counts.admitted grows value cap refused
    · rintro ⟨capped, refusedGrows⟩
      refine ⟨fun accepted => capped (.inr
        ((validatePortfolio_eq_ok rounds positive).mp accepted)), ?_⟩
      intro shrinks value cap refused
      obtain ⟨leverage, above⟩ :=
        (validatePortfolio_eq_totalExposure lower portfolio rounds positive).mp
          ⟨value, cap, refused⟩
      exact absurd shrinks (not_le.mpr (refusedGrows positive leverage above))

end Check

section Example

def cappedPosition : LivePosition where
  symbol := "BTC-USD"
  quantity := 8
  side := "long"
  entryPrice := 100
  markPrice := 100

def cappedPortfolio : Portfolio where
  positions := [cappedPosition]
  nodup := by decide

def fourFifths : RiskLimits where
  maxLeverage := 5
  symbolLeverageCap := fun _ => none
  maxExposurePct := 4 / 5
  enablePreTradeLiqProjection := false
  maintenanceMargin := fun _ => 0
  minLiquidationBufferPct := 0

def anotherBuy : GuardedOrder where
  symbol := "ETH-USD"
  side := .buy
  quantity := 2
  price := 100

/-- With the cap already spent, the check admits an order in another symbol. -/
theorem capped_portfolio_not_countsExposure :
    ¬CountsExposure .defaultContext id fourFifths 1000 cappedPortfolio anotherBuy := by
  intro counts
  have accepted : validatePortfolio .defaultContext id fourFifths 1000
      cappedPortfolio anotherBuy = .ok () := by decide +kernel
  have within := counts.capped accepted
  revert within
  decide +kernel

end Example

end GptTrader
