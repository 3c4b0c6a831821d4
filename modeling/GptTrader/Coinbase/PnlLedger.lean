import Mathlib.Algebra.BigOperators.Ring.List
import Mathlib.Tactic.LinearCombination
import GptTrader.Coinbase.PnlService
import GptTrader.Persistence.OrderRuns

/-!
# Exact books of anonymous fills

The position of a product moves like a walk that is cut off at zero, on the side
of the first fill.  While nothing is cut off, the position keeps what it paid and
agrees with the projection of the same fills.
-/

namespace GptTrader

namespace PositionSide

def sign : PositionSide → ℚ
  | .long => 1
  | .short => -1

theorem signed_eq (side : PositionSide) (value : ℚ) :
    side.signed value = side.sign * value := by
  cases side with
  | long => exact (one_mul value).symm
  | short => exact (neg_one_mul value).symm

theorem sign_mul_sign (side : PositionSide) : side.sign * side.sign = 1 := by
  cases side <;> norm_num [sign]

theorem sign_mul_sign_mul (side : PositionSide) (value : ℚ) :
    side.sign * (side.sign * value) = value := by
  rw [← mul_assoc, sign_mul_sign, one_mul]

end PositionSide

namespace VenueTrade

variable {formats : TextFormats} (trade : VenueTrade formats)

theorem signed_eq :
    trade.signed = (PnlService.fillSide formats trade.side).sign * trade.size := by
  unfold signed PnlService.fillSide
  split
  · exact (one_mul trade.size).symm
  · exact (neg_one_mul trade.size).symm

theorem signed_fact {symbol : String} {fact : FillFact}
    (identified : trade.IdentifiedBy symbol fact) :
    fact.signed = trade.signed := by
  unfold FillFact.signed signed
  rw [identified.side, identified.quantity]

end VenueTrade

namespace PositionState

variable {formats : TextFormats}

/-- The position the first trade opens. -/
def opened (symbol : String) (trade : VenueTrade formats) : PositionState :=
  { symbol := symbol
    side := PnlService.fillSide formats trade.side
    quantity := trade.size
    entryPrice := trade.price
    realizedPnl := 0 }

/-- The position after a trade: increased, reduced or turned. -/
def settle (position : PositionState) (trade : VenueTrade formats) :
    PositionState :=
  if position.side = PnlService.fillSide formats trade.side then
    { position with
      entryPrice := (position.quantity * position.entryPrice +
        trade.size * trade.price) / (position.quantity + trade.size)
      quantity := position.quantity + trade.size }
  else position.reduce trade.size trade.price

def settleAll (position : PositionState) (trades : List (VenueTrade formats)) :
    PositionState :=
  trades.foldl settle position

theorem settle_side (position : PositionState) (trade : VenueTrade formats) :
    (position.settle trade).side = position.side := by
  unfold settle
  split <;> rfl

theorem settleAll_side (position : PositionState)
    (trades : List (VenueTrade formats)) :
    (position.settleAll trades).side = position.side := by
  induction trades generalizing position with
  | nil => rfl
  | cons trade rest induction =>
      exact (induction (position.settle trade)).trans
        (position.settle_side trade)

/-- The trade seen from the side of the position. -/
def stepOf (position : PositionState) (trade : VenueTrade formats) : ℚ :=
  position.side.sign * trade.signed

theorem stepOf_same {position : PositionState} {trade : VenueTrade formats}
    (same : position.side = PnlService.fillSide formats trade.side) :
    position.stepOf trade = trade.size := by
  unfold stepOf
  rw [trade.signed_eq, same, PositionSide.sign_mul_sign_mul]

theorem stepOf_against {position : PositionState} {trade : VenueTrade formats}
    (against : position.side ≠ PnlService.fillSide formats trade.side) :
    position.stepOf trade = -trade.size := by
  have opposite : position.side.sign *
      (PnlService.fillSide formats trade.side).sign = -1 := by
    cases held : position.side <;>
      cases filled : PnlService.fillSide formats trade.side <;>
      simp_all [PositionSide.sign]
  unfold stepOf
  rw [trade.signed_eq, ← mul_assoc, opposite, neg_one_mul]

section

variable {position : PositionState} (nonneg : 0 ≤ position.quantity)

include position nonneg

theorem settle_quantity (trade : VenueTrade formats) :
    (position.settle trade).quantity =
      max 0 (position.quantity + position.stepOf trade) := by
  have sized := trade.positive.1
  unfold settle
  split
  · next same =>
      rw [stepOf_same same]
      exact (max_eq_right (by linarith)).symm
  · next against =>
      rw [stepOf_against against]
      unfold reduce
      dsimp only
      rcases le_total position.quantity trade.size with less | more
      · rw [min_eq_left less, sub_self, max_eq_left (by linarith)]
      · rw [min_eq_right more, max_eq_right (by linarith), sub_eq_add_neg]

theorem settle_nonneg (trade : VenueTrade formats) :
    0 ≤ (position.settle trade).quantity := by
  rw [settle_quantity nonneg]
  exact le_max_left _ _

theorem settleAll_quantity (trades : List (VenueTrade formats)) :
    (position.settleAll trades).quantity =
      reflectedWalk position.quantity (trades.map position.stepOf) := by
  induction trades generalizing position with
  | nil => rfl
  | cons trade rest induction =>
      have later := induction (settle_nonneg nonneg trade)
      have steps : ((position.settle trade).stepOf : VenueTrade formats → ℚ) =
          position.stepOf := by
        unfold stepOf
        rw [settle_side]
      rw [steps, settle_quantity nonneg] at later
      exact later

end

/-! ## What is kept while nothing is cut off -/

/-- The position holds a net quantity for which some cash was paid. -/
structure Paid (position : PositionState) (net cash : ℚ) : Prop where
  quantity : position.side.sign * position.quantity = net
  cash : position.realizedPnl - position.entryPrice * net = -cash

/-- The position agrees with a replayed inventory. -/
structure Agrees (position : PositionState) (inventory : Inventory) :
    Prop where
  quantity : inventory.quantity = position.side.sign * position.quantity
  realized : inventory.realized = position.realizedPnl
  entry : position.quantity ≠ 0 → inventory.entry = position.entryPrice

section Step

variable {position : PositionState} {trade : VenueTrade formats}
  (nonneg : 0 ≤ position.quantity)
  (above : 0 ≤ position.quantity + position.stepOf trade)

include nonneg above

theorem Paid.settle {net cash : ℚ} (paid : position.Paid net cash) :
    (position.settle trade).Paid (net + trade.signed) (cash + trade.cash) := by
  have sized := trade.positive.1
  obtain ⟨quantity, spent⟩ := paid
  have square := position.side.sign_mul_sign
  have step : trade.signed = position.side.sign * position.stepOf trade :=
    (position.side.sign_mul_sign_mul _).symm
  rw [← quantity] at spent
  constructor
  · rw [settle_side, settle_quantity nonneg, max_eq_right above, mul_add,
      quantity, ← step]
  · unfold VenueTrade.cash
    rw [step, ← quantity]
    unfold PositionState.settle
    split
    · next same =>
        have grown : position.quantity + trade.size ≠ 0 := by linarith
        dsimp only
        rw [stepOf_same same, ← mul_add, mul_left_comm,
          div_mul_cancel₀ _ grown]
        linear_combination spent
    · next against =>
        rw [stepOf_against against] at above
        rw [stepOf_against against]
        unfold reduce
        dsimp only
        rw [min_eq_right (by linarith), PositionSide.signed_eq]
        linear_combination spent

/-- A trade keeps position and inventory in agreement. -/
theorem Agrees.settle {inventory : Inventory}
    (agrees : position.Agrees inventory) {symbol : String} {fact : FillFact}
    (identified : trade.IdentifiedBy symbol fact) :
    (position.settle trade).Agrees (inventory.apply fact) := by
  have sized := trade.positive.1
  obtain ⟨quantity, realized, entry⟩ := agrees
  have magnitude : |inventory.quantity| = position.quantity := by
    rw [quantity, abs_mul, abs_of_nonneg nonneg]
    cases position.side <;> norm_num [PositionSide.sign]
  have step : fact.signed = position.side.sign * position.stepOf trade := by
    rw [trade.signed_fact identified]
    exact (position.side.sign_mul_sign_mul _).symm
  have total : (inventory.apply fact).quantity =
      (position.settle trade).side.sign * (position.settle trade).quantity := by
    rw [settle_side, settle_quantity nonneg, max_eq_right above, mul_add, ← step,
      ← quantity]
    rfl
  by_cases same : position.side = PnlService.fillSide formats trade.side
  · -- The fill adds to the inventory.
    have adds : inventory.quantity = 0 ∨
        (0 < inventory.quantity ↔ 0 < fact.signed) := by
      rw [step, quantity, stepOf_same same]
      rcases nonneg.eq_or_lt with flat | held
      · left
        rw [← flat, mul_zero]
      · right
        rw [mul_pos_iff_of_pos_right held, mul_pos_iff_of_pos_right sized]
    have settled : Replay.settle inventory.quantity inventory.entry fact =
        ((position.quantity * inventory.entry + trade.size * trade.price) /
          (position.quantity + trade.size), 0) := by
      unfold Replay.settle
      dsimp only
      rw [if_pos adds, magnitude, identified.quantity, identified.price]
    have after : position.settle trade = { position with
        entryPrice := (position.quantity * position.entryPrice +
          trade.size * trade.price) / (position.quantity + trade.size)
        quantity := position.quantity + trade.size } := if_pos same
    refine ⟨total, ?_, ?_⟩
    · unfold Inventory.apply
      dsimp only
      rw [settled, after, realized, add_zero]
    · intro _
      unfold Inventory.apply
      dsimp only
      rw [settled, after]
      rcases eq_or_ne position.quantity 0 with flat | held
      · simp only [flat, zero_mul]
      · rw [entry held]
  · -- The fill closes a part of the inventory, or all of it.
    rw [stepOf_against same] at above step
    have held : 0 < position.quantity := by linarith
    have closes : ¬(inventory.quantity = 0 ∨
        (0 < inventory.quantity ↔ 0 < fact.signed)) := by
      rw [step, quantity]
      cases position.side with
      | long =>
          simp only [PositionSide.sign, one_mul, held.ne', held, false_or,
            true_iff, not_lt]
          linarith
      | short =>
          simp only [PositionSide.sign, neg_one_mul, neg_neg, neg_eq_zero,
            held.ne', false_or, sized, iff_true, not_lt]
          linarith
    have direction : (if 0 < inventory.quantity then (1 : ℚ) else -1) =
        position.side.sign := by
      rw [quantity]
      cases position.side with
      | long => simp [PositionSide.sign, held]
      | short => simp [PositionSide.sign, held.le]
    have after : position.settle trade =
        position.reduce trade.size trade.price := if_neg same
    have closed : min position.quantity trade.size = trade.size :=
      min_eq_right (by linarith)
    have settled : Replay.settle inventory.quantity inventory.entry fact =
        (if trade.size = position.quantity then 0 else inventory.entry,
          trade.size * (trade.price - inventory.entry) *
            position.side.sign) := by
      unfold Replay.settle
      dsimp only
      rw [if_neg closes, magnitude, identified.quantity, identified.price,
        closed, direction, if_neg (by linarith)]
      split <;> rfl
    refine ⟨total, ?_, ?_⟩
    · unfold Inventory.apply
      dsimp only
      rw [settled, after, realized, entry held.ne']
      unfold reduce
      dsimp only
      rw [closed, PositionSide.signed_eq]
      ring
    · intro left
      rw [after] at left ⊢
      unfold reduce at left ⊢
      dsimp only at left ⊢
      rw [closed] at left
      have part : trade.size ≠ position.quantity := by
        intro whole
        exact left (by rw [whole, sub_self])
      unfold Inventory.apply
      dsimp only
      rw [settled, if_neg part]
      exact entry held.ne'

end Step

theorem stepOf_settle (position : PositionState) (trade : VenueTrade formats) :
    ((position.settle trade).stepOf : VenueTrade formats → ℚ) =
      position.stepOf := by
  unfold stepOf
  rw [settle_side]

section Run

variable {position : PositionState} {trades : List (VenueTrade formats)}
  (stays : StaysAbove position.quantity (trades.map position.stepOf))

include stays

theorem Paid.settleAll {net cash : ℚ} (paid : position.Paid net cash) :
    (position.settleAll trades).Paid
      (net + (trades.map VenueTrade.signed).sum)
      (cash + (trades.map VenueTrade.cash).sum) := by
  induction trades generalizing position net cash with
  | nil =>
      simp only [List.map_nil, List.sum_nil, add_zero]
      exact paid
  | cons trade rest induction =>
      rw [List.map_cons, staysAbove_cons] at stays
      obtain ⟨nonneg, later⟩ := stays
      have above := later.start_nonneg
      rw [List.map_cons, List.map_cons, List.sum_cons, List.sum_cons,
        ← add_assoc, ← add_assoc]
      have remaining : StaysAbove (position.settle trade).quantity
          (rest.map (position.settle trade).stepOf) := by
        rw [stepOf_settle, settle_quantity nonneg, max_eq_right above]
        exact later
      exact induction remaining (paid.settle nonneg above)

theorem Agrees.settleAll {inventory : Inventory}
    (agrees : position.Agrees inventory) {symbol : String}
    {facts : List FillFact}
    (identified : List.Forall₂ (VenueTrade.IdentifiedBy symbol) trades facts) :
    (position.settleAll trades).Agrees (inventory.applyAll facts) := by
  induction identified generalizing position inventory with
  | nil => exact agrees
  | @cons trade fact rest facts own others induction =>
      rw [List.map_cons, staysAbove_cons] at stays
      obtain ⟨nonneg, later⟩ := stays
      have above := later.start_nonneg
      have remaining : StaysAbove (position.settle trade).quantity
          (rest.map (position.settle trade).stepOf) := by
        rw [stepOf_settle, settle_quantity nonneg, max_eq_right above]
        exact later
      exact induction remaining (agrees.settle nonneg above own)

end Run

end PositionState

/-! ## The service -/

section Service

variable {formats : TextFormats} {symbol : String}

section

variable {service : PnlService} (anonymous : service.storesOrders = false)
variable {position : PositionState}
variable (found : service.positions.get? symbol = some position)
variable (nonneg : 0 ≤ position.quantity)

include service anonymous position found nonneg

theorem PnlService.processFillForPnl_held (trade : VenueTrade formats) :
    (service.processFillForPnl formats (trade.payload symbol)).2 =
      { service with
        positions := service.positions.set symbol (position.settle trade) } := by
  have grown : position.quantity + trade.size ≠ 0 := by
    linarith [trade.positive.1]
  unfold PnlService.processFillForPnl VenueTrade.payload PositionState.settle
    PositionState.increase
  rw [anonymous]
  simp only [Bool.false_eq_true, if_false, found, if_neg grown]
  split <;> rfl

theorem PnlService.processFills_held (trades : List (VenueTrade formats)) :
    (service.processFills formats
      (trades.map (·.payload symbol))).positions.get? symbol =
        some (position.settleAll trades) := by
  induction trades generalizing service position with
  | nil => exact found
  | cons trade rest induction =>
      have step := processFillForPnl_held anonymous found nonneg trade
      unfold processFills at induction ⊢
      rw [List.map_cons, List.foldl_cons, step]
      apply induction
      · exact anonymous
      · exact Dict.get?_set_self _ _ _
      · exact PositionState.settle_nonneg nonneg trade

end

variable (symbol) in
theorem PnlService.processFills_cons (first : VenueTrade formats)
    (rest : List (VenueTrade formats)) :
    (fresh.processFills formats
      ((first :: rest).map (·.payload symbol))).positions.get? symbol =
        some ((PositionState.opened symbol first).settleAll rest) := by
  have opening : (fresh.processFillForPnl formats (first.payload symbol)).2 =
      { positions := Dict.empty.set symbol (PositionState.opened symbol first)
        storesOrders := false } := rfl
  unfold processFills
  rw [List.map_cons, List.foldl_cons, opening]
  exact processFills_held rfl (Dict.get?_set_self _ _ _) first.positive.1.le rest

theorem PnlService.getPositionPnl_found {service : PnlService}
    {position : PositionState}
    (found : service.positions.get? symbol = some position)
    (mark : Option ℚ) :
    let pnl := service.getPositionPnl symbol mark
    pnl.quantity = position.quantity ∧
      pnl.signedQuantity = position.side.sign * position.quantity ∧
      pnl.realizedPnl = position.realizedPnl ∧
      pnl.entry = some position.entryPrice ∧
      pnl.unrealizedPnl = position.side.sign *
        ((mark.getD position.entryPrice - position.entryPrice) *
          position.quantity) := by
  unfold getPositionPnl
  rw [found]
  refine ⟨rfl, ?_, rfl, rfl, ?_⟩
  · exact position.side.signed_eq _
  · exact position.side.signed_eq _

variable (symbol) in
/-- The holding keeps its sign while the walk stays above zero. -/
theorem keepsItsSign_iff (first : VenueTrade formats)
    (rest : List (VenueTrade formats)) :
    KeepsItsSign ((first :: rest).map VenueTrade.signed) ↔
      StaysAbove first.size
        (rest.map (PositionState.opened symbol first).stepOf) := by
  have sized := first.positive.1
  obtain ⟨side, side_eq⟩ :
      ∃ side, side = PnlService.fillSide formats first.side := ⟨_, rfl⟩
  have sums : ∀ taken,
      side.sign * (((first :: rest).map VenueTrade.signed).take
          (taken + 1)).sum =
        first.size + ((rest.map
          (PositionState.opened symbol first).stepOf).take taken).sum := by
    intro taken
    have steps : rest.map (PositionState.opened symbol first).stepOf =
        (rest.map VenueTrade.signed).map (side.sign * ·) := by
      rw [List.map_map, side_eq]
      rfl
    have scaled : (((rest.map VenueTrade.signed).map (side.sign * ·)).take
        taken).sum = side.sign * ((rest.map VenueTrade.signed).take taken).sum := by
      rw [← List.map_take, List.sum_map_mul_left, List.map_id']
    rw [steps, scaled, List.map_cons, List.take_succ_cons, List.sum_cons,
      mul_add, first.signed_eq, ← side_eq, side.sign_mul_sign_mul]
  have start := sums 0
  rw [List.take_zero, List.sum_nil, add_zero] at start
  unfold KeepsItsSign StaysAbove
  cases side with
  | long =>
      simp only [PositionSide.sign, one_mul] at sums start
      constructor
      · rintro (above | below) taken
        · rw [← sums]
          exact above _
        · linarith [below 1]
      · intro above
        left
        intro taken
        cases taken with
        | zero => simp
        | succ taken =>
            rw [sums]
            exact above taken
  | short =>
      simp only [PositionSide.sign, neg_one_mul] at sums start
      constructor
      · rintro (above | below) taken
        · linarith [above 1]
        · rw [← sums]
          linarith [below (taken + 1)]
      · intro above
        right
        intro taken
        cases taken with
        | zero => simp
        | succ taken =>
            have later := above taken
            rw [← sums] at later
            linarith

/-! ## The projection of trades in time order -/

theorem ambiguousFrom_single (inventory : ℚ) (groups : List (List FillFact))
    (single : ∀ group ∈ groups, group.length ≤ 1) :
    ambiguousFrom inventory groups = false := by
  induction groups generalizing inventory with
  | nil => rfl
  | cons group rest induction =>
      unfold ambiguousFrom
      rw [Bool.or_eq_false_iff]
      refine ⟨?_, induction _ fun other member =>
        single other (List.mem_cons_of_mem _ member)⟩
      have short := single group List.mem_cons_self
      rcases group with _ | ⟨fill, _ | ⟨next, others⟩⟩
      · simp [ambiguousGroup]
      · simp [ambiguousGroup, List.eraseDups_cons]
      · simp at short

theorem fillsByTime_single {facts : List FillFact}
    (ordered : facts.Pairwise fun earlier later =>
      earlier.executedAt < later.executedAt) :
    ∀ group ∈ fillsByTime facts, group.length ≤ 1 := by
  intro group member
  obtain ⟨moment, _, rfl⟩ := List.mem_map.mp member
  have apart := ordered.filter fun fill => decide (fill.executedAt = moment)
  have same : ∀ fill ∈ facts.filter
      fun fill => decide (fill.executedAt = moment), fill.executedAt = moment := by
    intro fill listed
    simpa using (List.mem_filter.mp listed).2
  generalize (facts.filter fun fill => decide (fill.executedAt = moment)) =
    group at apart same ⊢
  match group, apart, same with
  | [], _, _ => simp
  | [fill], _, _ => simp
  | first :: second :: rest, apart, same =>
      have less := List.rel_of_pairwise_cons apart List.mem_cons_self
      rw [same first (by simp), same second (by simp)] at less
      exact absurd less (lt_irrefl moment)

theorem identified_symbol {trades : List (VenueTrade formats)}
    {facts : List FillFact}
    (identified : List.Forall₂ (VenueTrade.IdentifiedBy symbol) trades facts) :
    ∀ fact ∈ facts, fact.symbol = symbol := by
  induction identified with
  | nil => exact fun _ member => nomatch member
  | cons own _ induction =>
      intro fact member
      rcases List.mem_cons.mp member with rfl | later
      · exact own.symbol
      · exact induction fact later

theorem FlatHistory.project {trades : List (VenueTrade formats)}
    (history : FlatHistory formats symbol trades) :
    projectFills symbol history.facts (some history.baseline) [] =
      .ok (replayed symbol history.baseline history.facts) := by
  have named := identified_symbol history.identified
  have relevant : relevantFills history.baseline history.facts =
      history.facts := by
    unfold relevantFills
    rw [List.filter_eq_self.mpr (by simpa using history.later)]
    apply List.mergeSort_of_pairwise
    apply history.ordered.imp
    intro earlier later before
    unfold FillFact.notAfter
    simp [before]
  have clear : ambiguousFrom history.baseline.quantity
      (fillsByTime history.facts) = false :=
    ambiguousFrom_single _ _ (fillsByTime_single history.ordered)
  unfold projectFills projectPosition replayReasons
  dsimp only
  rw [relevant, clear, if_neg (by simpa [history.about] using named)]
  rfl

theorem FlatHistory.replayed_eq {trades : List (VenueTrade formats)}
    (history : FlatHistory formats symbol trades) :
    let inventory := (Inventory.opening history.baseline).applyAll history.facts
    let projection := replayed symbol history.baseline history.facts
    projection.quantity = some inventory.quantity ∧
      projection.realizedPnl = some inventory.realized ∧
      projection.entryPrice = some inventory.entry := by
  have same := Replay.inventory_foldl (.start history.baseline) history.facts
  have opening : (Replay.start history.baseline).inventory =
      Inventory.opening history.baseline := rfl
  rw [opening] at same
  dsimp only
  rw [← same]
  exact ⟨rfl, rfl, rfl⟩

theorem opened_agrees {baseline : PositionBaseline}
    (flat : baseline.quantity = 0) {trade : VenueTrade formats}
    {fact : FillFact} (identified : trade.IdentifiedBy symbol fact) :
    (PositionState.opened symbol trade).Agrees
      ((Inventory.opening baseline).apply fact) := by
  have sized := trade.positive.1
  have settled : Replay.settle 0 (Inventory.opening baseline).entry fact =
      (trade.price, 0) := by
    unfold Replay.settle
    dsimp only
    rw [if_pos (.inl rfl), identified.quantity, identified.price, abs_zero,
      zero_mul, zero_add, zero_add, mul_div_cancel_left₀ _ sized.ne']
  have none : (Inventory.opening baseline).quantity = 0 := flat
  constructor
  · unfold Inventory.apply
    dsimp only
    rw [none, zero_add, trade.signed_fact identified, trade.signed_eq]
    rfl
  · unfold Inventory.apply
    dsimp only
    rw [none, settled]
    exact add_zero 0
  · intro _
    unfold Inventory.apply
    dsimp only
    rw [none, settled]
    rfl

variable (symbol) in
theorem opened_paid (trade : VenueTrade formats) :
    (PositionState.opened symbol trade).Paid trade.signed trade.cash := by
  constructor
  · exact trade.signed_eq.symm
  · unfold PositionState.opened VenueTrade.cash
    dsimp only
    ring

/-! ## Exact books -/

theorem keepsExactBooks_nil (formats : TextFormats) (symbol : String) :
    KeepsExactBooks formats symbol [] := by
  refine ⟨fun mark => rfl, fun mark => ?_, fun history mark => ?_⟩
  · change (0 : ℚ) + 0 = mark * 0 - 0
    ring
  · obtain ⟨quantity, realized, entry⟩ := history.replayed_eq
    have none := List.forall₂_nil_left_iff.mp history.identified
    have flat := history.flat
    refine ⟨_, history.project, ?_, ?_, fun held => absurd rfl held⟩
    · rw [quantity, none]
      exact congrArg some flat
    · rw [realized, none]
      rfl

variable (symbol) in
theorem sum_signed_cons (first : VenueTrade formats)
    (rest : List (VenueTrade formats)) :
    ((first :: rest).map VenueTrade.signed).sum =
      (PnlService.fillSide formats first.side).sign * (first.size +
        (rest.map (PositionState.opened symbol first).stepOf).sum) := by
  have steps : rest.map (PositionState.opened symbol first).stepOf =
      (rest.map VenueTrade.signed).map
        ((PnlService.fillSide formats first.side).sign * ·) := by
    rw [List.map_map]
    rfl
  rw [steps, List.sum_map_mul_left, List.map_id', List.map_cons, List.sum_cons,
    mul_add, PositionSide.sign_mul_sign_mul, first.signed_eq]

theorem keepsExactBooks_cons (first : VenueTrade formats)
    (rest : List (VenueTrade formats)) :
    KeepsExactBooks formats symbol (first :: rest) ↔
      KeepsItsSign ((first :: rest).map VenueTrade.signed) := by
  have found := PnlService.processFills_cons symbol first rest
  set position := (PositionState.opened symbol first).settleAll rest with settled
  have side : position.side = PnlService.fillSide formats first.side :=
    PositionState.settleAll_side _ rest
  rw [keepsItsSign_iff symbol]
  constructor
  · intro exact
    obtain ⟨_, signed, _⟩ := PnlService.getPositionPnl_found found none
    have quantity := signed.symm.trans (exact.quantity none)
    rw [sum_signed_cons symbol, side] at quantity
    have walked := congrArg
      ((PnlService.fillSide formats first.side).sign * ·) quantity
    rw [PositionSide.sign_mul_sign_mul, PositionSide.sign_mul_sign_mul, settled,
      PositionState.settleAll_quantity first.positive.1.le] at walked
    exact (reflectedWalk_eq_iff first.positive.1.le _).mp walked
  · intro stays
    have paid := (opened_paid symbol first).settleAll stays
    rw [← settled, ← List.sum_cons, ← List.sum_cons, ← List.map_cons,
      ← List.map_cons] at paid
    refine ⟨fun mark => ?_, fun mark => ?_, fun history mark => ?_⟩
    · obtain ⟨_, signed, _⟩ := PnlService.getPositionPnl_found found mark
      exact signed.trans paid.quantity
    · obtain ⟨_, _, realized, _, unrealized⟩ :=
        PnlService.getPositionPnl_found found (some mark)
      dsimp only at realized unrealized ⊢
      rw [realized, unrealized, Option.getD_some]
      have quantity := paid.quantity
      linear_combination (mark - position.entryPrice) * quantity + paid.cash
    · obtain ⟨held, signed, realized, entry, _⟩ :=
        PnlService.getPositionPnl_found found mark
      obtain ⟨quantities, gains, entries⟩ := history.replayed_eq
      have agrees : position.Agrees
          ((Inventory.opening history.baseline).applyAll history.facts) := by
        obtain ⟨fact, facts, own, others, listed⟩ :=
          List.forall₂_cons_left_iff.mp history.identified
        rw [listed]
        exact (opened_agrees history.flat own).settleAll stays others
      refine ⟨_, history.project, ?_, ?_, fun holds => ?_⟩
      · rw [quantities, signed, agrees.quantity]
      · rw [gains, realized, agrees.realized]
      · rw [entries, entry, agrees.entry (by rwa [held] at holds)]

end Service

/-- The service keeps exact books of the trades of a product exactly when their
net quantity never changes its sign. -/
theorem keepsExactBooks_iff (formats : TextFormats) (symbol : String)
    (trades : List (VenueTrade formats)) :
    KeepsExactBooks formats symbol trades ↔
      KeepsItsSign (trades.map VenueTrade.signed) := by
  cases trades with
  | nil =>
      refine ⟨fun _ => .inl fun taken => ?_, fun _ =>
        keepsExactBooks_nil formats symbol⟩
      simp
  | cons first rest => exact keepsExactBooks_cons first rest

def flippedCoins : List (VenueTrade plainContext.formats) :=
  [{ side := "buy"
     size := 1
     price := 100
     sided := .inl (by decide +kernel)
     positive := FillFact.one_at_hundred },
   { side := "sell"
     size := 2
     price := 110
     sided := .inr (by decide +kernel)
     positive := by norm_num }]

/-- The position is flat where one coin is owed, and ten dollars of profit are
booked where a hundred and twenty were received for the coin owed. -/
theorem flipped_coins_are_dropped :
    let pnl := (PnlService.fresh.processFills plainContext.formats
      (flippedCoins.map (·.payload "BTC-USD"))).getPositionPnl "BTC-USD"
        (some 115)
    (pnl.signedQuantity = 0 ∧
        (flippedCoins.map VenueTrade.signed).sum = -1) ∧
      (pnl.realizedPnl + pnl.unrealizedPnl = 10 ∧
        115 * (flippedCoins.map VenueTrade.signed).sum -
          (flippedCoins.map VenueTrade.cash).sum = 5) ∧
      ¬KeepsExactBooks plainContext.formats "BTC-USD" flippedCoins := by
  have dropped : (((PnlService.fresh.processFills plainContext.formats
      (flippedCoins.map (·.payload "BTC-USD"))).getPositionPnl "BTC-USD"
        (some 115)).signedQuantity = 0 ∧
        (flippedCoins.map VenueTrade.signed).sum = -1) := by
    decide +kernel
  refine ⟨dropped, by decide +kernel, fun exact => ?_⟩
  have owed := exact.quantity (some 115)
  rw [dropped.1, dropped.2] at owed
  norm_num at owed

end GptTrader
