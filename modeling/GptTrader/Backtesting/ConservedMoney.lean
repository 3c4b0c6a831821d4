import Mathlib.Algebra.Order.BigOperators.Group.List
import GptTrader.Backtesting.BrokerRuns

/-!
# Simulated money over a run

What is on hold is the margin of the open positions, and what the completed trades
earned is what the balance gained, as long as positions are added to at their own
leverage and the fee of the fill that opens a position is nothing.
-/

namespace GptTrader

/-! ## Margin on hold -/

/-- The margin a position locks. -/
def SimulatedPosition.margin (position : SimulatedPosition) : ℚ :=
  |position.quantity| * position.entryPrice / leverageFactor position.leverage

/-- A position that is open, at a price and leverage that lock margin. -/
structure SimulatedPosition.Sound (position : SimulatedPosition) : Prop where
  opened : 0 < |position.quantity|
  priced : 0 ≤ position.entryPrice
  levered : 0 < leverageFactor position.leverage

theorem SimulatedPosition.Sound.margin_nonneg {position : SimulatedPosition}
    (sound : position.Sound) : 0 ≤ position.margin :=
  div_nonneg (mul_nonneg (abs_nonneg _) sound.priced) sound.levered.le

namespace ProcessedFill

variable (processed : ProcessedFill)

def quantity : ℚ :=
  SimulatedBroker.filledQuantityOf processed.order processed.fill

def side : TradeSide :=
  SimulatedBroker.openedSide processed.order.side

def position : Option SimulatedPosition :=
  processed.broker.positions.get? processed.order.symbol

/-- The fill takes no more than the position it reduces. -/
def OnlyReduces : Prop :=
  ∃ position, processed.position = some position ∧
    processed.side ≠ position.side ∧ processed.quantity ≤ |position.quantity|

/-- The fill has a quantity, locks margin at a price and leverage that are not
negative, and adds to a position at its own leverage. -/
structure LocksEvenly : Prop where
  sized : 0 < processed.quantity
  locked : ¬processed.OnlyReduces →
    (∀ price, processed.fill.fillPrice = some price → 0 ≤ price) ∧
      0 < leverageFactor processed.leverage
  level : ∀ position, processed.position = some position →
    processed.side = position.side →
      leverageFactor processed.leverage = leverageFactor position.leverage

end ProcessedFill

namespace SimulatedBroker

/-- The total is available or on hold, and what is on hold is the margin of the
open positions. -/
structure MarginHeld (books : Books) : Prop where
  balanced : books.usdc.total = books.usdc.available + books.usdc.hold
  held : books.usdc.hold =
    books.positions.sumBy fun _ position => position.margin
  sound : ∀ symbol position, books.positions.get? symbol = some position →
    position.Sound

theorem abs_signedQuantity (side : TradeSide) {quantity : ℚ}
    (sized : 0 < quantity) : |signedQuantity side quantity| = quantity := by
  cases side with
  | long => exact abs_of_pos sized
  | short => exact (abs_neg _).trans (abs_of_pos sized)

theorem leverageFactor_orLeverage {leverage other : Option ℤ}
    (level : leverageFactor leverage = leverageFactor other) :
    leverageFactor (orLeverage leverage other) = leverageFactor other := by
  cases leverage with
  | none => rfl
  | some value =>
      by_cases zero : value = 0
      · unfold orLeverage
        dsimp only
        rw [if_pos zero]
      · unfold orLeverage
        dsimp only
        rw [if_neg zero]
        exact level

section Margin

variable {broker : SimulatedBroker} {symbol : String}

theorem MarginHeld.margin_le_hold (held : MarginHeld broker.books)
    {position : SimulatedPosition}
    (found : broker.positions.get? symbol = some position) :
    position.margin ≤ broker.usdc.hold := by
  have bound := Dict.weightAt_le_sumBy _ _ symbol
    (fun name other listed => (held.sound name other listed).margin_nonneg)
  unfold Dict.weightAt at bound
  change (broker.positions.get? symbol).elim 0 _ ≤ _ at bound
  rw [found] at bound
  exact bound.trans held.held.ge

theorem MarginHeld.set_position (held : MarginHeld broker.books)
    {after : Books} {position : SimulatedPosition}
    (positions : after.positions = broker.positions.set symbol position)
    (balanced : after.usdc.total = after.usdc.available + after.usdc.hold)
    (hold : after.usdc.hold = broker.usdc.hold -
      (broker.positions.get? symbol).elim 0 SimulatedPosition.margin +
        position.margin)
    (sound : position.Sound) : MarginHeld after := by
  refine ⟨balanced, ?_, ?_⟩
  · rw [hold, positions, Dict.sumBy_set]
    have before := held.held
    change broker.usdc.hold = broker.positions.sumBy _ at before
    rw [before]
    rfl
  · intro name other listed
    rw [positions, Dict.get?_set] at listed
    split at listed
    · cases listed
      exact sound
    · exact held.sound name other listed

theorem MarginHeld.openPosition (held : MarginHeld broker.books)
    (absent : broker.positions.get? symbol = none) (side : TradeSide)
    {quantity price : ℚ} {leverage : Option ℤ} (sized : 0 < quantity)
    (priced : 0 ≤ price) (levered : 0 < leverageFactor leverage) :
    MarginHeld (broker.openPosition symbol side quantity price leverage).books := by
  have balanced := held.balanced
  change broker.usdc.total = broker.usdc.available + broker.usdc.hold at balanced
  apply held.set_position rfl
  · change broker.usdc.total = broker.usdc.available -
      quantity * price / leverageFactor leverage +
        (broker.usdc.hold + quantity * price / leverageFactor leverage)
    linarith
  · unfold SimulatedPosition.margin
    dsimp only
    rw [absent, abs_signedQuantity side sized, Option.elim_none, sub_zero]
    rfl
  · refine ⟨?_, priced, levered⟩
    dsimp only
    rw [abs_signedQuantity side sized]
    exact sized

section

variable (held : MarginHeld broker.books) {position : SimulatedPosition}
variable (found : broker.positions.get? symbol = some position)

include held position found

theorem MarginHeld.addToPosition {quantity price : ℚ} {leverage : Option ℤ}
    (sized : 0 < quantity) (priced : 0 ≤ price)
    (level : leverageFactor leverage = leverageFactor position.leverage) :
    MarginHeld (broker.addToPosition symbol position quantity price
      leverage).2.books := by
  have balanced := held.balanced
  change broker.usdc.total = broker.usdc.available + broker.usdc.hold at balanced
  have sound := held.sound symbol position found
  have grown : 0 < |position.quantity| + quantity := by
    linarith [sound.opened]
  unfold SimulatedBroker.addToPosition simulatedQuotient
  dsimp only
  rw [if_neg grown.ne']
  apply held.set_position rfl
  · change broker.usdc.total = broker.usdc.available -
      quantity * price / leverageFactor leverage +
        (broker.usdc.hold + quantity * price / leverageFactor leverage)
    linarith
  · have margin : (|position.quantity| + quantity) *
        ((|position.quantity| * position.entryPrice + quantity * price) /
          (|position.quantity| + quantity)) =
        |position.quantity| * position.entryPrice + quantity * price :=
      mul_div_cancel₀ _ grown.ne'
    change broker.usdc.hold + quantity * price / leverageFactor leverage = _
    unfold SimulatedPosition.margin
    dsimp only
    rw [found, abs_signedQuantity position.side grown, margin,
      leverageFactor_orLeverage level, level, Option.elim_some, add_div]
    ring
  · refine ⟨?_, ?_, ?_⟩
    · dsimp only
      rw [abs_signedQuantity position.side grown]
      exact grown
    · apply div_nonneg _ grown.le
      exact add_nonneg (mul_nonneg (abs_nonneg _) sound.priced)
        (mul_nonneg sized.le priced)
    · dsimp only
      rw [leverageFactor_orLeverage level]
      exact sound.levered

theorem MarginHeld.closePart {closing : ℚ} (part : closing ≤ |position.quantity|)
    (price tradeFees : ℚ) :
    let after := (broker.closePart symbol position closing price tradeFees).usdc
    after.hold = broker.usdc.hold - closing * position.entryPrice /
        leverageFactor position.leverage ∧
      after.total = after.available + after.hold := by
  have balanced := held.balanced
  change broker.usdc.total = broker.usdc.available + broker.usdc.hold at balanced
  have sound := held.sound symbol position found
  have released : closing * position.entryPrice /
      leverageFactor position.leverage ≤ broker.usdc.hold := by
    apply le_trans _ (held.margin_le_hold found)
    exact div_le_div_of_nonneg_right
      (mul_le_mul_of_nonneg_right part sound.priced) sound.levered.le
  have kept : max 0 (broker.usdc.hold - closing * position.entryPrice /
      leverageFactor position.leverage) =
      broker.usdc.hold - closing * position.entryPrice /
        leverageFactor position.leverage :=
    max_eq_right (by linarith)
  dsimp only [SimulatedBroker.closePart, creditPnl, releaseMargin]
  rw [kept]
  refine ⟨rfl, ?_⟩
  linarith

theorem MarginHeld.reducePosition (side : TradeSide) {quantity price : ℚ}
    {leverage : Option ℤ}
    (locked : ¬quantity ≤ |position.quantity| →
      0 ≤ price ∧ 0 < leverageFactor leverage) :
    MarginHeld (broker.reducePosition symbol position side quantity price
      leverage).books := by
  have sound := held.sound symbol position found
  obtain ⟨hold, balanced⟩ := held.closePart found
    (min_le_right quantity |position.quantity|) price
    ((broker.positionEntryFees.get? symbol).getD 0 *
      closeRatio (min quantity |position.quantity|) |position.quantity|)
  unfold SimulatedBroker.reducePosition
  dsimp only
  split
  · next remains =>
      apply held.set_position rfl balanced
      · refine hold.trans ?_
        unfold SimulatedPosition.margin
        dsimp only
        rw [found, abs_signedQuantity position.side remains, Option.elim_some]
        ring
      · refine ⟨?_, sound.priced, sound.levered⟩
        dsimp only
        rw [abs_signedQuantity position.side remains]
        exact remains
  · next closed =>
      have whole : min quantity |position.quantity| = |position.quantity| := by
        apply le_antisymm (min_le_right _ _)
        linarith
      set flat : SimulatedBroker := { broker.closePart symbol position
          (min quantity |position.quantity|) price
          ((broker.positionEntryFees.get? symbol).getD 0 *
            closeRatio (min quantity |position.quantity|) |position.quantity|) with
          positionEntryTimes := broker.positionEntryTimes.erase symbol
          positionEntryFees := broker.positionEntryFees.erase symbol
          positions := broker.positions.erase symbol } with flat_eq
      have flatHeld : MarginHeld flat.books := by
        refine ⟨balanced, ?_, ?_⟩
        · refine hold.trans ?_
          have before := held.held
          change broker.usdc.hold = broker.positions.sumBy _ at before
          change _ = (broker.positions.erase symbol).sumBy _
          rw [Dict.sumBy_erase, ← before, whole]
          unfold Dict.weightAt
          rw [found]
          rfl
        · intro name other listed
          change (broker.positions.erase symbol).get? name = some other at listed
          rw [Dict.get?_erase] at listed
          split at listed
          · cases listed
          · exact held.sound name other listed
      split
      · next flips =>
          obtain ⟨priced, levered⟩ := locked (by linarith)
          apply flatHeld.openPosition _ side flips priced levered
          change (broker.positions.erase symbol).get? symbol = none
          rw [Dict.get?_erase, if_pos rfl]
      · exact flatHeld

end

/-- A fill that locks evenly keeps the margins held. -/
theorem MarginHeld.processFill {processed : ProcessedFill}
    (evenly : processed.LocksEvenly)
    (held : MarginHeld processed.broker.books) :
    MarginHeld (processed.broker.processFill processed.order processed.fill
      processed.leverage).2.books := by
  obtain ⟨broker, order, fill, leverage⟩ := processed
  dsimp only at held ⊢
  unfold SimulatedBroker.processFill
  split
  · next price filled priced =>
      dsimp only
      set charged := broker.chargeFee order.symbol (broker.feeOf order fill price)
      have chargedHeld : MarginHeld charged.books := by
        refine ⟨?_, held.held, held.sound⟩
        have balanced := held.balanced
        change broker.usdc.total = broker.usdc.available + broker.usdc.hold
          at balanced
        change broker.usdc.total - _ = broker.usdc.available - _ + broker.usdc.hold
        linarith
      have updated : MarginHeld (charged.updatePosition order.symbol order.side
          (filledQuantityOf order fill) price leverage).2.books := by
        unfold updatePosition
        cases found : charged.positions.get? order.symbol with
        | none =>
            have opens : ¬ProcessedFill.OnlyReduces
                ⟨broker, order, fill, leverage⟩ := by
              rintro ⟨position, listed, _⟩
              cases found.symm.trans listed
            obtain ⟨nonneg, levered⟩ := evenly.locked opens
            exact chargedHeld.openPosition found _ evenly.sized
              (nonneg price priced) levered
        | some position =>
            dsimp only
            split
            · next same =>
                have adds : ¬ProcessedFill.OnlyReduces
                    ⟨broker, order, fill, leverage⟩ := by
                  rintro ⟨other, listed, against, _⟩
                  cases found.symm.trans listed
                  exact against same
                obtain ⟨nonneg, _⟩ := evenly.locked adds
                exact chargedHeld.addToPosition found evenly.sized
                  (nonneg price priced) (evenly.level position found same)
            · next against =>
                apply chargedHeld.reducePosition found
                intro flips
                have opens : ¬ProcessedFill.OnlyReduces
                    ⟨broker, order, fill, leverage⟩ := by
                  rintro ⟨other, listed, _, within⟩
                  cases found.symm.trans listed
                  exact flips within
                obtain ⟨nonneg, levered⟩ := evenly.locked opens
                exact ⟨nonneg price priced, levered⟩
      rcases result : charged.updatePosition order.symbol order.side
          (filledQuantityOf order fill) price leverage with ⟨error | ⟨⟩, after⟩
      · rw [result] at updated
        exact updated
      · rw [result] at updated
        exact ⟨updated.balanced, updated.held, updated.sound⟩
  · exact held

theorem marginHeld_kept :
    Kept ProcessedFill.LocksEvenly fun _ books => MarginHeld books where
  fills := fun _ _ evenly held => held.processFill evenly
  marks := by
    intro _ broker symbol mark held
    unfold updatePositionMarks
    split
    · exact held
    · next position found =>
        apply held.set_position rfl
        · exact held.balanced
        · change broker.usdc.hold = _
          rw [found, Option.elim_some]
          unfold SimulatedPosition.margin
          dsimp only
          ring
        · obtain ⟨opened, priced, levered⟩ := held.sound symbol position found
          exact ⟨opened, priced, levered⟩
  time := fun _ _ _ held => ⟨held.balanced, held.held, held.sound⟩

end Margin

end SimulatedBroker

/-! ## Fees of completed trades -/

namespace ProcessedFill

variable (processed : ProcessedFill)

def OpensTimed : Prop :=
  processed.position = none → processed.broker.simulationTime.isSome = true

/-- The fee charged when the fill opens a position. -/
def openingFee : ℚ :=
  match processed.position, processed.fill.filled, processed.fill.fillPrice with
  | none, true, some price =>
      processed.broker.feeOf processed.order processed.fill price
  | _, _, _ => 0

end ProcessedFill

namespace SimulatedBroker

/-- The net profits of the closed trades. -/
def netGains (trades : List CompletedTrade) : ℚ :=
  (trades.map CompletedTrade.netPnl).sum

def openFees (fees : Dict String ℚ) : ℚ :=
  fees.sumBy fun _ fee => fee

theorem openFees_set (fees : Dict String ℚ) (symbol : String) (fee : ℚ) :
    openFees (fees.set symbol fee) =
      openFees fees - (fees.get? symbol).getD 0 + fee := by
  unfold openFees
  rw [Dict.sumBy_set]
  unfold Dict.weightAt
  cases fees.get? symbol <;> rfl

theorem openFees_erase (fees : Dict String ℚ) (symbol : String) :
    openFees (fees.erase symbol) =
      openFees fees - (fees.get? symbol).getD 0 := by
  unfold openFees
  rw [Dict.sumBy_erase]
  unfold Dict.weightAt
  cases fees.get? symbol <;> rfl

/-- Every open position has its entry time and no other symbol has entry fees. -/
structure Tracked (books : Books) : Prop where
  timed : ∀ symbol position, books.positions.get? symbol = some position →
    books.simulationTime.isSome = true ∧
      (books.entryTimes.get? symbol).isSome = true
  kept : ∀ symbol, books.positions.get? symbol = none →
    books.entryFees.get? symbol = none

/-- The completed trades earned what the balance gained, but for the fees kept
for the open positions and those of the fills that opened one. -/
structure FeesAttributed (done : List ProcessedFill) (books : Books) : Prop where
  tracked : Tracked books
  earned : netGains books.completedTrades =
    books.usdc.total - books.initialEquity + openFees books.entryFees +
      (done.map ProcessedFill.openingFee).sum

section Fees

variable {broker : SimulatedBroker} {symbol : String} {opened : ℚ}

/-- Closed trades and open fees explain the change of money. -/
def Earned (broker : SimulatedBroker) (opened : ℚ) : Prop :=
  netGains broker.completedTrades =
    broker.usdc.total - broker.initialEquity +
      openFees broker.positionEntryFees + opened

theorem Earned.chargeFee (earned : Earned broker opened) (symbol : String)
    (fee : ℚ) :
    Earned (broker.chargeFee symbol fee) opened := by
  unfold Earned at earned ⊢
  unfold SimulatedBroker.chargeFee
  dsimp only
  rw [earned, openFees_set]
  ring

theorem Earned.openPosition (earned : Earned broker opened) (symbol : String)
    (side : TradeSide) (quantity price : ℚ) (leverage : Option ℤ) :
    Earned (broker.openPosition symbol side quantity price leverage)
      (opened + (broker.positionEntryFees.get? symbol).getD 0) := by
  unfold Earned at earned ⊢
  unfold SimulatedBroker.openPosition
  dsimp only [lockMargin]
  rw [earned, openFees_set]
  ring

theorem Tracked.openPosition
    (timed : ∀ name position, broker.positions.get? name = some position →
      (broker.positionEntryTimes.get? name).isSome = true)
    (kept : ∀ name, name ≠ symbol → broker.positions.get? name = none →
      broker.positionEntryFees.get? name = none)
    (started : broker.simulationTime.isSome = true) (side : TradeSide)
    (quantity price : ℚ) (leverage : Option ℤ) :
    Tracked (broker.openPosition symbol side quantity price leverage).books := by
  obtain ⟨time, now⟩ := Option.isSome_iff_exists.mp started
  have entered : (broker.openPosition symbol side quantity price
      leverage).positionEntryTimes = broker.positionEntryTimes.set symbol time := by
    unfold SimulatedBroker.openPosition
    dsimp only
    rw [now]
  constructor
  · intro name position listed
    change (broker.positions.set symbol _).get? name = some position at listed
    refine ⟨started, ?_⟩
    change ((broker.openPosition symbol side quantity price
      leverage).positionEntryTimes.get? name).isSome = true
    rw [entered, Dict.get?_set]
    rw [Dict.get?_set] at listed
    split
    · rfl
    · next other =>
        rw [if_neg other] at listed
        exact timed name position listed
  · intro name absent
    change (broker.positions.set symbol _).get? name = none at absent
    change (broker.positionEntryFees.set symbol 0).get? name = none
    rw [Dict.get?_set] at absent ⊢
    split at absent
    · cases absent
    · next other =>
        rw [if_neg other]
        exact kept name other absent

theorem Tracked.set_position (tracked : Tracked broker.books) {after : Books}
    {old position : SimulatedPosition}
    (found : broker.positions.get? symbol = some old)
    (positions : after.positions = broker.positions.set symbol position)
    (times : after.entryTimes = broker.positionEntryTimes)
    (time : after.simulationTime = broker.simulationTime)
    (fees : ∀ name, name ≠ symbol → broker.positionEntryFees.get? name = none →
      after.entryFees.get? name = none) : Tracked after := by
  constructor
  · intro name other listed
    rw [positions, Dict.get?_set] at listed
    rw [times, time]
    split at listed
    · next same =>
        rw [same]
        exact tracked.timed symbol old found
    · exact tracked.timed name other listed
  · intro name absent
    rw [positions, Dict.get?_set] at absent
    split at absent
    · cases absent
    · next other => exact fees name other (tracked.kept name absent)

section

variable (earned : Earned broker opened) (tracked : Tracked broker.books)
variable {position : SimulatedPosition}
variable (found : broker.positions.get? symbol = some position)

include earned tracked position found

theorem Earned.closePart (closing price tradeFees : ℚ) :
    let closed := broker.closePart symbol position closing price tradeFees
    netGains closed.completedTrades =
      closed.usdc.total - broker.initialEquity +
        (openFees broker.positionEntryFees - tradeFees) + opened := by
  obtain ⟨started, entered⟩ := tracked.timed symbol position found
  obtain ⟨now, clock⟩ := Option.isSome_iff_exists.mp started
  obtain ⟨entry, since⟩ := Option.isSome_iff_exists.mp entered
  change broker.simulationTime = some now at clock
  change broker.positionEntryTimes.get? symbol = some entry at since
  unfold Earned at earned
  unfold netGains at earned ⊢
  dsimp only [SimulatedBroker.closePart, creditPnl, releaseMargin]
  rw [clock, since]
  dsimp only
  rw [List.map_append, List.sum_append, earned]
  rw [List.map_singleton, List.sum_singleton]
  dsimp only [CompletedTrade.fromPositionClose]
  ring

theorem Earned.reducePosition (side : TradeSide) (quantity price : ℚ)
    (leverage : Option ℤ) :
    let after := broker.reducePosition symbol position side quantity price
      leverage
    Earned after opened ∧ Tracked after.books := by
  have closes := earned.closePart tracked found
    (min quantity |position.quantity|) price
    ((broker.positionEntryFees.get? symbol).getD 0 *
      closeRatio (min quantity |position.quantity|) |position.quantity|)
  obtain ⟨started, _⟩ := tracked.timed symbol position found
  unfold SimulatedBroker.reducePosition
  dsimp only at closes ⊢
  split
  · constructor
    · unfold Earned
      refine closes.trans ?_
      dsimp only
      rw [openFees_set]
      change _ = _ - broker.initialEquity + _ + opened
      ring
    · apply tracked.set_position found rfl rfl rfl
      intro name other absent
      change (broker.positionEntryFees.set symbol _).get? name = none
      rw [Dict.get?_set, if_neg other]
      exact absent
  · next closed =>
      have whole : min quantity |position.quantity| = |position.quantity| := by
        apply le_antisymm (min_le_right _ _)
        linarith
      have ratio : closeRatio |position.quantity| |position.quantity| = 1 := by
        unfold closeRatio
        split
        · next positive => exact div_self positive.ne'
        · rfl
      set flat : SimulatedBroker := { broker.closePart symbol position
          (min quantity |position.quantity|) price
          ((broker.positionEntryFees.get? symbol).getD 0 *
            closeRatio (min quantity |position.quantity|) |position.quantity|) with
          positionEntryTimes := broker.positionEntryTimes.erase symbol
          positionEntryFees := broker.positionEntryFees.erase symbol
          positions := broker.positions.erase symbol } with flat_eq
      have fees : openFees flat.positionEntryFees =
          openFees broker.positionEntryFees -
            (broker.positionEntryFees.get? symbol).getD 0 *
              closeRatio (min quantity |position.quantity|)
                |position.quantity| := by
        change openFees (broker.positionEntryFees.erase symbol) = _
        rw [openFees_erase, whole, ratio, mul_one]
      have flatEarned : Earned flat opened := by
        unfold Earned
        rw [fees]
        exact closes
      have others : ∀ name other, flat.positions.get? name = some other →
          name ≠ symbol ∧ broker.positions.get? name = some other := by
        intro name other listed
        change (broker.positions.erase symbol).get? name = some other at listed
        rw [Dict.get?_erase] at listed
        split at listed
        · cases listed
        · next different => exact ⟨different, listed⟩
      have timed : ∀ name other, flat.positions.get? name = some other →
          (flat.positionEntryTimes.get? name).isSome = true := by
        intro name other listed
        obtain ⟨different, before⟩ := others name other listed
        change ((broker.positionEntryTimes.erase symbol).get? name).isSome = true
        rw [Dict.get?_erase, if_neg different]
        exact (tracked.timed name other before).2
      have kept : ∀ name, flat.positions.get? name = none →
          flat.positionEntryFees.get? name = none := by
        intro name absent
        change (broker.positions.erase symbol).get? name = none at absent
        change (broker.positionEntryFees.erase symbol).get? name = none
        rw [Dict.get?_erase] at absent ⊢
        split
        · rfl
        · next different =>
            rw [if_neg different] at absent
            exact tracked.kept name absent
      split
      · constructor
        · have reopened := flatEarned.openPosition symbol side
            (quantity - |position.quantity|) price leverage
          have forgotten : flat.positionEntryFees.get? symbol = none := by
            change (broker.positionEntryFees.erase symbol).get? symbol = none
            rw [Dict.get?_erase, if_pos rfl]
          rw [forgotten, Option.getD_none, add_zero] at reopened
          exact reopened
        · apply Tracked.openPosition timed
          · intro name _ absent
            exact kept name absent
          · exact started
      · exact ⟨flatEarned,
          fun name other listed => ⟨started, timed name other listed⟩, kept⟩

end

theorem feesAttributed_snoc {done : List ProcessedFill}
    {processed : ProcessedFill} :
    FeesAttributed (done ++ [processed]) broker.books ↔
      Earned broker ((done.map ProcessedFill.openingFee).sum +
        processed.openingFee) ∧ Tracked broker.books := by
  have sums : ((done ++ [processed]).map ProcessedFill.openingFee).sum =
      (done.map ProcessedFill.openingFee).sum + processed.openingFee := by
    rw [List.map_append, List.sum_append, List.map_singleton, List.sum_singleton]
  constructor
  · intro attributed
    have earned := attributed.earned
    rw [sums] at earned
    exact ⟨earned, attributed.tracked⟩
  · intro ⟨earned, tracked⟩
    refine ⟨tracked, ?_⟩
    rw [sums]
    exact earned

/-- A fill keeps every fee with its position or trade. -/
theorem FeesAttributed.processFill {done : List ProcessedFill}
    {processed : ProcessedFill} (timed : processed.OpensTimed)
    (attributed : FeesAttributed done processed.broker.books) :
    FeesAttributed (done ++ [processed])
      (processed.broker.processFill processed.order processed.fill
        processed.leverage).2.books := by
  obtain ⟨broker, order, fill, leverage⟩ := processed
  obtain ⟨tracked, earned⟩ := attributed
  change Earned broker (done.map ProcessedFill.openingFee).sum at earned
  rw [feesAttributed_snoc]
  unfold SimulatedBroker.processFill
  dsimp only at tracked ⊢
  split
  · next price filled priced =>
      set charged := broker.chargeFee order.symbol (broker.feeOf order fill price)
        with charged_eq
      have chargedEarned := earned.chargeFee order.symbol
        (broker.feeOf order fill price)
      have otherFees : ∀ name, name ≠ order.symbol →
          broker.positions.get? name = none →
          charged.positionEntryFees.get? name = none := by
        intro name other absent
        change (broker.positionEntryFees.set order.symbol _).get? name = none
        rw [Dict.get?_set, if_neg other]
        exact tracked.kept name absent
      have updated : let after := (charged.updatePosition order.symbol order.side
            (filledQuantityOf order fill) price leverage).2
          Earned after ((done.map ProcessedFill.openingFee).sum +
            ProcessedFill.openingFee ⟨broker, order, fill, leverage⟩) ∧
          Tracked after.books := by
        dsimp only
        unfold updatePosition
        cases found : charged.positions.get? order.symbol with
        | none =>
            change broker.positions.get? order.symbol = none at found
            have fee : ProcessedFill.openingFee ⟨broker, order, fill, leverage⟩ =
                (charged.positionEntryFees.get? order.symbol).getD 0 := by
              unfold ProcessedFill.openingFee ProcessedFill.position
              dsimp only
              rw [found, filled, priced]
              change _ = ((broker.positionEntryFees.set order.symbol _).get?
                order.symbol).getD 0
              have none := tracked.kept order.symbol found
              change broker.positionEntryFees.get? order.symbol = Option.none
                at none
              rw [Dict.get?_set, if_pos rfl, none]
              exact (zero_add _).symm
            rw [fee]
            refine ⟨chargedEarned.openPosition _ _ _ _ _, ?_⟩
            apply Tracked.openPosition
            · intro name position listed
              exact (tracked.timed name position listed).2
            · exact otherFees
            · exact timed found
        | some position =>
            change broker.positions.get? order.symbol = some position at found
            have fee : ProcessedFill.openingFee ⟨broker, order, fill, leverage⟩ =
                0 := by
              unfold ProcessedFill.openingFee ProcessedFill.position
              dsimp only
              rw [found]
            have chargedTracked : Tracked charged.books := by
              refine ⟨tracked.timed, ?_⟩
              intro name absent
              change broker.positions.get? name = none at absent
              apply otherFees name _ absent
              intro same
              rw [same, found] at absent
              cases absent
            rw [fee, add_zero]
            dsimp only
            split
            · unfold SimulatedBroker.addToPosition
              dsimp only
              split
              · exact ⟨chargedEarned, chargedTracked⟩
              · refine ⟨chargedEarned, ?_⟩
                apply chargedTracked.set_position found rfl rfl rfl
                intro name _ absent
                exact absent
            · exact chargedEarned.reducePosition chargedTracked found _ _ _ _
      rcases result : charged.updatePosition order.symbol order.side
          (filledQuantityOf order fill) price leverage with ⟨error | ⟨⟩, after⟩
      · rw [result] at updated
        exact updated
      · rw [result] at updated
        exact ⟨updated.1, updated.2.timed, updated.2.kept⟩
  · next unfilled =>
      have fee : ProcessedFill.openingFee ⟨broker, order, fill, leverage⟩ = 0 := by
        unfold ProcessedFill.openingFee
        split
        · next price _ filled priced => exact (unfilled price filled priced).elim
        · rfl
      rw [fee, add_zero]
      exact ⟨earned, tracked⟩

theorem feesAttributed_kept :
    Kept ProcessedFill.OpensTimed FeesAttributed where
  fills := fun _ _ timed attributed => attributed.processFill timed
  marks := by
    intro done broker symbol mark attributed
    unfold updatePositionMarks
    split
    · exact attributed
    · next position found =>
        refine ⟨?_, attributed.earned⟩
        apply attributed.tracked.set_position found rfl rfl rfl
        intro name _ absent
        exact absent
  time := by
    intro done broker time attributed
    refine ⟨⟨?_, attributed.tracked.kept⟩, attributed.earned⟩
    intro symbol position listed
    exact ⟨rfl, (attributed.tracked.timed symbol position listed).2⟩

end Fees

/-! ## Conserved money -/

/-- The total is available or on hold, and what is on hold is the margin of what is
open. -/
structure Balanced (broker : SimulatedBroker) : Prop where
  total : broker.usdc.total = broker.usdc.available + broker.usdc.hold
  held : broker.usdc.hold =
    broker.positions.sumBy fun _ position => position.margin

/-- A flat account has gained what its completed trades earned. -/
def EarnsWhenFlat (broker : SimulatedBroker) : Prop :=
  broker.positions = .empty →
    netGains broker.completedTrades = broker.usdc.total - broker.initialEquity

theorem fresh_marginHeld (initialEquity : ℚ) (feeTier : FeeTier)
    (fillModel : OrderFillModel) :
    MarginHeld (fresh initialEquity feeTier fillModel).books where
  balanced := (add_zero initialEquity).symm
  held := rfl
  sound := by
    intro symbol position listed
    cases listed

theorem fresh_feesAttributed (initialEquity : ℚ) (feeTier : FeeTier)
    (fillModel : OrderFillModel) :
    FeesAttributed [] (fresh initialEquity feeTier fillModel).books where
  tracked :=
    { timed := by
        intro symbol position listed
        cases listed
      kept := fun _ _ => rfl }
  earned := by
    change (0 : ℚ) = initialEquity - initialEquity + 0 + 0
    ring

theorem Tracked.openFees_flat {broker : SimulatedBroker}
    (tracked : Tracked broker.books) (flat : broker.positions = .empty) :
    openFees broker.positionEntryFees = 0 := by
  have none : broker.positionEntryFees.entries = [] := by
    rw [List.eq_nil_iff_forall_not_mem]
    intro ⟨symbol, fee⟩ member
    have kept := tracked.kept symbol (by
      change broker.positions.get? symbol = none
      rw [flat]
      rfl)
    rw [Dict.get?_eq_none_iff] at kept
    exact kept (List.mem_map.mpr ⟨(symbol, fee), member, rfl⟩)
  unfold openFees Dict.sumBy
  rw [none]
  rfl

/-- Once it is flat, an account whose positions were opened in simulation time
has lost the fees of the opening fills besides what its trades say. -/
theorem flat_run_earned {initialEquity : ℚ} {feeTier : FeeTier}
    {fillModel : OrderFillModel} {calls : List BrokerCall}
    (timed : ∀ processed ∈
      (fresh initialEquity feeTier fillModel).runFills calls,
        processed.OpensTimed)
    (flat : ((fresh initialEquity feeTier fillModel).run calls).positions =
      .empty) :
    let broker := (fresh initialEquity feeTier fillModel).run calls
    netGains broker.completedTrades =
      broker.usdc.total - broker.initialEquity +
        (((fresh initialEquity feeTier fillModel).runFills calls).map
          ProcessedFill.openingFee).sum := by
  have attributed := run_kept feesAttributed_kept []
    (fresh initialEquity feeTier fillModel) calls timed
    (fresh_feesAttributed initialEquity feeTier fillModel)
  rw [List.nil_append] at attributed
  have earned := attributed.earned
  have none := attributed.tracked.openFees_flat flat
  change netGains _ = _ - _ + openFees _ + _ at earned
  dsimp only
  refine earned.trans ?_
  change _ - _ + openFees
    ((fresh initialEquity feeTier fillModel).run calls).positionEntryFees + _ = _
  rw [none, add_zero]
  rfl

end SimulatedBroker

/-- A fill opens a position in simulation time and for no fee, if it opens one. -/
structure ProcessedFill.OpensFree (processed : ProcessedFill) : Prop where
  timed : processed.OpensTimed
  free : processed.openingFee = 0

instance (processed : ProcessedFill) : Decidable processed.OnlyReduces :=
  decidable_of_iff
    (processed.position.any fun position =>
      decide (processed.side ≠ position.side ∧
        processed.quantity ≤ |position.quantity|))
    (by
      unfold ProcessedFill.OnlyReduces
      rw [Option.any_eq_true]
      simp only [decide_eq_true_iff])

instance (processed : ProcessedFill) : Decidable processed.LocksEvenly :=
  decidable_of_iff
    (0 < processed.quantity ∧
      (¬processed.OnlyReduces →
        (processed.fill.fillPrice.all fun price => decide (0 ≤ price)) = true ∧
          0 < leverageFactor processed.leverage) ∧
      (processed.position.all fun position =>
        decide (processed.side = position.side →
          leverageFactor processed.leverage =
            leverageFactor position.leverage)) = true)
    (by
      simp only [Option.all_eq_true, decide_eq_true_iff]
      exact ⟨fun ⟨sized, locked, level⟩ => ⟨sized, locked, level⟩,
        fun evenly => ⟨evenly.sized, evenly.locked, evenly.level⟩⟩)

instance (processed : ProcessedFill) : Decidable processed.OpensTimed :=
  decidable_of_iff
    (processed.position.isNone = true →
      processed.broker.simulationTime.isSome = true)
    (by
      unfold ProcessedFill.OpensTimed
      rw [Option.isNone_iff_eq_none])

instance (processed : ProcessedFill) : Decidable processed.OpensFree :=
  decidable_of_iff (processed.OpensTimed ∧ processed.openingFee = 0)
    ⟨fun ⟨timed, free⟩ => ⟨timed, free⟩, fun opens => ⟨opens.timed, opens.free⟩⟩

/-- After every call, the balances agree if every fill locked margin evenly, and a flat
account has gained what its trades say if positions were opened for no fee. -/
theorem simulated_money_is_conserved (initialEquity : ℚ) (feeTier : FeeTier)
    (fillModel : OrderFillModel) (calls : List BrokerCall) :
    let start := SimulatedBroker.fresh initialEquity feeTier fillModel
    ∀ earlier later, calls = earlier ++ later →
      ((∀ processed ∈ start.runFills calls, processed.LocksEvenly) →
        (start.run earlier).Balanced) ∧
      ((∀ processed ∈ start.runFills calls, processed.OpensFree) →
        (start.run earlier).EarnsWhenFlat) := by
  intro start earlier later split
  have done : ∀ processed ∈ start.runFills earlier,
      processed ∈ start.runFills calls := by
    intro processed member
    rw [split, SimulatedBroker.runFills_append]
    exact List.mem_append_left _ member
  constructor
  · intro evenly
    have held := SimulatedBroker.run_kept SimulatedBroker.marginHeld_kept []
      start earlier (fun processed member => evenly processed (done processed member))
      (SimulatedBroker.fresh_marginHeld initialEquity feeTier fillModel)
    exact ⟨held.balanced, held.held⟩
  · intro opens flat
    have earned := SimulatedBroker.flat_run_earned
      (fun processed member => (opens processed (done processed member)).timed) flat
    have free : ((start.runFills earlier).map ProcessedFill.openingFee).sum = 0 := by
      apply List.sum_eq_zero
      intro fee member
      obtain ⟨processed, listed, same⟩ := List.mem_map.mp member
      rw [← same]
      exact (opens processed (done processed listed)).free
    dsimp only at earned
    rw [free, add_zero] at earned
    exact earned

/-! ## Runs on one bar -/

def hundredBar : PriceBar :=
  { ts := 0
    openPrice := 100
    high := 100
    low := 100
    close := 100
    volume := 1000 }

def plainFills : OrderFillModel :=
  { slippageBps := Dict.empty.set "COIN" 0
    spreadImpactPct := 1 / 2
    limitVolumeThreshold := 2
    enableQueuePriority := false }

def coinOrder (side : OrderSide) (type : OrderType) (quantity : ℚ)
    (leverage : Option ℤ) : BrokerCall :=
  .place
    { id := "1"
      symbol := "COIN"
      side := side
      type := type
      quantity := some quantity
      price := some 100
      stopPrice := none
      clientId := none
      reduceOnly := false
      leverage := leverage
      tif := .ioc }
    .disabled

def coinBar : BrokerCall :=
  .bar "COIN" hundredBar fun _ => .disabled

/-- A purchase and sale whose fees reach no completed trade but for the sale's,
and purchases at two leverages that leave margin on hold or release too much. -/
theorem simulated_money_is_lost :
    let start := SimulatedBroker.fresh 1000 .tier2 plainFills
    let traded := start.run [coinBar, coinOrder .buy .market 1 none,
      coinOrder .sell .market 1 none]
    let raised := start.run [coinBar, coinOrder .buy .market 1 (some 2),
      coinOrder .buy .market 1 (some 4), coinOrder .sell .market 2 (some 4)]
    let lowered := start.run [coinBar, coinOrder .buy .market 1 (some 4),
      coinOrder .buy .market 1 (some 2), coinOrder .sell .market 2 (some 2)]
    (traded.positions.entries.length = 0 ∧
        SimulatedBroker.netGains traded.completedTrades ≠
          traded.usdc.total - traded.initialEquity) ∧
      (raised.positions.entries.length = 0 ∧ raised.usdc.hold ≠ 0) ∧
      lowered.usdc.total ≠ lowered.usdc.available + lowered.usdc.hold := by
  decide +kernel

/-- Coins are bought at a leverage of two and more are sold, for no fee. -/
theorem free_coin_run_conserves :
    let start := SimulatedBroker.fresh 1000 .tier7 plainFills
    let calls := [coinBar, coinOrder .buy .limit 2 (some 2),
      coinOrder .sell .limit 3 none]
    (start.runFills calls).length = 2 ∧ (start.run calls).Balanced ∧
      (start.run calls).EarnsWhenFlat := by
  intro start calls
  obtain ⟨balanced, earns⟩ := simulated_money_is_conserved 1000 .tier7 plainFills
    calls calls [] (List.append_nil _).symm
  exact ⟨by decide +kernel, balanced (by decide +kernel), earns (by decide +kernel)⟩

end GptTrader
