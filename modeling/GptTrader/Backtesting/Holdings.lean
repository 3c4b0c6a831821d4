import Mathlib.Tactic.SplitIfs
import GptTrader.Backtesting.MarkedPositions

/-!
# What a fill leaves of a holding

Of a position only its side and its quantity decide what a fill makes of them.  A fill
on the side of the position adds to it, a fill against it closes what it can, and what
is left of the fill opens a position on its own side.
-/

namespace GptTrader

/-- The side and the quantity of a position. -/
structure Holding where
  side : TradeSide
  quantity : ℚ
  deriving DecidableEq

/-- The side and the size of a position. -/
def SimulatedPosition.holding (position : SimulatedPosition) : Holding :=
  { side := position.side, quantity := position.quantity }

namespace Holding

open SimulatedBroker (signedQuantity)

/-- The holding a fill opens. -/
def opened (side : TradeSide) (quantity : ℚ) : Holding :=
  { side := side, quantity := signedQuantity side quantity }

/-- What a fill leaves of a holding.  A fill that would leave nothing to average the
entry over is refused. -/
def after (held : Option Holding) (side : TradeSide) (quantity : ℚ) :
    Option Holding :=
  match held with
  | none => some (opened side quantity)
  | some old =>
      if side = old.side then
        if |old.quantity| + quantity = 0 then some old
        else some (opened old.side (|old.quantity| + quantity))
      else if 0 < |old.quantity| - min quantity |old.quantity| then
        some (opened old.side (|old.quantity| - min quantity |old.quantity|))
      else if 0 < quantity - |old.quantity| then
        some (opened side (quantity - |old.quantity|))
      else none

theorem abs_signed (side : TradeSide) (quantity : ℚ) :
    |signedQuantity side quantity| = |quantity| := by
  cases side with
  | long => rfl
  | short => exact abs_neg quantity

/-! ## Fills that only reduce -/

def Reduces (before after : Option Holding) : Prop :=
  ∀ held ∈ after, ∃ old ∈ before,
    held.side = old.side ∧ |held.quantity| ≤ |old.quantity|

/-- The fill goes against a position that is no smaller.  On the side of the position
only a fill of a negative quantity makes it smaller. -/
def Fits (before : Option Holding) (side : TradeSide) (quantity : ℚ) : Prop :=
  ∃ old ∈ before,
    if side = old.side then -(2 * |old.quantity|) ≤ quantity ∧ quantity ≤ 0
    else 0 ≤ quantity ∧ quantity ≤ |old.quantity|

theorem Reduces.refl (held : Option Holding) : Reduces held held := by
  intro own member
  exact ⟨own, member, rfl, le_refl _⟩

theorem reduces_of_side (old : Holding) (quantity : ℚ) :
    Reduces (some old) (some (opened old.side quantity)) ↔
      |quantity| ≤ |old.quantity| := by
  constructor
  · intro reduces
    obtain ⟨own, member, -, smaller⟩ := reduces _ rfl
    obtain rfl := Option.mem_some_iff.mp member
    exact (abs_signed _ quantity).symm.trans_le smaller
  · intro smaller held member
    obtain rfl := Option.mem_some_iff.mp member
    exact ⟨old, rfl, rfl, (abs_signed _ quantity).trans_le smaller⟩

theorem not_reduces_of_side {old : Holding} {side : TradeSide}
    (against : side ≠ old.side) (quantity : ℚ) :
    ¬Reduces (some old) (some (opened side quantity)) := by
  intro reduces
  obtain ⟨own, member, same, -⟩ := reduces _ rfl
  obtain rfl := Option.mem_some_iff.mp member
  exact against same

/-- A fill only reduces exactly when it fits the position. -/
theorem reduces_after_iff (held : Option Holding) (side : TradeSide)
    (quantity : ℚ) :
    Reduces held (after held side quantity) ↔ Fits held side quantity := by
  cases held with
  | none =>
      constructor
      · intro reduces
        obtain ⟨own, member, -⟩ := reduces _ rfl
        cases member
      · rintro ⟨own, member, -⟩
        cases member
  | some old =>
      have nonneg := abs_nonneg old.quantity
      have fits_iff : Fits (some old) side quantity ↔
          if side = old.side then -(2 * |old.quantity|) ≤ quantity ∧ quantity ≤ 0
          else 0 ≤ quantity ∧ quantity ≤ |old.quantity| := by
        unfold Fits
        simp only [Option.mem_some_iff, exists_eq_left']
      rw [fits_iff]
      unfold after
      dsimp only
      by_cases same : side = old.side
      · rw [if_pos same, if_pos same]
        split
        · next nothing =>
            refine ⟨fun _ => ⟨by linarith, by linarith⟩, fun _ => .refl _⟩
        · rw [reduces_of_side, abs_le]
          constructor
          · rintro ⟨low, high⟩
            exact ⟨by linarith, by linarith⟩
          · rintro ⟨low, high⟩
            exact ⟨by linarith, by linarith⟩
      · rw [if_neg same, if_neg same]
        rcases le_or_gt quantity |old.quantity| with part | more
        · rw [min_eq_left part]
          split
          · next remains =>
              rw [reduces_of_side, abs_of_pos remains]
              exact ⟨fun less => ⟨by linarith, part⟩, fun fits => by linarith⟩
          · next nothing =>
              have whole : quantity = |old.quantity| := by linarith
              rw [if_neg (by linarith)]
              refine ⟨fun _ => ⟨by linarith, part⟩, fun _ => ?_⟩
              intro own member
              cases member
        · rw [min_eq_right more.le, sub_self, if_neg (lt_irrefl 0),
            if_pos (by linarith)]
          constructor
          · intro reduces
            exact absurd reduces (not_reduces_of_side same _)
          · rintro ⟨-, less⟩
            exact absurd less (not_le.mpr more)

/-! ## Fills that add up -/

def Signed (held : Holding) : Prop :=
  held.quantity = signedQuantity held.side |held.quantity|

/-- The signed quantity held. -/
def net (held : Option Holding) : ℚ :=
  held.elim 0 Holding.quantity

theorem signed_add (side : TradeSide) (left right : ℚ) :
    signedQuantity side (left + right) =
      signedQuantity side left + signedQuantity side right := by
  cases side with
  | long => rfl
  | short => exact neg_add left right

theorem signed_sub (side : TradeSide) (left right : ℚ) :
    signedQuantity side (left - right) =
      signedQuantity side left - signedQuantity side right := by
  cases side with
  | long => rfl
  | short => exact neg_sub' left right

theorem signed_neg {side other : TradeSide} (against : side ≠ other)
    (quantity : ℚ) : signedQuantity other quantity =
      -signedQuantity side quantity := by
  cases side with
  | long =>
      cases other with
      | long => exact absurd rfl against
      | short => rfl
  | short =>
      cases other with
      | long => exact (neg_neg quantity).symm
      | short => exact absurd rfl against

/-- A fill moves the net quantity by its own, where it is not refused and the holding
has the sign of its side. -/
theorem net_after {held : Option Holding} {side : TradeSide} {quantity : ℚ}
    (signed : ∀ old ∈ held, old.Signed)
    (averaged : ∀ old ∈ held, side = old.side → |old.quantity| + quantity ≠ 0) :
    net (after held side quantity) = net held + signedQuantity side quantity := by
  cases held with
  | none => exact (zero_add _).symm
  | some old =>
      have own : net (some old) = signedQuantity old.side |old.quantity| :=
        signed old rfl
      rw [own]
      unfold after
      dsimp only
      by_cases same : side = old.side
      · rw [if_pos same, if_neg (averaged old rfl same), same]
        exact signed_add _ _ _
      · have turned := signed_neg same
        rw [if_neg same]
        rcases le_or_gt quantity |old.quantity| with part | more
        · rw [min_eq_left part]
          split
          · change signedQuantity old.side (|old.quantity| - quantity) = _
            rw [signed_sub, turned quantity, sub_neg_eq_add]
          · next nothing =>
              have whole : quantity = |old.quantity| := by linarith
              rw [if_neg (by linarith), whole, turned]
              exact (neg_add_cancel _).symm
        · rw [min_eq_right more.le, sub_self, if_neg (lt_irrefl 0),
            if_pos (by linarith)]
          change signedQuantity side (quantity - |old.quantity|) = _
          rw [signed_sub, turned, sub_eq_neg_add]

end Holding

/-! ## The holdings of a broker -/

namespace SimulatedBroker

def holding (broker : SimulatedBroker) (symbol : String) : Option Holding :=
  (broker.positions.get? symbol).map SimulatedPosition.holding

/-- The fill of an order is refused when it leaves nothing to average over. -/
theorem updatePosition_holding (broker : SimulatedBroker) (symbol : String)
    (side : OrderSide) (quantity price : ℚ) (leverage : Option ℤ) :
    let updated := broker.updatePosition symbol side quantity price leverage
    updated.2.holding symbol =
        Holding.after (broker.holding symbol) (openedSide side) quantity ∧
      (∀ other ≠ symbol, updated.2.holding other = broker.holding other) ∧
      updated.2.orders = broker.orders ∧
      (updated.1 = .ok () ↔ ∀ old ∈ broker.holding symbol,
        openedSide side = old.side → |old.quantity| + quantity ≠ 0) := by
  intro updated
  have set_holding : ∀ (positions : Dict String SimulatedPosition) own,
      ((positions.set symbol own).get? symbol).map SimulatedPosition.holding =
        some own.holding := by
    intro positions own
    rw [Dict.get?_set_self]
    rfl
  have set_other : ∀ (positions : Dict String SimulatedPosition) own,
      ∀ other ≠ symbol, ((positions.set symbol own).get? other).map
        SimulatedPosition.holding =
          (positions.get? other).map SimulatedPosition.holding := by
    intro positions own other different
    rw [Dict.get?_set_of_ne _ _ different]
  have erase_other : ∀ (positions : Dict String SimulatedPosition),
      ∀ other ≠ symbol, (positions.erase symbol).get? other =
        positions.get? other := by
    intro positions other different
    rw [Dict.get?_erase, if_neg different]
  cases found : broker.positions.get? symbol with
  | none =>
      have held : broker.holding symbol = none := by
        unfold holding
        rw [found]
        rfl
      have opens : updated = (.ok (), broker.openPosition symbol
          (openedSide side) quantity price leverage) := by
        unfold updated updatePosition
        rw [found]
      rw [opens, held]
      refine ⟨set_holding _ _, set_other _ _, rfl, fun _ old member => ?_,
        fun _ => rfl⟩
      cases member
  | some position =>
      have held : broker.holding symbol = some position.holding := by
        unfold holding
        rw [found]
        rfl
      rw [held]
      unfold Holding.after
      dsimp only [SimulatedPosition.holding]
      by_cases same : openedSide side = position.side
      · have adds : updated = broker.addToPosition symbol position quantity price
            leverage := by
          unfold updated updatePosition
          rw [found]
          exact if_pos same
        rw [adds, if_pos same]
        unfold addToPosition simulatedQuotient
        dsimp only
        by_cases nothing : |position.quantity| + quantity = 0
        · rw [if_pos nothing, if_pos nothing]
          refine ⟨held, fun _ _ => rfl, rfl, ⟨fun done => ?_, fun averaged => ?_⟩⟩
          · cases done
          · exact absurd nothing (averaged _ rfl same)
        · rw [if_neg nothing, if_neg nothing]
          refine ⟨set_holding _ _, set_other _ _, rfl, fun _ old member _ => ?_,
            fun _ => rfl⟩
          obtain rfl := Option.mem_some_iff.mp member
          exact nothing
      · have reduces : updated = (.ok (), broker.reducePosition symbol position
            (openedSide side) quantity price leverage) := by
          unfold updated updatePosition
          rw [found]
          exact if_neg same
        rw [reduces, if_neg same]
        have averaged : ∀ old ∈ some position.holding,
            openedSide side = old.side → |old.quantity| + quantity ≠ 0 := by
          intro old member
          obtain rfl := Option.mem_some_iff.mp member
          exact fun alike => absurd alike same
        unfold reducePosition
        dsimp only
        split
        · exact ⟨set_holding _ _, set_other _ _, rfl,
            fun _ => averaged, fun _ => rfl⟩
        · split
          · refine ⟨set_holding _ _, fun other different => ?_, rfl,
              fun _ => averaged, fun _ => rfl⟩
            unfold holding openPosition
            dsimp only
            rw [Dict.get?_set_of_ne _ _ different, erase_other _ _ different]
          · refine ⟨?_, fun other different => ?_, rfl, fun _ => averaged,
              fun _ => rfl⟩
            · unfold holding
              dsimp only
              rw [Dict.get?_erase, if_pos rfl]
              rfl
            · unfold holding
              dsimp only
              rw [erase_other _ _ different]

end SimulatedBroker

end GptTrader
