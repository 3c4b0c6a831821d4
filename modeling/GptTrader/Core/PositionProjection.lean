import Mathlib.Data.Finset.Sort
import Mathlib.Data.String.Basic
import GptTrader.Core.FillAccounting
import GptTrader.Library.Dict

/-!
# Replaying fills over a baseline

`project_position` (`core/fill_accounting.py`).  The reasons of a projection are
the sorted set of the texts; a projection without reasons is complete, and its
quantity is the baseline's with the later fills added.
-/

namespace GptTrader

/-- Why a projection is not complete. -/
inductive ProjectionReason where
  | pendingSubmissionUnresolved (orderId : String)
  | identifiedFillsMissing (orderId : String)
  | fillReceiptConflict (orderId : String)
  | fillNotionalUnverified (orderId : String)
  | openingInventoryUnknown
  | executionOrderAmbiguous
  deriving DecidableEq

namespace ProjectionReason

def text : ProjectionReason → String
  | .pendingSubmissionUnresolved orderId =>
      "pending_submission_unresolved:" ++ orderId
  | .identifiedFillsMissing orderId => "identified_fills_missing:" ++ orderId
  | .fillReceiptConflict orderId => "fill_receipt_conflict:" ++ orderId
  | .fillNotionalUnverified orderId => "fill_notional_unverified:" ++ orderId
  | .openingInventoryUnknown => "opening_inventory_unknown"
  | .executionOrderAmbiguous => "execution_order_ambiguous"

def about : ProjectionReason → String
  | .pendingSubmissionUnresolved orderId => orderId
  | .identifiedFillsMissing orderId => orderId
  | .fillReceiptConflict orderId => orderId
  | .fillNotionalUnverified orderId => orderId
  | .openingInventoryUnknown => ""
  | .executionOrderAmbiguous => ""

def kind : ProjectionReason → String
  | .pendingSubmissionUnresolved _ => "pending_submission_unresolved:"
  | .identifiedFillsMissing _ => "identified_fills_missing:"
  | .fillReceiptConflict _ => "fill_receipt_conflict:"
  | .fillNotionalUnverified _ => "fill_notional_unverified:"
  | .openingInventoryUnknown => "opening_inventory_unknown"
  | .executionOrderAmbiguous => "execution_order_ambiguous"

theorem text_eq (reason : ProjectionReason) :
    reason.text = reason.kind ++ reason.about := by
  cases reason with
  | openingInventoryUnknown => exact String.append_empty.symm
  | executionOrderAmbiguous => exact String.append_empty.symm
  | _ => rfl

theorem take_text (reason : ProjectionReason) :
    reason.text.toList.take 6 = reason.kind.toList.take 6 := by
  have long : 6 ≤ reason.kind.toList.length := by
    cases reason <;> dsimp only [kind] <;> decide
  rw [text_eq, String.toList_append, List.take_append_of_le_length long]

theorem kind_eq {left right : ProjectionReason}
    (same : left.kind.toList.take 6 = right.kind.toList.take 6) :
    left.kind = right.kind := by
  cases left <;> cases right <;> dsimp only [kind] at same ⊢ <;> first
    | rfl
    | exact absurd same (by decide)

theorem text_injective : Function.Injective text := by
  intro left right same
  have kinds : left.kind = right.kind := by
    apply kind_eq
    rw [← take_text, ← take_text, same]
  have orders : left.about = right.about := by
    rw [text_eq, text_eq, kinds] at same
    exact String.append_right_inj _ |>.mp same
  cases left <;> cases right <;>
    dsimp only [kind, about] at kinds orders <;> first
    | rfl
    | exact congrArg _ orders
    | exact absurd kinds (by decide)

/-- `tuple(sorted(set(reasons)))`. -/
def sortedTexts (reasons : List ProjectionReason) : List String :=
  (reasons.map text).toFinset.sort (· ≤ ·)

theorem mem_sortedTexts {reasons : List ProjectionReason}
    {reason : ProjectionReason} :
    reason.text ∈ sortedTexts reasons ↔ reason ∈ reasons := by
  unfold sortedTexts
  rw [Finset.mem_sort, List.mem_toFinset, List.mem_map]
  constructor
  · rintro ⟨other, member, same⟩
    rwa [← text_injective same]
  · exact fun member => ⟨reason, member, rfl⟩

theorem sortedTexts_congr {left right : List ProjectionReason}
    (same : ∀ reason, reason ∈ left ↔ reason ∈ right) :
    sortedTexts left = sortedTexts right := by
  unfold sortedTexts
  congr 1
  ext text
  simp only [List.mem_toFinset, List.mem_map, same]

theorem sortedTexts_eq_nil {reasons : List ProjectionReason} :
    sortedTexts reasons = [] ↔ reasons = [] := by
  constructor
  · intro none
    rw [List.eq_nil_iff_forall_not_mem]
    intro reason member
    have found := mem_sortedTexts.mpr member
    rw [none] at found
    cases found
  · rintro rfl
    exact Finset.sort_empty _

end ProjectionReason

structure PositionProjection where
  symbol : String
  quantity : Option ℚ
  entryPrice : Option ℚ
  realizedPnl : Option ℚ
  reasons : List String
  fillCount : ℕ
  fees : List (String × ℚ)
  feeCoverage : String
  deriving DecidableEq

namespace PositionProjection

/-- Nothing is missing from the projection. -/
def complete (projection : PositionProjection) : Prop :=
  projection.reasons = []

def unknown (symbol : String) (reasons : List ProjectionReason)
    (fillCount : ℕ) : PositionProjection :=
  { symbol := symbol
    quantity := none
    entryPrice := none
    realizedPnl := none
    reasons := ProjectionReason.sortedTexts reasons
    fillCount := fillCount
    fees := []
    feeCoverage := "unknown" }

end PositionProjection

def FillFact.signed (fact : FillFact) : ℚ :=
  if fact.side = "buy" then fact.quantity else -fact.quantity

def FillFact.notAfter (left right : FillFact) : Bool :=
  decide (left.executedAt < right.executedAt ∨
    left.executedAt = right.executedAt ∧
      (left.orderId < right.orderId ∨
        left.orderId = right.orderId ∧ left.fillId ≤ right.fillId))

/-- The fills of the symbol after the baseline. -/
def relevantFills (baseline : PositionBaseline) (fills : List FillFact) :
    List FillFact :=
  (fills.filter fun fill => decide (baseline.effectiveAt < fill.executedAt))
    |>.mergeSort FillFact.notAfter

/-- The fills grouped by their time. -/
def fillsByTime (relevant : List FillFact) : List (List FillFact) :=
  (relevant.map FillFact.executedAt).eraseDups.map fun moment =>
    relevant.filter fun fill => decide (fill.executedAt = moment)

/-- Fills of one time whose order would matter. -/
def ambiguousGroup (inventory : ℚ) (group : List FillFact) : Bool :=
  let signed := (group.map FillFact.signed).sum
  decide (1 < (group.map FillFact.side).eraseDups.length ∨
    (inventory * signed < 0 ∧ |inventory| < |signed| ∧
      1 < (group.map FillFact.price).eraseDups.length))

def ambiguousFrom (inventory : ℚ) : List (List FillFact) → Bool
  | [] => false
  | group :: rest =>
      ambiguousGroup inventory group ||
        ambiguousFrom (inventory + (group.map FillFact.signed).sum) rest

/-- What a replay carries from fill to fill. -/
structure Replay where
  quantity : ℚ
  entry : ℚ
  realized : ℚ
  fees : Dict String ℚ

namespace Replay

def start (baseline : PositionBaseline) : Replay :=
  { quantity := baseline.quantity
    entry := baseline.entryPrice.getD 0
    realized := 0
    fees := .empty }

/-- The realized profit and the new cost of a fill. -/
def settle (quantity entry : ℚ) (fill : FillFact) : ℚ × ℚ :=
  let size := fill.quantity
  if quantity = 0 ∨ (0 < quantity ↔ 0 < fill.signed) then
    ((|quantity| * entry + size * fill.price) / (|quantity| + size), 0)
  else
    let closed := min |quantity| size
    let realized :=
      closed * (fill.price - entry) * (if 0 < quantity then 1 else -1)
    if |quantity| < size then (fill.price, realized)
    else if size = |quantity| then (0, realized)
    else (entry, realized)

/-- The fee summed under its currency. -/
def addFee (fees : Dict String ℚ) (fill : FillFact) : Dict String ℚ :=
  match fill.fee with
  | none => fees
  | some fee =>
      let currency :=
        match fill.feeCurrency with
        | none => "unknown"
        | some currency => if currency = "" then "unknown" else currency
      fees.set currency ((fees.get? currency).getD 0 + fee)

/-- One fill of the replay. -/
def step (replay : Replay) (fill : FillFact) : Replay :=
  let settled := settle replay.quantity replay.entry fill
  { quantity := replay.quantity + fill.signed
    entry := settled.1
    realized := replay.realized + settled.2
    fees := addFee replay.fees fill }

end Replay

/-- Every fill states its fee. -/
def feesCovered (fills : List FillFact) : Bool :=
  fills.all fun fill => fill.fee.isSome && fill.feeCurrency.any (· ≠ "")

/-- The projection of a replay without reasons. -/
def replayed (symbol : String) (baseline : PositionBaseline)
    (relevant : List FillFact) : PositionProjection :=
  let replay := relevant.foldl Replay.step (.start baseline)
  { symbol := symbol
    quantity := some replay.quantity
    entryPrice := some replay.entry
    realizedPnl := some replay.realized
    reasons := []
    fillCount := relevant.length
    fees := replay.fees.entries.mergeSort fun left right =>
      decide (left.1 ≤ right.1)
    feeCoverage := if feesCovered relevant then "complete" else "unknown" }

/-- Why a replay is not complete. -/
def replayReasons (baseline : PositionBaseline) (relevant : List FillFact)
    (coverageReasons : List ProjectionReason) : List ProjectionReason :=
  coverageReasons ++
    if ambiguousFrom baseline.quantity (fillsByTime relevant) then
      [.executionOrderAmbiguous]
    else []

/-- `project_position`, of fills and a baseline of the symbol. -/
def projectPosition (symbol : String) (fills : List FillFact)
    (baseline : Option PositionBaseline)
    (coverageReasons : List ProjectionReason) : PositionProjection :=
  match baseline with
  | none =>
      .unknown symbol (coverageReasons ++ [.openingInventoryUnknown])
        fills.length
  | some baseline =>
      let relevant := relevantFills baseline fills
      let reasons := replayReasons baseline relevant coverageReasons
      if reasons.isEmpty then replayed symbol baseline relevant
      else .unknown symbol reasons relevant.length

end GptTrader
