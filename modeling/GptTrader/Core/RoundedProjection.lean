import GptTrader.Core.ProjectionOrder
import GptTrader.Python.DecimalContext

/-!
# Replaying fills in a decimal context

`project_position` (`core/fill_accounting.py`) as the operators of a decimal
context compute it.  In the exact context it is the projection over the
rationals.
-/

namespace GptTrader

section Rounded

variable (context : DecimalContext)

/-- `decimal_value(fill.quantity) * (1 if fill.side == "buy" else -1)`. -/
def FillFact.signedIn (fill : FillFact) : ℚ :=
  context.mul fill.quantity (if fill.side = "buy" then 1 else -1)

/-- `size if fill.side == "buy" else -size`. -/
def FillFact.signedSize (fill : FillFact) : ℚ :=
  if fill.side = "buy" then fill.quantity else context.neg fill.quantity

def ambiguousFromIn (inventory : ℚ) : List (List FillFact) → Bool
  | [] => false
  | group :: rest =>
      let signed := context.sum (group.map (FillFact.signedIn context))
      decide (1 < (group.map FillFact.side).eraseDups.length ∨
        (context.mul inventory signed < 0 ∧
          context.abs inventory < context.abs signed ∧
          1 < (group.map FillFact.price).eraseDups.length)) ||
        ambiguousFromIn (context.add inventory signed) rest

namespace Inventory

def settleIn (inventory : Inventory) (fill : FillFact) : ℚ × ℚ :=
  let held := context.abs inventory.quantity
  let size := fill.quantity
  if inventory.quantity = 0 ∨
      (0 < inventory.quantity ↔ 0 < fill.signedSize context) then
    (context.div
      (context.add (context.mul held inventory.entry)
        (context.mul size fill.price))
      (context.add held size), inventory.realized)
  else
    let closed := min held size
    let realized := context.add inventory.realized
      (context.mul
        (context.mul closed (context.sub fill.price inventory.entry))
        (if 0 < inventory.quantity then 1 else -1))
    if held < size then (fill.price, realized)
    else if size = held then (0, realized)
    else (inventory.entry, realized)

def applyIn (inventory : Inventory) (fill : FillFact) : Inventory :=
  let settled := inventory.settleIn context fill
  { quantity := context.add inventory.quantity (fill.signedSize context)
    entry := settled.1
    realized := settled.2 }

end Inventory

/-- The books of `project_position`, of fills and a baseline of the symbol;
none when it gives a reason against them. -/
def projectBooks (fills : List FillFact) (baseline : PositionBaseline) :
    Option Inventory :=
  let relevant := relevantFills baseline fills
  if ambiguousFromIn context baseline.quantity (fillsByTime relevant) then none
  else some (relevant.foldl (Inventory.applyIn context) (.opening baseline))

/-- The fees so far, with the fee of a fill. -/
def addFeeIn (fees : Dict String ℚ) (fill : FillFact) : Dict String ℚ :=
  match fill.fee with
  | none => fees
  | some fee =>
      let currency :=
        match fill.feeCurrency with
        | none => "unknown"
        | some currency => if currency = "" then "unknown" else currency
      fees.set currency (context.add ((fees.get? currency).getD 0) fee)

/-- The projection of fills in which nothing is ambiguous. -/
def replayedIn (symbol : String) (baseline : PositionBaseline)
    (relevant : List FillFact) : PositionProjection :=
  let books := relevant.foldl (Inventory.applyIn context) (.opening baseline)
  { symbol := symbol
    quantity := some books.quantity
    entryPrice := some books.entry
    realizedPnl := some books.realized
    reasons := []
    fillCount := relevant.length
    fees := (relevant.foldl (addFeeIn context) .empty).entries.mergeSort
      fun left right => decide (left.1 ≤ right.1)
    feeCoverage := if feesCovered relevant then "complete" else "unknown" }

def replayReasonsIn (baseline : PositionBaseline) (relevant : List FillFact)
    (coverageReasons : List ProjectionReason) : List ProjectionReason :=
  coverageReasons ++
    if ambiguousFromIn context baseline.quantity (fillsByTime relevant) then
      [.executionOrderAmbiguous]
    else []

/-- `project_position`, of fills and a baseline of the symbol. -/
def projectPositionIn (symbol : String) (fills : List FillFact)
    (baseline : Option PositionBaseline)
    (coverageReasons : List ProjectionReason) : PositionProjection :=
  match baseline with
  | none =>
      .unknown symbol (coverageReasons ++ [.openingInventoryUnknown])
        fills.length
  | some baseline =>
      let relevant := relevantFills baseline fills
      let reasons := replayReasonsIn context baseline relevant coverageReasons
      if reasons.isEmpty then replayedIn context symbol baseline relevant
      else .unknown symbol reasons relevant.length

end Rounded

section Projection

variable {context : DecimalContext} {symbol : String} {fills : List FillFact}
variable {coverageReasons : List ProjectionReason}

variable (context) in
theorem reasons_projectPositionIn (symbol : String) (fills : List FillFact)
    (baseline : Option PositionBaseline) :
    ∃ own, (∀ reason ∈ own, reason = .openingInventoryUnknown ∨
        reason = .executionOrderAmbiguous) ∧
      ∀ coverageReasons,
        (projectPositionIn context symbol fills baseline coverageReasons).reasons =
          ProjectionReason.sortedTexts (coverageReasons ++ own) := by
  cases baseline with
  | none => exact ⟨[.openingInventoryUnknown], by simp, fun _ => rfl⟩
  | some baseline =>
      refine ⟨if ambiguousFromIn context baseline.quantity
          (fillsByTime (relevantFills baseline fills)) then
          [.executionOrderAmbiguous] else [], ?_, fun coverageReasons => ?_⟩
      · intro reason own
        split at own
        · exact .inr (by simpa using own)
        · cases own
      · unfold projectPositionIn
        dsimp only
        split
        · next empty =>
            rw [List.isEmpty_iff] at empty
            exact (ProjectionReason.sortedTexts_eq_nil.mpr empty).symm
        · rfl

theorem projectPositionIn_congr (baseline : Option PositionBaseline)
    {others : List ProjectionReason}
    (same : ∀ reason, reason ∈ coverageReasons ↔ reason ∈ others) :
    projectPositionIn context symbol fills baseline coverageReasons =
      projectPositionIn context symbol fills baseline others := by
  have empty : coverageReasons = [] ↔ others = [] := by
    simp only [List.eq_nil_iff_forall_not_mem, same]
  cases baseline with
  | none =>
      unfold projectPositionIn PositionProjection.unknown
      dsimp only
      rw [ProjectionReason.sortedTexts_congr]
      intro reason
      simp only [List.mem_append, same]
  | some opening =>
      unfold projectPositionIn PositionProjection.unknown replayReasonsIn
      dsimp only
      simp only [List.isEmpty_iff, List.append_eq_nil_iff, empty]
      cases ambiguousFromIn context opening.quantity
          (fillsByTime (relevantFills opening fills)) with
      | true =>
          simp only [if_true, reduceCtorEq, and_false, if_false]
          rw [ProjectionReason.sortedTexts_congr]
          intro reason
          simp only [List.mem_append, same]
      | false =>
          simp only [Bool.false_eq_true, if_false, and_true, List.append_nil]
          split
          · rfl
          · rw [ProjectionReason.sortedTexts_congr same]

theorem foldl_applyIn_quantity (inventory : Inventory) (fills : List FillFact) :
    (fills.foldl (Inventory.applyIn context) inventory).quantity =
      (fills.map (FillFact.signedSize context)).foldl context.add
        inventory.quantity := by
  induction fills generalizing inventory with
  | nil => rfl
  | cons fill rest induction =>
      rw [List.foldl_cons, induction]
      rfl

/-- A complete projection was given no reason, has a baseline, and its quantity is the
baseline's with the signed later fills added in the order of their execution. -/
theorem complete_projectPositionIn {baseline : Option PositionBaseline}
    (complete :
      (projectPositionIn context symbol fills baseline coverageReasons).complete) :
    coverageReasons = [] ∧ ∃ opening, baseline = some opening ∧
      (projectPositionIn context symbol fills baseline coverageReasons).quantity =
        some (((relevantFills opening fills).map
          (FillFact.signedSize context)).foldl context.add opening.quantity) := by
  cases baseline with
  | none =>
      have reasons := ProjectionReason.sortedTexts_eq_nil.mp complete
      simp at reasons
  | some opening =>
      unfold projectPositionIn PositionProjection.complete at complete
      unfold projectPositionIn
      dsimp only at complete ⊢
      split at complete
      · next empty =>
          rw [if_pos empty]
          rw [List.isEmpty_iff] at empty
          refine ⟨(List.append_eq_nil_iff.mp empty).1, opening, rfl, ?_⟩
          unfold replayedIn
          dsimp only
          rw [foldl_applyIn_quantity]
          rfl
      · next nonempty =>
          rw [List.isEmpty_iff] at nonempty
          exact absurd (ProjectionReason.sortedTexts_eq_nil.mp complete) nonempty

end Projection

section Exact

theorem FillFact.signedIn_exact (fill : FillFact) :
    fill.signedIn .exact = fill.signed := by
  unfold FillFact.signedIn FillFact.signed
  split
  · exact mul_one fill.quantity
  · exact mul_neg_one fill.quantity

theorem FillFact.signedSize_exact (fill : FillFact) :
    fill.signedSize .exact = fill.signed :=
  rfl

theorem DecimalContext.sum_exact (values : List ℚ) :
    DecimalContext.exact.sum values = values.sum := by
  induction values using List.reverseRecOn with
  | nil => rfl
  | append_singleton values last induction =>
      rw [DecimalContext.sum_append_singleton, induction, List.sum_append,
        List.sum_singleton]
      rfl

theorem ambiguousFromIn_exact (inventory : ℚ)
    (groups : List (List FillFact)) :
    ambiguousFromIn .exact inventory groups =
      ambiguousFrom inventory groups := by
  induction groups generalizing inventory with
  | nil => rfl
  | cons group rest induction =>
      have signed : DecimalContext.exact.sum
          (group.map (FillFact.signedIn .exact)) =
            (group.map FillFact.signed).sum := by
        rw [DecimalContext.sum_exact]
        exact congrArg List.sum
          (List.map_congr_left fun fill _ => fill.signedIn_exact)
      unfold ambiguousFromIn ambiguousFrom ambiguousGroup
      dsimp only
      rw [signed, induction]
      rfl

theorem Inventory.applyIn_exact (inventory : Inventory) (fill : FillFact) :
    inventory.applyIn .exact fill = inventory.apply fill := by
  unfold Inventory.applyIn Inventory.settleIn Inventory.apply Replay.settle
  dsimp only
  rw [FillFact.signedSize_exact]
  have held : DecimalContext.exact.abs inventory.quantity =
      |inventory.quantity| := rfl
  rw [held]
  split
  · exact congrArg (Inventory.mk _ _) (add_zero _).symm
  · split
    · rfl
    · split <;> rfl

/-- Exact books are those of `project_position` over the rationals. -/
theorem projectBooks_exact (fills : List FillFact)
    (baseline : PositionBaseline) (symbol : String) :
    (projectBooks .exact fills baseline = none ↔
        ¬(projectPosition symbol fills (some baseline) []).complete) ∧
      ∀ books, projectBooks .exact fills baseline = some books →
        (projectPosition symbol fills (some baseline) []).quantity =
            some books.quantity ∧
          (projectPosition symbol fills (some baseline) []).entryPrice =
            some books.entry ∧
          (projectPosition symbol fills (some baseline) []).realizedPnl =
            some books.realized := by
  have applied : Inventory.applyIn .exact = Inventory.apply :=
    funext fun inventory => funext inventory.applyIn_exact
  unfold projectBooks projectPosition replayReasons
  dsimp only
  rw [ambiguousFromIn_exact, applied]
  cases ambiguousFrom baseline.quantity
      (fillsByTime (relevantFills baseline fills)) with
  | true =>
      have refused : ¬(PositionProjection.unknown symbol
          [.executionOrderAmbiguous]
          (relevantFills baseline fills).length).complete := fun complete => by
        have none := ProjectionReason.sortedTexts_eq_nil.mp complete
        cases none
      exact ⟨⟨fun _ => refused, fun _ => rfl⟩, fun _ found => by cases found⟩
  | false =>
      have inventory := Replay.inventory_foldl (.start baseline)
        (relevantFills baseline fills)
      refine ⟨⟨fun none => ?_, fun refused => absurd rfl refused⟩, ?_⟩
      · cases none
      · intro books found
        cases found
        change _ = some (Inventory.applyAll (Inventory.opening baseline)
            (relevantFills baseline fills)).quantity ∧
          _ = some (Inventory.applyAll (Inventory.opening baseline)
            (relevantFills baseline fills)).entry ∧
          _ = some (Inventory.applyAll (Inventory.opening baseline)
            (relevantFills baseline fills)).realized
        have started : (Replay.start baseline).inventory =
            Inventory.opening baseline := rfl
        rw [← started, ← inventory]
        exact ⟨rfl, rfl, rfl⟩

end Exact

end GptTrader
