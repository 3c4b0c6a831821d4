import Mathlib.Data.Prod.Lex
import Mathlib.Tactic.FieldSimp
import Mathlib.Tactic.Linarith
import Mathlib.Tactic.Ring
import GptTrader.Core.PositionProjection
import GptTrader.Library.Grouping

/-!
# The order of simultaneous fills

Average-cost accounting depends on the order of the fills in general.  The
projection refuses the groups of simultaneous fills whose order could matter;
the fills of any other group may be applied in any order.
-/

namespace GptTrader

/-- `project_position`, which refuses facts about another symbol. -/
def projectFills (symbol : String) (fills : List FillFact)
    (baseline : Option PositionBaseline)
    (coverageReasons : List ProjectionReason) :
    Except String PositionProjection :=
  if baseline.any (fun opening => opening.symbol ≠ symbol) ||
      fills.any (fun fill => fill.symbol ≠ symbol) then
    .error "Projection input symbol mismatch"
  else .ok (projectPosition symbol fills baseline coverageReasons)

/-- The inventory of a replay: what it holds, at which price, and what it
realized. -/
structure Inventory where
  quantity : ℚ
  entry : ℚ
  realized : ℚ
  deriving DecidableEq

namespace Inventory

/-- The inventory of the baseline. -/
def opening (baseline : PositionBaseline) : Inventory :=
  { quantity := baseline.quantity
    entry := baseline.entryPrice.getD 0
    realized := 0 }

/-- The inventory after a fill, in exact arithmetic. -/
def apply (inventory : Inventory) (fill : FillFact) : Inventory :=
  let settled := Replay.settle inventory.quantity inventory.entry fill
  { quantity := inventory.quantity + fill.signed
    entry := settled.1
    realized := inventory.realized + settled.2 }

/-- The inventory after a list of fills. -/
def applyAll (inventory : Inventory) (fills : List FillFact) : Inventory :=
  fills.foldl apply inventory

end Inventory

def Replay.inventory (replay : Replay) : Inventory :=
  { quantity := replay.quantity
    entry := replay.entry
    realized := replay.realized }

theorem Replay.inventory_foldl (replay : Replay) (fills : List FillFact) :
    (fills.foldl Replay.step replay).inventory =
      replay.inventory.applyAll fills :=
  (List.foldl_hom Replay.inventory fun _ _ => rfl).symm

theorem FillFact.signed_ne_zero (fill : FillFact) : fill.signed ≠ 0 := by
  have positive := fill.positive.1
  unfold FillFact.signed
  split
  · exact positive.ne'
  · exact neg_ne_zero.mpr positive.ne'

theorem FillFact.abs_signed (fill : FillFact) :
    |fill.signed| = fill.quantity := by
  have positive := fill.positive.1
  unfold FillFact.signed
  split
  · exact abs_of_pos positive
  · rw [abs_neg, abs_of_pos positive]

namespace Inventory

section Apply

variable (inventory : Inventory) (fill : FillFact)

/-- `1` for a long inventory, `-1` for a short one. -/
def direction : ℚ :=
  if 0 < inventory.quantity then 1 else -1

theorem apply_adds (same : 0 ≤ inventory.quantity * fill.signed) :
    inventory.apply fill =
      { quantity := inventory.quantity + fill.signed
        entry := (|inventory.quantity| * inventory.entry +
          fill.quantity * fill.price) / (|inventory.quantity| + fill.quantity)
        realized := inventory.realized } := by
  have sided : inventory.quantity = 0 ∨
      (0 < inventory.quantity ↔ 0 < fill.signed) := by
    rcases lt_trichotomy inventory.quantity 0 with short | flat | long
    · have negative := nonpos_of_mul_nonneg_right same short
      exact .inr ⟨fun long => absurd long short.not_gt,
        fun positive => absurd positive negative.not_gt⟩
    · exact .inl flat
    · have nonneg := nonneg_of_mul_nonneg_right same long
      exact .inr ⟨fun _ => lt_of_le_of_ne nonneg fill.signed_ne_zero.symm,
        fun _ => long⟩
  unfold apply Replay.settle
  simp only [if_pos sided, add_zero]

theorem apply_opposite (opposite : inventory.quantity * fill.signed < 0) :
    inventory.apply fill =
      { quantity := inventory.quantity + fill.signed
        entry :=
          if |inventory.quantity| < fill.quantity then fill.price
          else if fill.quantity = |inventory.quantity| then 0
          else inventory.entry
        realized := inventory.realized +
          min |inventory.quantity| fill.quantity *
            (fill.price - inventory.entry) * inventory.direction } := by
  have other : ¬(inventory.quantity = 0 ∨
      (0 < inventory.quantity ↔ 0 < fill.signed)) := by
    rintro (flat | same)
    · rw [flat, zero_mul] at opposite
      exact lt_irrefl _ opposite
    · rcases mul_neg_iff.mp opposite with ⟨long, sells⟩ | ⟨short, buys⟩
      · exact (same.mp long).not_gt sells
      · exact (same.mpr buys).not_gt short
  unfold apply Replay.settle direction
  simp only [if_neg other]
  split_ifs <;> rfl

end Apply

section Pairs

variable {inventory : Inventory} {first second : FillFact}

section

variable (opposite : inventory.quantity * first.signed < 0)

include opposite

theorem abs_add_of_opposite :
    |inventory.quantity + first.signed| =
      |(|inventory.quantity| - first.quantity)| := by
  have size := first.abs_signed
  rcases mul_neg_iff.mp opposite with ⟨long, sells⟩ | ⟨short, buys⟩
  · rw [abs_of_neg sells] at size
    rw [abs_of_pos long, ← size, sub_neg_eq_add]
  · rw [abs_of_pos buys] at size
    rw [abs_of_neg short, ← size, ← abs_neg]
    ring_nf

theorem opposite_of_less (same : 0 < first.signed * second.signed)
    (less : first.quantity < |inventory.quantity|) :
    (inventory.apply first).quantity * second.signed < 0 ∧
      (inventory.apply first).direction = inventory.direction := by
  have size := first.abs_signed
  unfold direction apply
  dsimp only
  rcases mul_neg_iff.mp opposite with ⟨long, sells⟩ | ⟨short, buys⟩
  · rw [abs_of_neg sells] at size
    rw [abs_of_pos long] at less
    have stays : 0 < inventory.quantity + first.signed := by linarith
    exact ⟨mul_neg_of_pos_of_neg stays (neg_of_mul_pos_right same sells.le),
      by rw [if_pos stays, if_pos long]⟩
  · rw [abs_of_pos buys] at size
    rw [abs_of_neg short] at less
    have stays : inventory.quantity + first.signed < 0 := by linarith
    exact ⟨mul_neg_of_neg_of_pos stays (pos_of_mul_pos_right same buys.le),
      by rw [if_neg stays.not_gt, if_neg short.not_gt]⟩

theorem adds_of_not_less (same : 0 < first.signed * second.signed)
    (notLess : |inventory.quantity| ≤ first.quantity) :
    0 ≤ (inventory.apply first).quantity * second.signed := by
  have size := first.abs_signed
  unfold apply
  dsimp only
  rcases mul_neg_iff.mp opposite with ⟨long, sells⟩ | ⟨short, buys⟩
  · rw [abs_of_neg sells] at size
    rw [abs_of_pos long] at notLess
    exact mul_nonneg_of_nonpos_of_nonpos (by linarith)
      (neg_of_mul_pos_right same sells.le).le
  · rw [abs_of_pos buys] at size
    rw [abs_of_neg short] at notLess
    exact mul_nonneg (by linarith) (pos_of_mul_pos_right same buys.le).le

end

theorem apply_apply_adds (adds : 0 ≤ inventory.quantity * first.signed)
    (same : 0 < first.signed * second.signed) :
    (inventory.apply first).apply second =
      { quantity := inventory.quantity + first.signed + second.signed
        entry := (|inventory.quantity| * inventory.entry +
            first.quantity * first.price + second.quantity * second.price) /
          (|inventory.quantity| + first.quantity + second.quantity)
        realized := inventory.realized } := by
  have size := first.abs_signed
  have positive := first.positive.1
  have total : |inventory.quantity + first.signed| =
      |inventory.quantity| + first.quantity := by
    rw [← size]
    exact abs_add_eq_add_abs_iff _ _ |>.mpr (mul_nonneg_iff.mp adds)
  have stillAdds :
      0 ≤ (inventory.quantity + first.signed) * second.signed := by
    have stays : 0 ≤ inventory.quantity * second.signed := by
      rcases mul_pos_iff.mp same with ⟨buys, alsoBuys⟩ | ⟨sells, alsoSells⟩
      · exact mul_nonneg (nonneg_of_mul_nonneg_left adds buys) alsoBuys.le
      · exact mul_nonneg_of_nonpos_of_nonpos
          (nonpos_of_mul_nonneg_left adds sells) alsoSells.le
    rw [add_mul]
    exact add_nonneg stays same.le
  have held : |inventory.quantity| + first.quantity ≠ 0 :=
    (add_pos_of_nonneg_of_pos (abs_nonneg _) positive).ne'
  rw [apply_adds _ _ adds, apply_adds _ _ stillAdds]
  dsimp only
  rw [total, mul_div_cancel₀ _ held]

/-- Two fills on the other side, at one price or within the inventory. -/
theorem apply_apply_opposite
    (opposite : inventory.quantity * first.signed < 0)
    (same : 0 < first.signed * second.signed)
    (settled : first.price = second.price ∨
      first.quantity + second.quantity ≤ |inventory.quantity|) :
    (inventory.apply first).apply second =
      { quantity := inventory.quantity + first.signed + second.signed
        entry :=
          if first.quantity + second.quantity < |inventory.quantity| then
            inventory.entry
          else if first.quantity + second.quantity = |inventory.quantity| then 0
          else second.price
        realized := inventory.realized +
          (if first.quantity + second.quantity ≤ |inventory.quantity| then
            first.quantity * (first.price - inventory.entry) +
              second.quantity * (second.price - inventory.entry)
          else |inventory.quantity| * (second.price - inventory.entry)) *
            inventory.direction } := by
  have left := abs_add_of_opposite opposite
  have firstPositive := first.positive.1
  have secondPositive := second.positive.1
  have firstApplied := apply_opposite inventory first opposite
  rcases lt_trichotomy first.quantity |inventory.quantity| with
    less | equal | more
  · obtain ⟨stays, direction⟩ := opposite_of_less opposite same less
    have rest : |(|inventory.quantity| - first.quantity)| =
        |inventory.quantity| - first.quantity :=
      abs_of_pos (sub_pos.mpr less)
    rw [rest] at left
    rw [apply_opposite _ _ stays, direction, firstApplied]
    dsimp only
    rw [left, if_neg less.not_gt, if_neg less.ne, min_eq_right less.le]
    rcases lt_trichotomy (first.quantity + second.quantity)
      |inventory.quantity| with within | exact' | beyond
    · rw [if_pos within, if_pos within.le, if_neg (by linarith),
        if_neg (by linarith), min_eq_right (by linarith)]
      congr 1
      ring
    · rw [if_neg exact'.not_lt, if_pos exact', if_pos exact'.le,
        if_neg (by linarith), if_pos (by linarith), min_eq_right (by linarith)]
      congr 1
      ring
    · rw [if_neg beyond.not_gt, if_neg beyond.ne', if_neg beyond.not_ge,
        if_pos (by linarith), min_eq_left (by linarith)]
      have price := settled.resolve_right beyond.not_ge
      rw [price]
      congr 1
      ring
  · have adds := adds_of_not_less opposite same equal.ge
    have beyond : |inventory.quantity| < first.quantity + second.quantity := by
      linarith
    have price := settled.resolve_right beyond.not_ge
    rw [equal, sub_self, abs_zero] at left
    rw [apply_adds _ _ adds, firstApplied]
    dsimp only
    rw [left, if_neg equal.not_gt, if_pos equal, if_neg beyond.not_gt,
      if_neg beyond.ne', if_neg beyond.not_ge, min_eq_right equal.le, price,
      equal, zero_mul, zero_add, zero_add,
      mul_div_cancel_left₀ _ secondPositive.ne']
  · have adds := adds_of_not_less opposite same more.le
    have beyond : |inventory.quantity| < first.quantity + second.quantity := by
      linarith
    have price := settled.resolve_right beyond.not_ge
    have excess : first.quantity - |inventory.quantity| +
        second.quantity ≠ 0 := by linarith
    have rest : |(|inventory.quantity| - first.quantity)| =
        first.quantity - |inventory.quantity| := by
      rw [abs_of_neg (sub_neg.mpr more), neg_sub]
    rw [rest] at left
    rw [apply_adds _ _ adds, firstApplied]
    dsimp only
    rw [left, if_pos more, if_neg beyond.not_gt, if_neg beyond.ne',
      if_neg beyond.not_ge, min_eq_left more.le, price, ← add_mul,
      mul_div_cancel_left₀ _ excess]

end Pairs

/-- Fills that may be applied in any order: they are on one side, and at one
price unless they stay within the inventory. -/
structure Settleable (inventory : Inventory) (fills : List FillFact) :
    Prop where
  sided : ∀ left ∈ fills, ∀ right ∈ fills, left.side = right.side
  priced : (∀ left ∈ fills, ∀ right ∈ fills, left.price = right.price) ∨
    ¬(inventory.quantity * (fills.map FillFact.signed).sum < 0 ∧
      |inventory.quantity| < |(fills.map FillFact.signed).sum|)

section Settleable

variable {inventory : Inventory} {first second : FillFact}
variable {rest left right : List FillFact}

theorem signed_mul_pos (same : first.side = second.side) :
    0 < first.signed * second.signed := by
  have firstPositive := first.positive.1
  have secondPositive := second.positive.1
  unfold FillFact.signed
  rw [same]
  split
  · exact mul_pos firstPositive secondPositive
  · rw [neg_mul_neg]
    exact mul_pos firstPositive secondPositive

theorem signed_mul_sum_nonneg
    (same : ∀ fill ∈ rest, first.side = fill.side) :
    0 ≤ first.signed * (rest.map FillFact.signed).sum := by
  induction rest with
  | nil => simp
  | cons next rest induction =>
      rw [List.map_cons, List.sum_cons, mul_add]
      exact add_nonneg (signed_mul_pos (same next (.head _))).le
        (induction fun fill member => same fill (.tail _ member))

theorem Settleable.of_perm (perm : left.Perm right)
    (settleable : inventory.Settleable left) :
    inventory.Settleable right := by
  obtain ⟨sided, priced⟩ := settleable
  rw [(perm.map FillFact.signed).sum_eq] at priced
  refine ⟨fun first member second other => ?_, priced.imp_left ?_⟩
  · exact sided _ (perm.mem_iff.mpr member) _ (perm.mem_iff.mpr other)
  · intro same first member second other
    exact same _ (perm.mem_iff.mpr member) _ (perm.mem_iff.mpr other)

theorem Settleable.tail (settleable : inventory.Settleable (first :: rest)) :
    (inventory.apply first).Settleable rest := by
  obtain ⟨sided, priced⟩ := settleable
  have others := signed_mul_sum_nonneg fun fill member =>
    sided first (.head _) fill (.tail _ member)
  refine ⟨fun left member right other =>
    sided _ (.tail _ member) _ (.tail _ other), ?_⟩
  refine priced.imp (fun same left member right other =>
    same _ (.tail _ member) _ (.tail _ other)) ?_
  -- What reverses the rest of the inventory reverses the whole of it.
  rintro covered ⟨opposite, exceeds⟩
  apply covered
  rw [List.map_cons, List.sum_cons]
  change (inventory.quantity + first.signed) * _ < 0 at opposite
  change |inventory.quantity + first.signed| < _ at exceeds
  rcases lt_or_gt_of_ne first.signed_ne_zero with sells | buys
  · have sum := nonpos_of_mul_nonneg_right others sells
    obtain ⟨long, below⟩ | ⟨short, above⟩ := mul_neg_iff.mp opposite
    · rw [abs_of_pos long, abs_of_neg below] at exceeds
      have whole : 0 < inventory.quantity := by linarith
      rw [abs_of_pos whole, abs_of_neg (by linarith)]
      exact ⟨mul_neg_of_pos_of_neg whole (by linarith), by linarith⟩
    · exact absurd above sum.not_gt
  · have sum := nonneg_of_mul_nonneg_right others buys
    obtain ⟨long, below⟩ | ⟨short, above⟩ := mul_neg_iff.mp opposite
    · exact absurd below sum.not_gt
    · rw [abs_of_neg short, abs_of_pos above] at exceeds
      have whole : inventory.quantity < 0 := by linarith
      rw [abs_of_neg whole, abs_of_pos (by linarith)]
      exact ⟨mul_neg_of_neg_of_pos whole (by linarith), by linarith⟩

theorem Settleable.within
    (settleable : inventory.Settleable (first :: second :: rest))
    (opposite : inventory.quantity * first.signed < 0) :
    first.price = second.price ∨
      first.quantity + second.quantity ≤ |inventory.quantity| := by
  obtain ⟨sided, priced⟩ := settleable
  have others := signed_mul_sum_nonneg fun fill member =>
    sided first (.head _) fill (.tail _ (.tail _ member))
  have same := signed_mul_pos
    (sided first (.head _) second (.tail _ (.head _)))
  refine priced.imp (fun equal => equal _ (.head _) _ (.tail _ (.head _)))
    fun covered => ?_
  by_contra beyond
  apply covered
  rw [List.map_cons, List.sum_cons, List.map_cons, List.sum_cons]
  rw [← first.abs_signed, ← second.abs_signed, not_le] at beyond
  rcases mul_neg_iff.mp opposite with ⟨long, sells⟩ | ⟨short, buys⟩
  · have also := neg_of_mul_pos_right same sells.le
    have sum := nonpos_of_mul_nonneg_right others sells
    rw [abs_of_pos long, abs_of_neg sells, abs_of_neg also] at beyond
    rw [abs_of_pos long, abs_of_neg (by linarith)]
    exact ⟨mul_neg_of_pos_of_neg long (by linarith), by linarith⟩
  · have also := pos_of_mul_pos_right same buys.le
    have sum := nonneg_of_mul_nonneg_right others buys
    rw [abs_of_neg short, abs_of_pos buys, abs_of_pos also] at beyond
    rw [abs_of_neg short, abs_of_pos (by linarith)]
    exact ⟨mul_neg_of_neg_of_pos short (by linarith), by linarith⟩

/-- Fills of one time settle in either order. -/
theorem Settleable.swap
    (settleable : inventory.Settleable (first :: second :: rest)) :
    (inventory.apply first).apply second =
      (inventory.apply second).apply first := by
  have same := signed_mul_pos
    (settleable.sided first (.head _) second (.tail _ (.head _)))
  have symm : 0 < second.signed * first.signed := mul_comm first.signed _ ▸ same
  rcases le_or_gt 0 (inventory.quantity * first.signed) with adds | opposite
  · have alsoAdds : 0 ≤ inventory.quantity * second.signed := by
      rcases mul_pos_iff.mp same with ⟨buys, alsoBuys⟩ | ⟨sells, alsoSells⟩
      · exact mul_nonneg (nonneg_of_mul_nonneg_left adds buys) alsoBuys.le
      · exact mul_nonneg_of_nonpos_of_nonpos
          (nonpos_of_mul_nonneg_left adds sells) alsoSells.le
    rw [apply_apply_adds adds same, apply_apply_adds alsoAdds symm]
    congr 1
    · exact add_right_comm _ _ _
    · rw [add_right_comm, add_right_comm |inventory.quantity|]
  · have alsoOpposite : inventory.quantity * second.signed < 0 := by
      rcases mul_pos_iff.mp same with ⟨buys, alsoBuys⟩ | ⟨sells, alsoSells⟩
      · exact mul_neg_of_neg_of_pos (neg_of_mul_neg_left opposite buys.le)
          alsoBuys
      · exact mul_neg_of_pos_of_neg (pos_of_mul_neg_left opposite sells.le)
          alsoSells
    have within := settleable.within opposite
    have alsoWithin : second.price = first.price ∨
        second.quantity + first.quantity ≤ |inventory.quantity| := by
      rw [add_comm]
      exact within.imp_left Eq.symm
    rw [apply_apply_opposite opposite same within,
      apply_apply_opposite alsoOpposite symm alsoWithin,
      add_comm second.quantity, add_right_comm inventory.quantity]
    rcases within with price | within
    · rw [price, add_comm (second.quantity * _)]
    · rw [if_pos within, if_pos within, add_comm (second.quantity * _)]
      congr 1
      rcases within.lt_or_eq with less | equal
      · rw [if_pos less, if_pos less]
      · rw [if_neg equal.not_lt, if_neg equal.not_lt, if_pos equal,
          if_pos equal]

theorem Settleable.applyAll_perm (settleable : inventory.Settleable left)
    (perm : left.Perm right) :
    inventory.applyAll left = inventory.applyAll right :=
  Grouping.foldl_perm Settleable (fun _ _ _ => .of_perm) (fun _ _ _ => .tail)
    (fun _ _ _ _ => Settleable.swap) perm settleable

end Settleable

theorem applyAll_quantity (inventory : Inventory) (fills : List FillFact) :
    (inventory.applyAll fills).quantity =
      inventory.quantity + (fills.map FillFact.signed).sum := by
  induction fills generalizing inventory with
  | nil => exact (add_zero _).symm
  | cons fill rest induction =>
      rw [List.map_cons, List.sum_cons, ← add_assoc]
      exact induction (inventory.apply fill)

end Inventory

section Ambiguity

theorem eq_of_eraseDups {α β : Type*} [DecidableEq β] {f : α → β}
    {items : List α} (single : (items.map f).eraseDups.length ≤ 1)
    {left right : α} (leftMember : left ∈ items) (rightMember : right ∈ items) :
    f left = f right := by
  have leftKept : f left ∈ (items.map f).eraseDups :=
    List.mem_eraseDups.mpr (List.mem_map_of_mem leftMember)
  have rightKept : f right ∈ (items.map f).eraseDups :=
    List.mem_eraseDups.mpr (List.mem_map_of_mem rightMember)
  match kept : (items.map f).eraseDups with
  | [] =>
      rw [kept] at leftKept
      cases leftKept
  | [value] =>
      rw [kept, List.mem_singleton] at leftKept rightKept
      rw [leftKept, rightKept]
  | _ :: _ :: _ =>
      rw [kept] at single
      simp at single

theorem settleable_of_unambiguous {inventory : Inventory}
    {group : List FillFact}
    (unambiguous : ambiguousGroup inventory.quantity group = false) :
    inventory.Settleable group := by
  unfold ambiguousGroup at unambiguous
  simp only [decide_eq_false_iff_not, not_or, not_lt, not_and] at unambiguous
  obtain ⟨sides, prices⟩ := unambiguous
  refine ⟨fun left leftMember right rightMember =>
    eq_of_eraseDups sides leftMember rightMember, ?_⟩
  by_cases reverses : inventory.quantity * (group.map FillFact.signed).sum < 0 ∧
      |inventory.quantity| < |(group.map FillFact.signed).sum|
  · exact .inl fun left leftMember right rightMember =>
      eq_of_eraseDups (prices reverses.1 reverses.2) leftMember rightMember
  · exact .inr reverses

theorem along_of_unambiguous {inventory : Inventory}
    {groups : List (List FillFact)}
    (unambiguous : ambiguousFrom inventory.quantity groups = false) :
    Grouping.Along Inventory.apply Inventory.Settleable inventory groups := by
  induction groups generalizing inventory with
  | nil => trivial
  | cons group rest induction =>
      rw [ambiguousFrom, Bool.or_eq_false_iff] at unambiguous
      refine ⟨settleable_of_unambiguous unambiguous.1, induction ?_⟩
      exact (inventory.applyAll_quantity group).symm ▸ unambiguous.2

end Ambiguity

section Sorting

def FillFact.sortKey (fill : FillFact) : ℤ ×ₗ String ×ₗ String :=
  toLex (fill.executedAt, toLex (fill.orderId, fill.fillId))

theorem FillFact.notAfter_iff (left right : FillFact) :
    left.notAfter right = true ↔ left.sortKey ≤ right.sortKey := by
  unfold FillFact.notAfter FillFact.sortKey
  rw [decide_eq_true_iff, Prod.Lex.toLex_le_toLex, Prod.Lex.toLex_le_toLex]

section

variable (baseline : PositionBaseline) (fills : List FillFact)

include baseline fills

theorem relevantFills_sorted :
    (relevantFills baseline fills).Pairwise fun left right =>
      left.sortKey ≤ right.sortKey := by
  have sorted : (relevantFills baseline fills).Pairwise fun left right =>
      left.notAfter right = true := by
    refine List.pairwise_mergeSort ?_ ?_ _
    · intro first second third before after
      rw [FillFact.notAfter_iff] at before after ⊢
      exact before.trans after
    · intro first second
      rw [Bool.or_eq_true, FillFact.notAfter_iff, FillFact.notAfter_iff]
      exact le_total _ _
  exact sorted.imp fun before => (FillFact.notAfter_iff _ _).mp before

theorem relevantFills_byTime :
    (relevantFills baseline fills).Pairwise fun left right =>
      left.executedAt ≤ right.executedAt :=
  (relevantFills_sorted baseline fills).imp fun {left right} before => by
    rcases Prod.Lex.toLex_le_toLex.mp before with earlier | ⟨same, _⟩
    · exact earlier.le
    · exact same.le

theorem relevantFills_perm :
    (relevantFills baseline fills).Perm
      (fills.filter fun fill => decide (baseline.effectiveAt < fill.executedAt)) :=
  List.mergeSort_perm _ _

end

theorem relevantFills_eq_of_perm (baseline : PositionBaseline)
    {fills others : List FillFact}
    (distinct : (fills.map fun fill => (fill.orderId, fill.fillId)).Nodup)
    (perm : fills.Perm others) :
    relevantFills baseline fills = relevantFills baseline others := by
  refine List.Perm.eq_of_pairwise ?_ (relevantFills_sorted baseline fills)
    (relevantFills_sorted baseline others)
    ((relevantFills_perm baseline fills).trans
      ((perm.filter _).trans (relevantFills_perm baseline others).symm))
  intro left right leftMember rightMember before after
  have leftGiven := List.mem_of_mem_filter
    ((relevantFills_perm baseline fills).mem_iff.mp leftMember)
  have rightGiven := perm.mem_iff.mpr (List.mem_of_mem_filter
    ((relevantFills_perm baseline others).mem_iff.mp rightMember))
  have same : left.sortKey = right.sortKey := le_antisymm before after
  have names := (Prod.mk.inj (toLex.injective same)).2
  exact List.inj_on_of_nodup_map distinct leftGiven rightGiven
    (toLex.injective names)

end Sorting

section Projection

variable {symbol : String} {fills others : List FillFact}
variable {baseline : Option PositionBaseline}
variable {coverageReasons : List ProjectionReason}
variable {projection : PositionProjection}

theorem projectFills_eq_of_perm
    (distinct : (fills.map fun fill => (fill.orderId, fill.fillId)).Nodup)
    (perm : fills.Perm others) :
    projectFills symbol fills baseline coverageReasons =
      projectFills symbol others baseline coverageReasons := by
  have foreign : fills.any (fun fill => fill.symbol ≠ symbol) =
      others.any fun fill => fill.symbol ≠ symbol := by
    rw [Bool.eq_iff_iff, List.any_eq_true, List.any_eq_true]
    simp only [perm.mem_iff]
  unfold projectFills projectPosition
  rw [foreign]
  cases baseline with
  | none => rw [perm.length_eq]
  | some opening =>
      dsimp only
      rw [relevantFills_eq_of_perm opening distinct perm]

/-- A complete projection has a settled inventory. -/
theorem inventory_of_complete
    (projected : projectFills symbol fills baseline coverageReasons =
      .ok projection)
    (complete : projection.complete) :
    ∃ opening, baseline = some opening ∧
      ambiguousFrom opening.quantity
        (fillsByTime (relevantFills opening fills)) = false ∧
      let inventory :=
        (Inventory.opening opening).applyAll (relevantFills opening fills)
      projection.quantity = some inventory.quantity ∧
        projection.entryPrice = some inventory.entry ∧
        projection.realizedPnl = some inventory.realized := by
  unfold projectFills at projected
  split at projected
  · cases projected
  · cases Except.ok.inj projected
    cases baseline with
    | none =>
        have reasons := ProjectionReason.sortedTexts_eq_nil.mp complete
        simp at reasons
    | some opening =>
        refine ⟨opening, rfl, ?_⟩
        unfold projectPosition PositionProjection.complete at complete
        unfold projectPosition
        dsimp only at complete ⊢
        split at complete
        · next empty =>
            rw [if_pos empty]
            rw [List.isEmpty_iff] at empty
            have own := (List.append_eq_nil_iff.mp empty).2
            have inventory := Replay.inventory_foldl (.start opening)
              (relevantFills opening fills)
            refine ⟨by simpa using own, ?_, ?_, ?_⟩
            · exact congrArg (fun state => some state.quantity) inventory
            · exact congrArg (fun state => some state.entry) inventory
            · exact congrArg (fun state => some state.realized) inventory
        · next nonempty =>
            rw [List.isEmpty_iff] at nonempty
            exact absurd (ProjectionReason.sortedTexts_eq_nil.mp complete)
              nonempty

/-- A projection does not depend on the order in which the fills arrive, and
the books of a complete one come from every order that respects the times. -/
theorem projection_order_independent (symbol : String)
    (baseline : Option PositionBaseline)
    (coverageReasons : List ProjectionReason)
    (fills : List FillFact)
    (distinct : (fills.map fun fill => (fill.orderId, fill.fillId)).Nodup) :
    (∀ others, fills.Perm others →
      projectFills symbol fills baseline coverageReasons =
        projectFills symbol others baseline coverageReasons) ∧
    ∀ projection,
      projectFills symbol fills baseline coverageReasons = .ok projection →
      projection.complete →
      ∃ opening, baseline = some opening ∧
        ∀ order : List FillFact,
          order.Perm (fills.filter fun fill =>
            decide (opening.effectiveAt < fill.executedAt)) →
          (order.Pairwise fun left right =>
            left.executedAt ≤ right.executedAt) →
          let inventory := (Inventory.opening opening).applyAll order
          projection.quantity = some inventory.quantity ∧
            projection.entryPrice = some inventory.entry ∧
            projection.realizedPnl = some inventory.realized := by
  refine ⟨fun others perm => projectFills_eq_of_perm distinct perm, ?_⟩
  intro projection projected complete
  obtain ⟨opening, given, unambiguous, books⟩ :=
    inventory_of_complete projected complete
  refine ⟨opening, given, fun order perm sorted => ?_⟩
  have same : (Inventory.opening opening).applyAll (relevantFills opening fills) =
      (Inventory.opening opening).applyAll order :=
    Grouping.foldl_sorted_perm FillFact.executedAt
      (fun _ _ _ swapped settleable => settleable.applyAll_perm swapped)
      (relevantFills_byTime opening fills) sorted
      ((relevantFills_perm opening fills).trans perm.symm)
      (along_of_unambiguous unambiguous)
  rwa [same] at books

end Projection

def simultaneousFills : List FillFact :=
  let fill (name side : String) (quantity price : ℚ) (executedAt : ℤ)
      (identified : name ≠ "") (sided : side = "buy" ∨ side = "sell")
      (positive : 0 < quantity ∧ 0 < price) : FillFact :=
    { fillId := name
      orderId := name
      clientOrderId := name
      symbol := "BTC-USD"
      side := side
      quantity := quantity
      price := price
      executedAt := executedAt
      fee := none
      feeCurrency := none
      identified := ⟨identified, identified, by decide⟩
      sided := sided
      positive := positive }
  [fill "first" "buy" 1 100 10 (by decide) (.inl rfl) (by norm_num),
    fill "second" "buy" 2 103 10 (by decide) (.inl rfl) (by norm_num),
    fill "third" "sell" 4 110 20 (by decide) (.inr rfl) (by norm_num)]

def flatOpening : PositionBaseline :=
  { symbol := "BTC-USD"
    effectiveAt := 0
    quantity := 0
    entryPrice := none
    evidence := "counted"
    actorId := "operator"
    coveredOrderIds := []
    identified := by decide
    distinct := List.nodup_nil
    named := by simp
    priced := fun nonzero => absurd rfl nonzero
    positive := pos_of_mem_none }

/-- The buys may come in either order, and the fills may arrive in any. -/
theorem simultaneous_fills_order_independent :
    projectFills "BTC-USD" simultaneousFills (some flatOpening) [] =
        projectFills "BTC-USD" simultaneousFills.reverse (some flatOpening)
          [] ∧
      (replayed "BTC-USD" flatOpening simultaneousFills).realizedPnl =
        some ((Inventory.opening flatOpening).applyAll
          ((simultaneousFills.take 2).reverse ++
            simultaneousFills.drop 2)).realized := by
  have independent := projection_order_independent "BTC-USD"
    (some flatOpening) [] simultaneousFills (by decide +kernel)
  have sorted : relevantFills flatOpening simultaneousFills =
      simultaneousFills :=
    List.mergeSort_of_pairwise (by decide +kernel)
  have projected : projectFills "BTC-USD" simultaneousFills
      (some flatOpening) [] =
        .ok (replayed "BTC-USD" flatOpening simultaneousFills) := by
    unfold projectFills projectPosition
    dsimp only
    rw [sorted, if_neg (by decide +kernel), if_pos (by decide +kernel)]
  refine ⟨independent.1 _ (List.reverse_perm _).symm, ?_⟩
  obtain ⟨_, given, books⟩ := independent.2 _ projected rfl
  cases given
  exact (books _ (by decide +kernel) (by decide +kernel)).2.2

end GptTrader
