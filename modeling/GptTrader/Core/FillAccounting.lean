import GptTrader.Python.Values

/-!
# Identified execution facts

The facts of `core/fill_accounting.py` the orders database stores: identified
fills, cumulative observations and opening baselines.  The checks of a
constructor are fields of its structure.  A stored row keeps what reading its
payload yields, since a payload may be corrupted.
-/

namespace GptTrader

structure FillFact where
  fillId : String
  orderId : String
  clientOrderId : String
  symbol : String
  side : String
  quantity : ℚ
  price : ℚ
  executedAt : ℤ
  fee : Option ℚ
  feeCurrency : Option String
  identified : fillId ≠ "" ∧ orderId ≠ "" ∧ symbol ≠ ""
  sided : side = "buy" ∨ side = "sell"
  positive : 0 < quantity ∧ 0 < price
  deriving DecidableEq

theorem FillFact.bought : "buy" = "buy" ∨ "buy" = "sell" :=
  .inl rfl

theorem FillFact.one_at_hundred : (0 : ℚ) < 1 ∧ (0 : ℚ) < 100 := by
  norm_num

/-- A cumulative order snapshot, never to be added to individual fills. -/
structure FillObservation where
  orderId : String
  clientOrderId : String
  symbol : String
  side : String
  quantity : Decimal
  notional : Option Decimal
  averagePrice : Option Decimal
  observedAt : DateTime
  source : String
  deriving DecidableEq

/-- Explicit opening inventory, inclusive of executions at `effectiveAt`. -/
structure PositionBaseline where
  symbol : String
  effectiveAt : ℤ
  quantity : ℚ
  entryPrice : Option ℚ
  evidence : String
  actorId : String
  coveredOrderIds : List String
  identified : symbol ≠ "" ∧ isBlank evidence = false ∧ isBlank actorId = false
  distinct : coveredOrderIds.Nodup
  named : ∀ orderId ∈ coveredOrderIds, orderId ≠ ""
  priced : quantity ≠ 0 → entryPrice.isSome
  positive : ∀ price ∈ entryPrice, 0 < price
  deriving DecidableEq

/-- `decimal_value(value)`. -/
def decimalValue (value : Decimal) : Option ℚ :=
  match value with
  | .finite value => some value
  | _ => none

/-- `decimal_value(value, positive=True)`. -/
def positiveValue (value : Decimal) : Option ℚ :=
  (decimalValue value).filter fun value => decide (0 < value)

end GptTrader
