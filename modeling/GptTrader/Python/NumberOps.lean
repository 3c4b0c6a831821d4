import Mathlib.Algebra.Order.Field.Rat
import Mathlib.Data.Rat.Sqrt

/-!
# Operations of decimals and floats

The operations of `decimal.Decimal` and of `float` that incremental indicators use, as
parameters: the same operation on the same values gives the same result, whatever it
rounds.
-/

namespace GptTrader

/-- The operations of `Decimal` in some context. -/
class DecimalOps (δ : Type) extends Add δ, Sub δ, Mul δ, Div δ, NatCast δ, LT δ where
  abs : δ → δ
  /-- `value ** 2`. -/
  square : δ → δ
  sqrt : δ → δ
  truthy : δ → Bool
  decidableLT (left right : δ) : Decidable (left < right)
  truthy_of_pos (value : δ) : ((0 : ℕ) : δ) < value → truthy value = true

instance DecimalOps.ltDecidable {δ : Type} [DecimalOps δ] (left right : δ) : Decidable (left < right) :=
  DecimalOps.decidableLT left right

/-- The operations of `float`. -/
class FloatOps (φ : Type) extends Add φ, Sub φ, Mul φ, Div φ, Neg φ, LT φ where
  /-- A literal of the source. -/
  literal : ℚ → φ
  /-- The float of an integer. -/
  ofInt : ℤ → φ
  /-- `/` of two integers. -/
  ratio : ℤ → ℤ → φ
  abs : φ → φ
  /-- `sum` of a list. -/
  sum : List φ → φ
  isZero : φ → Bool
  decidableLT (left right : φ) : Decidable (left < right)

instance FloatOps.ltDecidable {φ : Type} [FloatOps φ] (left right : φ) : Decidable (left < right) :=
  FloatOps.decidableLT left right

/-- The conversions between decimals and floats. -/
class NumberConversions (δ φ : Type) where
  /-- `float(value)`. -/
  toFloat : δ → φ
  /-- `Decimal(str(value))`. -/
  toDecimal : φ → δ

section PythonOrder

variable {α : Type} [LT α] [DecidableRel (· < · : α → α → Prop)]

/-- `max(first, second)`. -/
def pyMax (first second : α) : α :=
  if first < second then second else first

/-- `min(first, second)`. -/
def pyMin (first second : α) : α :=
  if second < first then second else first

end PythonOrder

namespace ExactNumbers

/-- Exact arithmetic, which decimals follow as long as nothing is rounded. -/
scoped instance decimalOps : DecimalOps ℚ where
  abs := fun value => |value|
  square := fun value => value ^ 2
  sqrt := Rat.sqrt
  truthy := fun value => decide (value ≠ 0)
  decidableLT := fun _ _ => inferInstance
  truthy_of_pos := fun value positive => by
    have nonzero : (value : ℚ) ≠ 0 := (Nat.cast_zero (R := ℚ) ▸ positive).ne'
    exact decide_eq_true nonzero

scoped instance floatOps : FloatOps ℚ where
  literal := fun value => value
  ofInt := fun value => value
  ratio := fun left right => left / right
  abs := fun value => |value|
  sum := List.sum
  isZero := fun value => decide (value = 0)
  decidableLT := fun _ _ => inferInstance

scoped instance conversions : NumberConversions ℚ ℚ where
  toFloat := fun value => value
  toDecimal := fun value => value

end ExactNumbers

/-- `sum(values, Decimal("0"))`. -/
def decimalSum {δ : Type} [DecimalOps δ] (values : List δ) : δ :=
  values.foldl (fun total value => total + value) ((0 : ℕ) : δ)

end GptTrader
