import Mathlib.Data.Rat.Defs
import Mathlib.Data.Rat.Floor
import Mathlib.Algebra.Order.Field.Rat
import Mathlib.Tactic.Common

/-!
# Python values read from stored text

Stored lines are JSON, and the readers of the program apply Python's built-in
conversions to what `json.loads` returns.  Which exceptions a reader catches of those
that they raise decides whether it fails closed.

Parsing a string as an integer, a decimal or an ISO datetime is a parameter
(`TextFormats`): nothing in the development depends on which spellings the
standard library accepts.
-/

namespace GptTrader

/-- The classes of built-in exceptions the readers distinguish.
`json.JSONDecodeError` is a `ValueError`; `OverflowError` and
`decimal.InvalidOperation` are `ArithmeticError`s. -/
inductive PyError where
  | keyError
  | typeError
  | valueError
  | overflowError
  | invalidOperation
  | attributeError
  | recursionError
  deriving DecidableEq, Repr

/-- A Python `float`, read exactly. -/
inductive PyFloat where
  | finite (value : ℚ)
  | infinity (negative : Bool)
  | nan
  deriving DecidableEq

/-- What `json.loads` returns.  Object keys stand in canonical order. -/
inductive Json where
  | null
  | bool (value : Bool)
  | int (value : ℤ)
  | float (value : PyFloat)
  | str (value : String)
  | arr (items : List Json)
  | obj (fields : List (String × Json))

namespace Json

mutual

def beq : Json → Json → Bool
  | .null, .null => true
  | .bool left, .bool right => decide (left = right)
  | .int left, .int right => decide (left = right)
  | .float left, .float right => decide (left = right)
  | .str left, .str right => decide (left = right)
  | .arr left, .arr right => beqItems left right
  | .obj left, .obj right => beqFields left right
  | _, _ => false

def beqItems : List Json → List Json → Bool
  | [], [] => true
  | left :: lefts, right :: rights => beq left right && beqItems lefts rights
  | _, _ => false

def beqFields : List (String × Json) → List (String × Json) → Bool
  | [], [] => true
  | (leftKey, left) :: lefts, (rightKey, right) :: rights =>
      decide (leftKey = rightKey) && beq left right && beqFields lefts rights
  | _, _ => false

end

mutual

theorem beq_refl : ∀ value : Json, beq value value = true
  | .null => rfl
  | .bool _ => by simp [beq]
  | .int _ => by simp [beq]
  | .float _ => by simp [beq]
  | .str _ => by simp [beq]
  | .arr items => by simp [beq, beqItems_refl items]
  | .obj fields => by simp [beq, beqFields_refl fields]

theorem beqItems_refl : ∀ items : List Json, beqItems items items = true
  | [] => rfl
  | item :: rest => by simp [beqItems, beq_refl item, beqItems_refl rest]

theorem beqFields_refl :
    ∀ fields : List (String × Json), beqFields fields fields = true
  | [] => rfl
  | (_, value) :: rest => by
      simp [beqFields, beq_refl value, beqFields_refl rest]

end

mutual

theorem eq_of_beq : ∀ {left right : Json}, beq left right = true → left = right
  | .null, .null, _ => rfl
  | .bool _, .bool _, same => by simpa [beq] using same
  | .int _, .int _, same => by simpa [beq] using same
  | .float _, .float _, same => by simpa [beq] using same
  | .str _, .str _, same => by simpa [beq] using same
  | .arr left, .arr right, same => by
      have items : left = right := eq_of_beqItems (by simpa [beq] using same)
      rw [items]
  | .obj left, .obj right, same => by
      have fields : left = right := eq_of_beqFields (by simpa [beq] using same)
      rw [fields]

theorem eq_of_beqItems :
    ∀ {left right : List Json}, beqItems left right = true → left = right
  | [], [], _ => rfl
  | left :: lefts, right :: rights, same => by
      simp only [beqItems, Bool.and_eq_true] at same
      rw [eq_of_beq same.1, eq_of_beqItems same.2]

theorem eq_of_beqFields :
    ∀ {left right : List (String × Json)},
      beqFields left right = true → left = right
  | [], [], _ => rfl
  | (_, left) :: lefts, (_, right) :: rights, same => by
      simp only [beqFields, Bool.and_eq_true, decide_eq_true_eq] at same
      obtain ⟨⟨keys, values⟩, rest⟩ := same
      rw [keys, eq_of_beq values, eq_of_beqFields rest]

end

instance : DecidableEq Json := fun left right =>
  if same : beq left right = true then
    isTrue (eq_of_beq same)
  else
    isFalse fun equality => same (equality ▸ beq_refl left)

def field? (payload : Json) (key : String) : Option Json :=
  match payload with
  | .obj fields => (fields.find? fun entry => decide (entry.1 = key)).map Prod.snd
  | _ => none

/-- `payload[key]` for a string key: only objects are subscriptable so. -/
def getItem (payload : Json) (key : String) : Except PyError Json :=
  match payload with
  | .obj _ =>
      match payload.field? key with
      | some value => .ok value
      | none => .error .keyError
  | _ => .error .typeError

/-- `payload.get(key, default)`. -/
def getD (payload : Json) (key : String) (default : Json) :
    Except PyError Json :=
  match payload with
  | .obj _ => .ok ((payload.field? key).getD default)
  | _ => .error .attributeError

mutual

def canonical : Json → Json
  | .bool value => .int (if value then 1 else 0)
  | .float (.finite value) =>
      if value.isInt then .int value.num else .float (.finite value)
  | .arr items => .arr (canonicalItems items)
  | .obj fields => .obj (canonicalFields fields)
  | value => value

def canonicalItems : List Json → List Json
  | [] => []
  | item :: rest => canonical item :: canonicalItems rest

def canonicalFields : List (String × Json) → List (String × Json)
  | [] => []
  | (key, value) :: rest => (key, canonical value) :: canonicalFields rest

end

mutual

def hasNan : Json → Bool
  | .float .nan => true
  | .arr items => hasNanItems items
  | .obj fields => hasNanFields fields
  | _ => false

def hasNanItems : List Json → Bool
  | [] => false
  | item :: rest => hasNan item || hasNanItems rest

def hasNanFields : List (String × Json) → Bool
  | [] => false
  | (_, value) :: rest => hasNan value || hasNanFields rest

end

/-- `left == right`. -/
def same (left right : Json) : Bool :=
  decide (left.canonical = right.canonical) && !left.hasNan

theorem same_str {value : Json} {text : String} :
    value.same (.str text) = true ↔ value = .str text := by
  cases value with
  | float float =>
      cases float with
      | finite value =>
          unfold same canonical
          split <;> simp
      | infinity negative => simp [same, canonical]
      | nan => simp [same, canonical]
  | str other => simp [same, canonical, hasNan]
  | null => simp [same, canonical]
  | bool value => simp [same, canonical]
  | int value => simp [same, canonical]
  | arr items => simp [same, canonical]
  | obj fields => simp [same, canonical]

def truthy : Json → Bool
  | .null => false
  | .bool value => value
  | .int value => decide (value ≠ 0)
  | .float (.finite value) => decide (value ≠ 0)
  | .float _ => true
  | .str value => decide (value ≠ "")
  | .arr items => !items.isEmpty
  | .obj fields => !fields.isEmpty

end Json

namespace Json

/-- `value in {texts}` hashes the value first. -/
def isOneOf (texts : List String) : Json → Except PyError Bool
  | .str text => .ok (decide (text ∈ texts))
  | .arr _ => .error .typeError
  | .obj _ => .error .typeError
  | _ => .ok false

/-- `key in payload` for an object. -/
def hasKey (payload : Json) (key : String) : Bool :=
  (payload.field? key).isSome

theorem getItem_eq_ok {payload value : Json} {key : String} :
    payload.getItem key = .ok value ↔ payload.field? key = some value := by
  unfold getItem
  cases payload with
  | obj fields =>
      cases Json.field? (.obj fields) key with
      | none => simp
      | some found => simp
  | null => simp [field?]
  | bool value => simp [field?]
  | int value => simp [field?]
  | float value => simp [field?]
  | str value => simp [field?]
  | arr items => simp [field?]

end Json

/-- A line of a stored stream as its readers see it: blank, refused by
`json.loads`, or the value `json.loads` returns. -/
inductive StoredLine where
  | blank
  | malformed (error : PyError)
  | json (value : Json)
  deriving DecidableEq

/-- The characters `str.strip` removes. -/
def isSpace (char : Char) : Bool :=
  let code := char.toNat
  (9 ≤ code && code ≤ 13) || (28 ≤ code && code ≤ 32) || code == 0x85 ||
    code == 0xA0 || code == 0x1680 || (0x2000 ≤ code && code ≤ 0x200A) ||
    code == 0x2028 || code == 0x2029 || code == 0x202F || code == 0x205F ||
    code == 0x3000

/-- `text.strip()`. -/
def strip (text : String) : String :=
  String.ofList
    ((text.toList.dropWhile isSpace).reverse.dropWhile isSpace).reverse

/-- `not text.strip()`. -/
def isBlank (text : String) : Bool :=
  text.toList.all isSpace

/-- A `decimal.Decimal`; finite values are read exactly. -/
inductive Decimal where
  | finite (value : ℚ)
  | infinity (negative : Bool)
  | nan (signaling : Bool)
  deriving DecidableEq

namespace Decimal

def isFinite : Decimal → Bool
  | .finite _ => true
  | _ => false

/-- Ordering comparisons of a NaN signal `InvalidOperation`. -/
def lt : Decimal → Decimal → Except PyError Bool
  | .nan _, _ => .error .invalidOperation
  | _, .nan _ => .error .invalidOperation
  | .finite left, .finite right => .ok (decide (left < right))
  | .infinity left, .infinity right => .ok (left && !right)
  | .infinity negative, .finite _ => .ok negative
  | .finite _, .infinity negative => .ok !negative

/-- `==` is false for a quiet NaN and signals for a signaling one. -/
def eq : Decimal → Decimal → Except PyError Bool
  | .nan true, _ => .error .invalidOperation
  | _, .nan true => .error .invalidOperation
  | .nan false, _ => .ok false
  | _, .nan false => .ok false
  | .finite left, .finite right => .ok (decide (left = right))
  | .infinity left, .infinity right => .ok (decide (left = right))
  | _, _ => .ok false

/-- `left - right`; infinities of one sign have no difference. -/
def sub : Decimal → Decimal → Except PyError Decimal
  | .nan true, _ => .error .invalidOperation
  | _, .nan true => .error .invalidOperation
  | .nan false, _ => .ok (.nan false)
  | _, .nan false => .ok (.nan false)
  | .finite left, .finite right => .ok (.finite (left - right))
  | .infinity left, .infinity right =>
      if left = right then .error .invalidOperation else .ok (.infinity left)
  | .infinity negative, .finite _ => .ok (.infinity negative)
  | .finite _, .infinity negative => .ok (.infinity !negative)

def isZero : Decimal → Bool
  | .finite value => decide (value = 0)
  | _ => false

@[simp] theorem lt_finite (left right : ℚ) :
    lt (.finite left) (.finite right) = .ok (decide (left < right)) :=
  rfl

@[simp] theorem eq_finite (left right : ℚ) :
    eq (.finite left) (.finite right) = .ok (decide (left = right)) :=
  rfl

end Decimal

/-- A `datetime`: its wall-clock reading in microseconds and its offset from
UTC, absent for a naive value. -/
structure DateTime where
  wall : ℤ
  offset : Option ℤ
  deriving DecidableEq

namespace DateTime

/-- `value.utcoffset() is not None`. -/
def aware (moment : DateTime) : Bool :=
  moment.offset.isSome

def instant (moment : DateTime) : ℤ :=
  moment.wall - moment.offset.getD 0

/-- Ordering an aware against a naive value raises `TypeError`. -/
def lt (left right : DateTime) : Except PyError Bool :=
  if left.aware = right.aware then .ok (decide (left.instant < right.instant))
  else .error .typeError

def utc (instant : ℤ) : DateTime :=
  { wall := instant, offset := some 0 }

end DateTime

/-- The conversions between strings and values of the standard library:
`int`, `Decimal` (of a string and of a sign, digits, exponent sequence),
`datetime.fromisoformat`, their inverses `str` and `isoformat`, and the case
mappings of strings. -/
structure TextFormats where
  upper : String → String
  lower : String → String
  parseInt : String → Option ℤ
  parseDecimal : String → Option Decimal
  parseDecimalItems : List Json → Except PyError Decimal
  parseDateTime : String → Option DateTime
  showDecimal : Decimal → String
  showDateTime : DateTime → String
  parseDecimal_show : ∀ value,
    parseDecimal (showDecimal value) = some value
  parseDateTime_show : ∀ moment,
    parseDateTime (showDateTime moment) = some moment

namespace TextFormats

variable (formats : TextFormats)

/-- Truncation towards zero, as `int` of a float does. -/
def truncate (value : ℚ) : ℤ :=
  if 0 ≤ value then ⌊value⌋ else ⌈value⌉

/-- `int(value)`. -/
def toInt : Json → Except PyError ℤ
  | .bool value => .ok (if value then 1 else 0)
  | .int value => .ok value
  | .float (.finite value) => .ok (truncate value)
  | .float (.infinity _) => .error .overflowError
  | .float .nan => .error .valueError
  | .str text =>
      match formats.parseInt text with
      | some value => .ok value
      | none => .error .valueError
  | _ => .error .typeError

/-- `Decimal(value)`. -/
def toDecimal : Json → Except PyError Decimal
  | .bool value => .ok (.finite (if value then 1 else 0))
  | .int value => .ok (.finite value)
  | .float (.finite value) => .ok (.finite value)
  | .float (.infinity negative) => .ok (.infinity negative)
  | .float .nan => .ok (.nan false)
  | .str text =>
      match formats.parseDecimal text with
      | some value => .ok value
      | none => .error .invalidOperation
  | .arr items => formats.parseDecimalItems items
  | _ => .error .typeError

/-- `datetime.fromisoformat(value)`. -/
def toDateTime : Json → Except PyError DateTime
  | .str text =>
      match formats.parseDateTime text with
      | some moment => .ok moment
      | none => .error .valueError
  | _ => .error .typeError

end TextFormats

theorem pos_of_mem_none : ∀ q ∈ (none : Option ℚ), 0 < q := by
  simp

end GptTrader
