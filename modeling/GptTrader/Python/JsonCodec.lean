import GptTrader.Library.Dict
import GptTrader.Python.Values
import GptTrader.Python.NumberOps

/-!
# Values through JSON

`json.dumps` followed by `json.loads` returns a value whose objects have distinct keys.
Decimals are written as `str` and read by `Decimal`; floats are JSON numbers.
-/

namespace GptTrader

namespace Json

mutual

/-- Every object in the value has distinct keys, as a `dict` has. -/
def DistinctKeys : Json → Prop
  | .arr items => DistinctItems items
  | .obj fields => (fields.map Prod.fst).Nodup ∧ DistinctFields fields
  | _ => True

def DistinctItems : List Json → Prop
  | [] => True
  | item :: rest => DistinctKeys item ∧ DistinctItems rest

def DistinctFields : List (String × Json) → Prop
  | [] => True
  | (_, value) :: rest => DistinctKeys value ∧ DistinctFields rest

end

theorem distinctItems_iff {items : List Json} :
    DistinctItems items ↔ ∀ item ∈ items, item.DistinctKeys := by
  induction items with
  | nil => simp [DistinctItems]
  | cons item rest induction => simp [DistinctItems, induction]

theorem distinctFields_iff {fields : List (String × Json)} :
    DistinctFields fields ↔ ∀ field ∈ fields, field.2.DistinctKeys := by
  induction fields with
  | nil => simp [DistinctFields]
  | cons field rest induction => simp [DistinctFields, induction]

@[simp] theorem distinctKeys_null : DistinctKeys .null := by
  simp [DistinctKeys]

@[simp] theorem distinctKeys_bool (value : Bool) : DistinctKeys (.bool value) := by
  simp [DistinctKeys]

@[simp] theorem distinctKeys_int (value : ℤ) : DistinctKeys (.int value) := by
  simp [DistinctKeys]

@[simp] theorem distinctKeys_float (value : PyFloat) :
    DistinctKeys (.float value) := by
  simp [DistinctKeys]

@[simp] theorem distinctKeys_str (text : String) : DistinctKeys (.str text) := by
  simp [DistinctKeys]

theorem distinctKeys_arr {α : Type} {values : List α} {write : α → Json}
    (each : ∀ value ∈ values, (write value).DistinctKeys) :
    DistinctKeys (.arr (values.map write)) := by
  unfold DistinctKeys
  rw [distinctItems_iff]
  intro item member
  obtain ⟨value, listed, rfl⟩ := List.mem_map.mp member
  exact each value listed

def ofDict {ν : Type} (write : ν → Json) (dict : Dict String ν) : Json :=
  .obj (dict.entries.map fun entry => (entry.1, write entry.2))

theorem distinctKeys_ofDict {ν : Type} {write : ν → Json} {dict : Dict String ν}
    (each : ∀ entry ∈ dict.entries, (write entry.2).DistinctKeys) :
    (ofDict write dict).DistinctKeys := by
  unfold ofDict DistinctKeys
  rw [distinctFields_iff]
  constructor
  · rw [List.map_map]
    exact dict.nodup
  · intro field member
    obtain ⟨entry, listed, rfl⟩ := List.mem_map.mp member
    exact each entry listed

end Json

/-- `json.dumps` and `json.loads`. -/
structure JsonCodec where
  dumps : Json → String
  loads : String → Except PyError Json
  loads_dumps (value : Json) : value.DistinctKeys → loads (dumps value) = .ok value

/-- `str` of a decimal and `Decimal` of a JSON value. -/
class DecimalText (δ : Type) where
  text : δ → String
  read : Json → Except PyError δ
  read_text (value : δ) : read (.str (text value)) = .ok value
  text_nonempty (value : δ) : text value ≠ ""

/-- A float as a JSON number. -/
class FloatJson (φ : Type) where
  write : φ → PyFloat
  read : PyFloat → φ
  read_write (value : φ) : read (write value) = value

end GptTrader
