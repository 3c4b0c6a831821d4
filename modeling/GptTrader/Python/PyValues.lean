import GptTrader.Library.RoundTrips
import GptTrader.Python.JsonCodec
import Mathlib.Data.List.Infix

/-!
# Python values as payloads

The values that a caller may put into a payload, and the JSON value that `json.dumps`
followed by `json.loads` makes of them, if there is one.
-/

namespace GptTrader

/-- What `json.dumps` writes for a key that is a number, a boolean or `None`. -/
abbrev ScalarText :=
  { text : String // ∃ first ∈ "-0123456789tfnNI".toList, text.toList.head? = some first }

/-- A key of a dict. -/
inductive PyKey where
  | str (text : String)
  | scalar (text : ScalarText)
  | other
  deriving DecidableEq

def PyKey.text : PyKey → Except PyError String
  | .str text => .ok text
  | .scalar text => .ok text.val
  | .other => .error .typeError

/-- A Python value.  A dict is that of some pairs, of which the last with a key counts;
`object` is a value that is no container and not serialisable, such as a `Decimal`. -/
inductive PyValue where
  | none
  | bool (value : Bool)
  | int (value : ℤ)
  | float (value : PyFloat)
  | str (value : String)
  | list (items : List PyValue)
  | tuple (items : List PyValue)
  | dict (entries : List (PyKey × PyValue))
  | object

namespace PyValue

/-- `bool(value)`. -/
def truthy : PyValue → Bool
  | .none => false
  | .bool value => value
  | .int value => decide (value ≠ 0)
  | .float (.finite value) => decide (value ≠ 0)
  | .float _ => true
  | .str value => decide (value ≠ "")
  | .list items => !items.isEmpty
  | .tuple items => !items.isEmpty
  | .dict entries => !entries.isEmpty
  | .object => true

/-- `value or other`. -/
def orElse (value other : PyValue) : PyValue :=
  if value.truthy then value else other

/-- `isinstance(value, dict)`. -/
def isDict : PyValue → Bool
  | .dict _ => true
  | _ => false

/-- `value == text`. -/
def isText (text : String) : PyValue → Bool
  | .str value => decide (value = text)
  | _ => false

def lookup (entries : List (PyKey × PyValue)) (key : String) : Option PyValue :=
  (entries.reverse.find? fun entry => decide (entry.1 = .str key)).map Prod.snd

/-- `text in value`. -/
def contains (text : String) : PyValue → Except PyError Bool
  | .dict entries => .ok (lookup entries text).isSome
  | .list items => .ok (items.any (isText text))
  | .tuple items => .ok (items.any (isText text))
  | .str value => .ok (decide (text.toList <:+: value.toList))
  | _ => .error .typeError

/-- `value[key]` of a string. -/
def getItem (key : String) : PyValue → Except PyError PyValue
  | .dict entries =>
      match lookup entries key with
      | some value => .ok value
      | Option.none => .error .keyError
  | _ => .error .typeError

/-- `value.get(key)`. -/
def get (key : String) : PyValue → Except PyError PyValue
  | .dict entries => .ok ((lookup entries key).getD .none)
  | _ => .error .attributeError

/-! ## JSON values -/

mutual

/-- `json.loads(json.dumps(value))`. -/
def toJson : PyValue → Except PyError Json
  | .none => .ok .null
  | .bool value => .ok (.bool value)
  | .int value => .ok (.int value)
  | .float value => .ok (.float value)
  | .str value => .ok (.str value)
  | .list items => (itemsToJson items).map .arr
  | .tuple items => (itemsToJson items).map .arr
  | .dict entries =>
      (entriesToJson entries).map fun fields => .obj (Dict.ofList fields).entries
  | .object => .error .typeError

def itemsToJson : List PyValue → Except PyError (List Json)
  | [] => .ok []
  | item :: rest => do
      let json ← toJson item
      let others ← itemsToJson rest
      pure (json :: others)

def entriesToJson : List (PyKey × PyValue) → Except PyError (List (String × Json))
  | [] => .ok []
  | (key, value) :: rest => do
      let text ← key.text
      let json ← toJson value
      let others ← entriesToJson rest
      pure ((text, json) :: others)

end

mutual

/-- A value that `json.loads` returns. -/
def ofJson : Json → PyValue
  | .null => .none
  | .bool value => .bool value
  | .int value => .int value
  | .float value => .float value
  | .str value => .str value
  | .arr items => .list (itemsOfJson items)
  | .obj fields => .dict (fieldsOfJson fields)

def itemsOfJson : List Json → List PyValue
  | [] => []
  | item :: rest => ofJson item :: itemsOfJson rest

def fieldsOfJson : List (String × Json) → List (PyKey × PyValue)
  | [] => []
  | (key, value) :: rest => (.str key, ofJson value) :: fieldsOfJson rest

end

mutual

theorem toJson_ofJson : ∀ json : Json, json.DistinctKeys → (ofJson json).toJson = .ok json
  | .null, _ => rfl
  | .bool _, _ => rfl
  | .int _, _ => rfl
  | .float _, _ => rfl
  | .str _, _ => rfl
  | .arr items, distinct => by
      unfold Json.DistinctKeys at distinct
      rw [ofJson, toJson, itemsToJson_itemsOfJson items distinct]
      rfl
  | .obj fields, distinct => by
      unfold Json.DistinctKeys at distinct
      obtain ⟨keys, values⟩ := distinct
      have entries : (Dict.ofList fields).entries = fields :=
        Dict.entries_ofList keys
      rw [ofJson, toJson, entriesToJson_fieldsOfJson fields values]
      exact congrArg (fun fields => Except.ok (Json.obj fields)) entries

theorem itemsToJson_itemsOfJson : ∀ items : List Json, Json.DistinctItems items →
    itemsToJson (itemsOfJson items) = .ok items
  | [], _ => rfl
  | item :: rest, distinct => by
      unfold Json.DistinctItems at distinct
      rw [itemsOfJson, itemsToJson, toJson_ofJson item distinct.1,
        itemsToJson_itemsOfJson rest distinct.2]
      rfl

theorem entriesToJson_fieldsOfJson : ∀ fields : List (String × Json),
    Json.DistinctFields fields → entriesToJson (fieldsOfJson fields) = .ok fields
  | [], _ => rfl
  | (key, value) :: rest, distinct => by
      unfold Json.DistinctFields at distinct
      rw [fieldsOfJson, entriesToJson, toJson_ofJson value distinct.1,
        entriesToJson_fieldsOfJson rest distinct.2]
      rfl

end

mutual

theorem toJson_distinct : ∀ (value : PyValue) {json : Json},
    value.toJson = .ok json → json.DistinctKeys
  | .none, _, read => by
      cases read
      exact Json.distinctKeys_null
  | .bool _, _, read => by
      cases read
      exact Json.distinctKeys_bool _
  | .int _, _, read => by
      cases read
      exact Json.distinctKeys_int _
  | .float _, _, read => by
      cases read
      exact Json.distinctKeys_float _
  | .str _, _, read => by
      cases read
      exact Json.distinctKeys_str _
  | .list items, _, read => by
      obtain ⟨values, traversed, rfl⟩ := Outcome.map_eq_ok.mp read
      unfold Json.DistinctKeys
      exact itemsToJson_distinct items traversed
  | .tuple items, _, read => by
      obtain ⟨values, traversed, rfl⟩ := Outcome.map_eq_ok.mp read
      unfold Json.DistinctKeys
      exact itemsToJson_distinct items traversed
  | .dict entries, _, read => by
      obtain ⟨fields, traversed, rfl⟩ := Outcome.map_eq_ok.mp read
      have each := Json.distinctFields_iff.mp (entriesToJson_distinct entries traversed)
      unfold Json.DistinctKeys
      refine ⟨(Dict.ofList fields).nodup, Json.distinctFields_iff.mpr ?_⟩
      intro field member
      have found := Dict.get?_eq_some_iff.mpr member
      exact each (field.1, field.2) (Dict.mem_of_get?_ofList found)
  | .object, _, read => nomatch read

theorem itemsToJson_distinct : ∀ (items : List PyValue) {values : List Json},
    itemsToJson items = .ok values → Json.DistinctItems values
  | [], _, traversed => by
      cases traversed
      trivial
  | item :: rest, values, traversed => by
      rw [itemsToJson] at traversed
      obtain ⟨json, read, later⟩ := Outcome.bind_eq_ok.mp traversed
      obtain ⟨others, readRest, finish⟩ := Outcome.bind_eq_ok.mp later
      cases finish
      exact ⟨toJson_distinct item read, itemsToJson_distinct rest readRest⟩

theorem entriesToJson_distinct : ∀ (entries : List (PyKey × PyValue))
    {fields : List (String × Json)},
    entriesToJson entries = .ok fields → Json.DistinctFields fields
  | [], _, traversed => by
      cases traversed
      trivial
  | (key, value) :: rest, fields, traversed => by
      rw [entriesToJson] at traversed
      obtain ⟨text, named, later⟩ := Outcome.bind_eq_ok.mp traversed
      obtain ⟨json, read, later⟩ := Outcome.bind_eq_ok.mp later
      obtain ⟨others, readRest, finish⟩ := Outcome.bind_eq_ok.mp later
      cases finish
      exact ⟨toJson_distinct value read, entriesToJson_distinct rest readRest⟩

end

end PyValue

end GptTrader
