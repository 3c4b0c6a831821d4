import Mathlib.Algebra.Order.Field.Power
import GptTrader.Experiment.RecordedInput
import GptTrader.Library.Outcome

/-!
# Texts of inputs

How inputs are written: decimals as they are spelled, times with their offsets,
and the fields of JSON objects.  Checks give back what they establish.
-/

namespace GptTrader

/-- A finite `Decimal`, with its exponent. -/
structure SpelledDecimal where
  negative : Bool
  coefficient : ℕ
  exponent : ℤ
  deriving DecidableEq

def SpelledDecimal.value (decimal : SpelledDecimal) : ℚ :=
  (if decimal.negative then -1 else 1) * decimal.coefficient *
    10 ^ decimal.exponent

/-- What `Decimal` reads from a text that it accepts. -/
inductive DecimalReading where
  | finite (number : SpelledDecimal)
  | infinity (negative : Bool)
  | nan (signaling : Bool)
  deriving DecidableEq

/-- The conversions of texts: `str` of a JSON value, `Decimal` of a string and
its inverse `str`, `int` of a string of digits, `datetime.fromisoformat` and its
inverse `isoformat`. -/
structure InputFormats where
  text : Json → String
  parseDecimal : String → Option DecimalReading
  showDecimal : SpelledDecimal → String
  isDigit : String → Bool
  parseInt : String → Option ℤ
  parseDateTime : String → Option DateTime
  showDateTime : DateTime → String
  text_str : ∀ value, text (.str value) = value
  parseDecimal_show : ∀ decimal,
    parseDecimal (showDecimal decimal) = some (.finite decimal)
  parseDateTime_show : ∀ moment,
    parseDateTime (showDateTime moment) = some moment
  showDateTime_plain : ∀ moment, 'Z' ∉ (showDateTime moment).toList

/-- What the readers of inputs raise; both are `ValueError`s. -/
inductive InputError where
  | valueError (message : String)
  | accountingIntegrity (message : String)
  deriving DecidableEq

/-- `if not condition: raise ValueError(message)`. -/
def checked (condition : Prop) [Decidable condition] (message : String) :
    Except InputError (PLift condition) :=
  if holds : condition then .ok ⟨holds⟩ else .error (.valueError message)

theorem checked_of {condition : Prop} [Decidable condition] {message : String}
    (holds : condition) : checked condition message = .ok ⟨holds⟩ := by
  unfold checked
  rw [dif_pos holds]

/-- `value.replace("Z", "+00:00")`. -/
def replaceZ (value : String) : String :=
  String.ofList (value.toList.flatMap fun char =>
    if char = 'Z' then ['+', '0', '0', ':', '0', '0'] else [char])

theorem replaceZ_of_not_mem {value : String} (plain : 'Z' ∉ value.toList) :
    replaceZ value = value := by
  have same : ∀ chars : List Char, 'Z' ∉ chars →
      (chars.flatMap fun char =>
        if char = 'Z' then ['+', '0', '0', ':', '0', '0'] else [char]) =
        chars := by
    intro chars
    induction chars with
    | nil => intro _; rfl
    | cons char rest induction =>
        intro plain
        obtain ⟨other, plain⟩ := not_or.mp (mt List.mem_cons.mpr plain)
        rw [List.flatMap_cons, induction plain, if_neg (Ne.symm other)]
        rfl
  unfold replaceZ
  rw [same _ plain, String.ofList_toList]

section Readers

variable (formats : InputFormats)

def awareTime (value : Json) : Except InputError AwareTime :=
  match value with
  | .str text =>
      match formats.parseDateTime (replaceZ text) with
      | some { wall, offset := some offset } =>
          .ok { instant := wall - offset, offset := offset }
      | _ => .error (.accountingIntegrity "Invalid accounting timestamp")
  | _ => .error (.accountingIntegrity "Invalid accounting timestamp")

/-- `ts.isoformat()`. -/
def AwareTime.isoformat (time : AwareTime) : String :=
  formats.showDateTime
    { wall := time.instant + time.offset
      offset := some time.offset }

variable {formats} in
theorem awareTime_isoformat (time : AwareTime) :
    awareTime formats (.str (time.isoformat formats)) = .ok time := by
  unfold awareTime AwareTime.isoformat
  dsimp only
  rw [replaceZ_of_not_mem (formats.showDateTime_plain _),
    formats.parseDateTime_show]
  dsimp only
  rw [add_sub_cancel_right]

def InputFormats.decimalValue (positive : Bool) (value : Json) : Except InputError
    { number : SpelledDecimal // positive = true → 0 < number.value } :=
  match formats.parseDecimal (formats.text value) with
  | some (.finite number) =>
      if allowed : positive = true → 0 < number.value then .ok ⟨number, allowed⟩
      else .error (.accountingIntegrity "Invalid accounting decimal")
  | _ => .error (.accountingIntegrity "Invalid accounting decimal")

theorem InputFormats.decimalValue_show {positive : Bool}
    (number : { number : SpelledDecimal // positive = true → 0 < number.value }) :
    formats.decimalValue positive (.str (formats.showDecimal number.1)) =
      .ok number := by
  unfold InputFormats.decimalValue
  rw [formats.text_str, formats.parseDecimal_show]
  exact dif_pos number.2

end Readers

namespace Json

/-- `set(payload) <= names`, of an object. -/
def keysWithin (names : List String) : Json → Bool
  | .obj fields => fields.all fun field => decide (field.1 ∈ names)
  | _ => false

/-- `names <= set(payload)`, of an object. -/
def keysCover (names : List String) (payload : Json) : Bool :=
  names.all payload.hasKey

/-- `isinstance(payload, dict) and set(payload) == names`. -/
def keysAre (names : List String) (payload : Json) : Bool :=
  payload.keysWithin names && payload.keysCover names

def setEntry (name : String) (value : Json) :
    List (String × Json) → List (String × Json)
  | [] => [(name, value)]
  | field :: rest =>
      if field.1 = name then (name, value) :: rest
      else field :: setEntry name value rest

/-- `payload[name] = value`. -/
def setField (payload : Json) (name : String) (value : Json) : Json :=
  match payload with
  | .obj fields => .obj (setEntry name value fields)
  | other => other

/-- `payload[name]`, of an object that has the field. -/
def item (payload : Json) (name : String) : Json :=
  (payload.field? name).getD .null

/-- `isinstance(payload, dict)`. -/
def isObject : Json → Bool
  | .obj _ => true
  | _ => false

@[simp] theorem isObject_setField (payload : Json) (name : String)
    (value : Json) :
    (payload.setField name value).isObject = payload.isObject := by
  cases payload <;> rfl

theorem isObject_of_keysWithin {payload : Json} {names : List String}
    (within : payload.keysWithin names = true) : payload.isObject = true := by
  cases payload with
  | obj fields => rfl
  | null => cases within
  | bool _ => cases within
  | int _ => cases within
  | float _ => cases within
  | str _ => cases within
  | arr _ => cases within

theorem field?_setField {payload : Json} (object : payload.isObject = true)
    (name other : String) (value : Json) :
    (payload.setField name value).field? other =
      if other = name then some value else payload.field? other := by
  obtain ⟨fields, rfl⟩ : ∃ fields, payload = .obj fields := by
    cases payload with
    | obj fields => exact ⟨fields, rfl⟩
    | null => cases object
    | bool _ => cases object
    | int _ => cases object
    | float _ => cases object
    | str _ => cases object
    | arr _ => cases object
  unfold setField field?
  dsimp only
  induction fields with
  | nil =>
      unfold setEntry
      rw [List.find?_cons, List.find?_nil]
      by_cases same : other = name
      · rw [if_pos same, decide_eq_true same.symm]
        rfl
      · rw [if_neg same, decide_eq_false (Ne.symm same)]
  | cons field rest induction =>
      unfold setEntry
      split
      · next replaced =>
          rw [List.find?_cons, List.find?_cons, replaced]
          by_cases same : other = name
          · rw [if_pos same, decide_eq_true same.symm]
            rfl
          · rw [if_neg same, decide_eq_false (Ne.symm same)]
      · next kept =>
          rw [List.find?_cons, List.find?_cons]
          by_cases named : field.1 = other
          · rw [decide_eq_true named, if_neg (by rwa [← named])]
          · rw [decide_eq_false named]
            exact induction rfl

theorem setField_of_field? {payload : Json} {name : String} {value : Json}
    (held : payload.field? name = some value) :
    payload.setField name value = payload := by
  cases payload with
  | obj fields =>
      unfold setField
      dsimp only
      congr 1
      unfold field? at held
      dsimp only at held
      induction fields with
      | nil => cases held
      | cons field rest induction =>
          unfold setEntry
          split
          · next named =>
              rw [List.find?_cons, decide_eq_true named] at held
              obtain ⟨key, stored⟩ := field
              cases held
              cases named
              rfl
          · next kept =>
              rw [List.find?_cons, decide_eq_false kept] at held
              rw [induction held]
  | null => rfl
  | bool _ => rfl
  | int _ => rfl
  | float _ => rfl
  | str _ => rfl
  | arr _ => rfl

theorem keysWithin_setField {payload : Json} {names : List String}
    {name : String} (value : Json) (within : payload.keysWithin names = true)
    (listed : name ∈ names) :
    (payload.setField name value).keysWithin names = true := by
  cases payload with
  | obj fields =>
      unfold setField keysWithin at *
      dsimp only at *
      rw [List.all_eq_true] at *
      intro field member
      have known : ∀ fields : List (String × Json),
          field ∈ setEntry name value fields →
            field.1 = name ∨ field ∈ fields := by
        intro fields
        induction fields with
        | nil =>
            intro single
            exact .inl (congrArg Prod.fst (List.mem_singleton.mp single))
        | cons first rest induction =>
            unfold setEntry
            split
            · intro member
              rcases List.mem_cons.mp member with rfl | later
              · exact .inl rfl
              · exact .inr (.tail _ later)
            · intro member
              rcases List.mem_cons.mp member with rfl | later
              · exact .inr (List.mem_cons_self ..)
              · rcases induction later with same | old
                · exact .inl same
                · exact .inr (.tail _ old)
      rcases known fields member with same | old
      · rw [same]
        exact decide_eq_true listed
      · exact within field old
  | null => cases within
  | bool _ => cases within
  | int _ => cases within
  | float _ => cases within
  | str _ => cases within
  | arr _ => cases within

theorem keysCover_setField {payload : Json} {names : List String}
    (object : payload.isObject = true) (name : String) (value : Json)
    (cover : payload.keysCover names = true) :
    (payload.setField name value).keysCover names = true := by
  unfold keysCover at *
  rw [List.all_eq_true] at *
  intro other member
  have present := cover other member
  unfold hasKey at *
  rw [field?_setField object]
  split
  · rfl
  · exact present

end Json

end GptTrader
