import GptTrader.Python.JsonCodec
import GptTrader.Python.TableFormats

/-!
# JSON texts given by finite tables

A concrete `JsonCodec`: values listed in a table are spelled as the table says, every
other value by the code of its tokens in postfix order.  Decimals are spelled in the same
way.  They instantiate the development at values whose texts are listed.
-/

namespace GptTrader

instance encodableChar : Encodable Char :=
  .ofLeftInverse Char.toNat Char.ofNat Char.ofNat_toNat

instance encodableString : Encodable String :=
  .ofLeftInverse String.toList String.ofList fun _ => String.ofList_toList

deriving instance Encodable for PyFloat

/-- A token of a value in postfix order; a container takes its items from a stack. -/
inductive JsonToken where
  | null
  | bool (value : Bool)
  | int (value : ℤ)
  | float (value : PyFloat)
  | str (value : String)
  | arr (length : ℕ)
  | obj (keys : List String)
  deriving Encodable

namespace Json

mutual

def tokens : Json → List JsonToken
  | .null => [.null]
  | .bool value => [.bool value]
  | .int value => [.int value]
  | .float value => [.float value]
  | .str value => [.str value]
  | .arr items => itemTokens items ++ [.arr items.length]
  | .obj fields => fieldTokens fields ++ [.obj (fields.map Prod.fst)]

def itemTokens : List Json → List JsonToken
  | [] => []
  | item :: rest => tokens item ++ itemTokens rest

def fieldTokens : List (String × Json) → List JsonToken
  | [] => []
  | (_, value) :: rest => tokens value ++ fieldTokens rest

end

def push (stack : List Json) : JsonToken → List Json
  | .null => .null :: stack
  | .bool value => .bool value :: stack
  | .int value => .int value :: stack
  | .float value => .float value :: stack
  | .str value => .str value :: stack
  | .arr length => .arr (stack.take length).reverse :: stack.drop length
  | .obj keys =>
      .obj (keys.zip (stack.take keys.length).reverse) :: stack.drop keys.length

def ofTokens (tokens : List JsonToken) : Option Json :=
  match tokens.foldl push [] with
  | [value] => some value
  | _ => none

theorem take_pushed (items stack : List Json) :
    ((items.reverse ++ stack).take items.length).reverse = items ∧
      (items.reverse ++ stack).drop items.length = stack := by
  constructor
  · rw [← List.length_reverse, List.take_left, List.reverse_reverse]
  · rw [← List.length_reverse, List.drop_left]

mutual

theorem push_tokens : ∀ (value : Json) (stack : List Json),
    value.tokens.foldl push stack = value :: stack
  | .null, _ => rfl
  | .bool _, _ => rfl
  | .int _, _ => rfl
  | .float _, _ => rfl
  | .str _, _ => rfl
  | .arr items, stack => by
      obtain ⟨taken, dropped⟩ := take_pushed items stack
      rw [tokens, List.foldl_append, push_itemTokens items stack]
      change [Json.arr _] ++ _ = _
      rw [taken, dropped]
      rfl
  | .obj fields, stack => by
      obtain ⟨taken, dropped⟩ := take_pushed (fields.map Prod.snd) stack
      rw [List.length_map] at taken dropped
      rw [tokens, List.foldl_append, push_fieldTokens fields stack]
      change [Json.obj _] ++ _ = _
      rw [List.length_map, taken, dropped, ← List.zip_of_prod rfl rfl]
      rfl

theorem push_itemTokens : ∀ (items stack : List Json),
    (itemTokens items).foldl push stack = items.reverse ++ stack
  | [], _ => rfl
  | item :: rest, stack => by
      rw [itemTokens, List.foldl_append, push_tokens item stack,
        push_itemTokens rest (item :: stack), List.reverse_cons, List.append_assoc]
      rfl

theorem push_fieldTokens : ∀ (fields : List (String × Json)) (stack : List Json),
    (fieldTokens fields).foldl push stack = (fields.map Prod.snd).reverse ++ stack
  | [], _ => rfl
  | (key, value) :: rest, stack => by
      rw [fieldTokens, List.foldl_append, push_tokens value stack,
        push_fieldTokens rest (value :: stack), List.map_cons, List.reverse_cons,
        List.append_assoc]
      rfl

end

theorem ofTokens_tokens (value : Json) : ofTokens value.tokens = some value := by
  unfold ofTokens
  rw [push_tokens]

instance : Encodable Json :=
  .ofLeftInjection tokens ofTokens ofTokens_tokens

end Json

/-- A codec that knows the listed texts. -/
def tableCodec (spelling : Spelling Json) : JsonCodec where
  dumps := spelling.toText
  loads := fun text =>
    match spelling.ofText text with
    | some value => .ok value
    | none => .error .valueError
  loads_dumps := by
    intro value _
    rw [spelling.ofText_toText]

/-- Exact decimals with the listed spellings. -/
abbrev tableDecimalText (spelling : Spelling ℚ)
    (shown : ∀ entry ∈ spelling.entries, entry.1 ≠ "") : DecimalText ℚ where
  text := spelling.toText
  read := fun
    | .str text =>
        match spelling.ofText text with
        | some value => .ok value
        | none => .error .invalidOperation
    | _ => .error .typeError
  read_text := by
    intro value
    dsimp only
    rw [spelling.ofText_toText]
  text_nonempty := by
    intro value
    unfold Spelling.toText
    split
    next entry found => exact shown entry (List.mem_of_find?_eq_some found)
    · intro empty
      have characters := congrArg String.toList empty
      simp at characters

abbrev exactFloatJson : FloatJson ℚ where
  write := .finite
  read := fun
    | .finite value => value
    | _ => 0
  read_write := fun _ => rfl

end GptTrader
