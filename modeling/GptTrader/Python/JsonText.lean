import Mathlib.Algebra.BigOperators.Group.List.Basic
import Mathlib.Algebra.Order.BigOperators.Group.List
import Mathlib.Data.List.Sort
import GptTrader.Python.Values

/-!
# JSON texts

`json.dumps(value, sort_keys=True, separators=(",", ":"))`, which is `encode`
in `features/experiment/ledger.py`, and how many bytes it takes.  Strings are
escaped to ASCII; `float.__repr__` is given.
-/

namespace GptTrader

/-- `"\\u{0:04x}".format(code)`. -/
def unicodeEscape (code : ℕ) : String :=
  "\\u" ++ String.ofList
    [Nat.digitChar (code / 4096 % 16), Nat.digitChar (code / 256 % 16),
      Nat.digitChar (code / 16 % 16), Nat.digitChar (code % 16)]

/-- How `ensure_ascii` writes a character. -/
def escapeChar (char : Char) : String :=
  let code := char.toNat
  if char = '"' then "\\\""
  else if code = 92 then "\\\\"
  else if code = 10 then "\\n"
  else if code = 13 then "\\r"
  else if code = 9 then "\\t"
  else if code = 12 then "\\f"
  else if code = 8 then "\\b"
  else if 32 ≤ code ∧ code ≤ 126 then String.singleton char
  else if code < 65536 then unicodeEscape code
  else
    unicodeEscape (55296 + (code - 65536) / 1024) ++
      unicodeEscape (56320 + (code - 65536) % 1024)

def escapeChars : List Char → String
  | [] => ""
  | char :: rest => escapeChar char ++ escapeChars rest

/-- The text in quotes, escaped. -/
def quoted (text : String) : String :=
  "\"" ++ escapeChars text.toList ++ "\""

/-- `",".join(texts)`. -/
def commaJoined : List String → String
  | [] => ""
  | [text] => text
  | text :: rest => text ++ "," ++ commaJoined rest

namespace Json

variable (showFloat : PyFloat → String)

mutual

/-- The canonical text of a JSON value. -/
def encode : Json → String
  | .null => "null"
  | .bool value => if value then "true" else "false"
  | .int value => toString value
  | .float value => showFloat value
  | .str text => quoted text
  | .arr items => "[" ++ commaJoined (encodeItems items) ++ "]"
  | .obj fields =>
      "\x7b" ++ commaJoined
        (((encodeFields fields).insertionSort
          fun left right => left.1 ≤ right.1).map Prod.snd) ++ "\x7d"

def encodeItems : List Json → List String
  | [] => []
  | item :: rest => encode item :: encodeItems rest

def encodeFields : List (String × Json) → List (String × String)
  | [] => []
  | (key, value) :: rest =>
      (key, quoted key ++ ":" ++ encode value) :: encodeFields rest

end

/-- `len(encode(value).encode())`. -/
def bytes (value : Json) : ℕ :=
  (encode showFloat value).utf8ByteSize

def fieldBytes (field : String × Json) : ℕ :=
  (quoted field.1).utf8ByteSize + 1 + field.2.bytes showFloat + 1

section Bytes

variable {showFloat : PyFloat → String}

theorem utf8ByteSize_commaJoined (texts : List String) (some : texts ≠ []) :
    (commaJoined texts).utf8ByteSize + 1 =
      (texts.map fun text => text.utf8ByteSize + 1).sum := by
  induction texts with
  | nil => exact absurd rfl some
  | cons text rest induction =>
      cases rest with
      | nil => simp [commaJoined]
      | cons next later =>
          have joined := induction (List.cons_ne_nil _ _)
          rw [commaJoined, String.utf8ByteSize_append, String.utf8ByteSize_append,
            List.map_cons, List.sum_cons, ← joined]
          · have comma : ",".utf8ByteSize = 1 := by decide
            omega
          · exact List.cons_ne_nil _ _

theorem map_encodeFields (fields : List (String × Json)) :
    (encodeFields showFloat fields).map
        (fun written => written.2.utf8ByteSize + 1) =
      fields.map (fieldBytes showFloat) := by
  induction fields with
  | nil => rfl
  | cons field rest induction =>
      obtain ⟨key, value⟩ := field
      rw [encodeFields, List.map_cons, List.map_cons, induction,
        String.utf8ByteSize_append, String.utf8ByteSize_append]
      rfl

theorem bytes_obj (fields : List (String × Json)) (some : fields ≠ []) :
    bytes showFloat (.obj fields) =
      (fields.map (fieldBytes showFloat)).sum + 1 := by
  have sorted := List.perm_insertionSort
    (fun left right : String × String => left.1 ≤ right.1)
    (encodeFields showFloat fields)
  have written : ((encodeFields showFloat fields).insertionSort
      fun left right => left.1 ≤ right.1).map Prod.snd ≠ [] := by
    intro empty
    rw [List.map_eq_nil_iff.mp empty] at sorted
    have counted := @map_encodeFields showFloat fields
    rw [List.nil_perm.mp sorted] at counted
    exact some (List.map_eq_nil_iff.mp counted.symm)
  have joined := utf8ByteSize_commaJoined _ written
  rw [List.map_map] at joined
  have total := (sorted.map fun written => written.2.utf8ByteSize + 1).sum_eq
  rw [map_encodeFields] at total
  unfold bytes encode
  rw [String.utf8ByteSize_append, String.utf8ByteSize_append]
  have opening : "\x7b".utf8ByteSize = 1 := by decide
  have closing : "\x7d".utf8ByteSize = 1 := by decide
  change _ = ((encodeFields showFloat fields).insertionSort _ |>.map
    (fun written => written.2.utf8ByteSize + 1)).sum at joined
  rw [total] at joined
  omega

theorem bytes_obj_le {fields others : List (String × Json)}
    (alike : List.Forall₂
      (fun field other => fieldBytes showFloat field ≤ fieldBytes showFloat other)
      fields others) :
    bytes showFloat (.obj fields) ≤ bytes showFloat (.obj others) := by
  by_cases empty : fields = []
  · rw [empty] at alike ⊢
    rw [List.forall₂_nil_left_iff.mp alike]
  · have some : others ≠ [] := by
      intro none
      rw [none] at alike
      exact empty (List.forall₂_nil_right_iff.mp alike)
    rw [bytes_obj fields empty, bytes_obj others some]
    apply Nat.add_le_add_right
    clear empty some
    induction alike with
    | nil => exact Nat.le_refl 0
    | cons first _ induction => exact Nat.add_le_add first induction

theorem bytes_field_le {fields : List (String × Json)} (field : String × Json)
    (member : field ∈ fields) :
    bytes showFloat field.2 ≤ bytes showFloat (.obj fields) := by
  rw [bytes_obj fields (List.ne_nil_of_mem member)]
  have within := List.le_sum_of_mem
    (List.mem_map_of_mem (f := fieldBytes showFloat) member)
  have part : bytes showFloat field.2 ≤ fieldBytes showFloat field := by
    unfold fieldBytes
    omega
  omega

theorem length_le_bytes (text : String) :
    text.length ≤ bytes showFloat (.str text) := by
  have single : ∀ char, 1 ≤ (escapeChar char).utf8ByteSize := by
    intro char
    have coded : ∀ code, 1 ≤ (unicodeEscape code).utf8ByteSize := by
      intro code
      unfold unicodeEscape
      rw [String.utf8ByteSize_append]
      exact Nat.le_add_right_of_le (by decide)
    unfold escapeChar
    dsimp only
    split_ifs
    iterate 7 exact (by decide)
    · rw [String.utf8ByteSize_singleton]
      exact char.utf8Size_pos
    · exact coded _
    · rw [String.utf8ByteSize_append]
      exact Nat.le_add_right_of_le (coded _)
  have written : ∀ chars : List Char,
      chars.length ≤ (escapeChars chars).utf8ByteSize := by
    intro chars
    induction chars with
    | nil => exact Nat.zero_le _
    | cons char rest induction =>
        have first := single char
        rw [escapeChars, String.utf8ByteSize_append, List.length_cons]
        omega
  have inner := written text.toList
  rw [String.length_toList] at inner
  unfold bytes encode quoted
  rw [String.utf8ByteSize_append, String.utf8ByteSize_append]
  omega

theorem utf8ByteSize_ofList (chars : List Char) :
    (String.ofList chars).utf8ByteSize = (chars.map Char.utf8Size).sum := by
  induction chars with
  | nil => rfl
  | cons char rest induction =>
      rw [← List.singleton_append, String.ofList_append,
        String.utf8ByteSize_append, induction, ← String.singleton_eq_ofList,
        String.utf8ByteSize_singleton]
      rfl

theorem bytes_int_le {value digits : ℕ} (some : 0 < digits)
    (below : value < 10 ^ digits) :
    bytes showFloat (.int value) ≤ digits := by
  have single : ∀ char ∈ Nat.toDigits 10 value, char.utf8Size = 1 := by
    intro char member
    have digit := Nat.isDigit_of_mem_toDigits (by decide) (by decide) member
    unfold Char.isDigit at digit
    have nine := of_decide_eq_true (Bool.and_eq_true_iff.mp digit).2
    exact Char.utf8Size_eq_one_iff.mpr (UInt32.le_trans nine (by decide))
  have text : encode showFloat (.int value) =
      String.ofList (Nat.toDigits 10 value) :=
    Nat.repr_eq_ofList_toDigits
  unfold bytes
  rw [text, utf8ByteSize_ofList, List.map_congr_left single, List.map_const',
    List.sum_replicate_nat, Nat.mul_one]
  exact (Nat.length_toDigits_le_iff (by decide) some).mpr below

end Bytes

end Json

end GptTrader
