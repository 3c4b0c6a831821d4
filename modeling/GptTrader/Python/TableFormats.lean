import Mathlib.Tactic.DeriveEncodable
import Mathlib.Logic.Equiv.List
import Mathlib.Data.Rat.Denumerable
import GptTrader.Python.Values

/-!
# Text conversions given by finite tables

A concrete `TextFormats`: decimals and datetimes listed in a table are spelled
as the table says, every other value by its code in unary.  It instantiates
the development at inputs whose spellings are listed.
-/

namespace GptTrader

deriving instance Encodable for Decimal
deriving instance Encodable for DateTime

/-- Spellings of some values: different keys, none of them marked. -/
structure Spelling (ν : Type) where
  entries : List (String × ν)
  nodup : (entries.map Prod.fst).Nodup
  unmarked : ∀ entry ∈ entries, entry.1.toList.head? ≠ some '@'

namespace Spelling

theorem unmarked_nil {ν : Type} :
    ∀ entry ∈ ([] : List (String × ν)), entry.1.toList.head? ≠ some '@' := by
  simp

theorem newYear_nodup :
    ([("2026-01-01T00:00:00+00:00", DateTime.utc 0)].map Prod.fst).Nodup := by
  decide

theorem newYear_unmarked : ∀ entry ∈ [("2026-01-01T00:00:00+00:00", DateTime.utc 0)],
    entry.1.toList.head? ≠ some '@' := by
  decide

variable {ν : Type} [DecidableEq ν] [Encodable ν] (spelling : Spelling ν)

def toText (value : ν) : String :=
  match spelling.entries.find? fun entry => decide (entry.2 = value) with
  | some entry => entry.1
  | none => String.ofList ('@' :: List.replicate (Encodable.encode value) '@')

def ofText (text : String) : Option ν :=
  match spelling.entries.find? fun entry => decide (entry.1 = text) with
  | some entry => some entry.2
  | none =>
      match text.toList with
      | '@' :: code => Encodable.decode code.length
      | _ => none

theorem ofText_toText (value : ν) :
    spelling.ofText (spelling.toText value) = some value := by
  unfold toText
  split
  · next entry found =>
      have member := List.mem_of_find?_eq_some found
      have spelled : entry.2 = value := by simpa using List.find?_some found
      unfold ofText
      split
      · next other located =>
          have otherMember := List.mem_of_find?_eq_some located
          have same : other.1 = entry.1 := by simpa using List.find?_some located
          rw [List.inj_on_of_nodup_map spelling.nodup otherMember member same,
            spelled]
      · next absent =>
          exact absurd (List.find?_eq_none.mp absent entry member) (by simp)
  · unfold ofText
    split
    · next other located =>
        have otherMember := List.mem_of_find?_eq_some located
        have same := List.find?_some located
        simp only [decide_eq_true_eq] at same
        exact absurd (by rw [same]; simp) (spelling.unmarked other otherMember)
    · simp

theorem toText_last {earlier : List (String × ν)} {text : String} {value : ν}
    (listed : spelling.entries = earlier ++ [(text, value)])
    (absent : ∀ entry ∈ earlier, entry.2 ≠ value) :
    spelling.toText value = text := by
  have none : earlier.find? (fun entry => decide (entry.2 = value)) = none := by
    rw [List.find?_eq_none]
    intro entry member same
    exact absent entry member (of_decide_eq_true same)
  unfold toText
  rw [listed, List.find?_append, none, List.find?_singleton,
    if_pos (decide_eq_true rfl)]
  rfl

theorem not_mem_toText {mark : Char} (other : mark ≠ '@')
    (absent : ∀ entry ∈ spelling.entries, mark ∉ entry.1.toList) (value : ν) :
    mark ∉ (spelling.toText value).toList := by
  unfold toText
  split
  · next entry found => exact absent entry (List.mem_of_find?_eq_some found)
  · simp [other, List.mem_replicate]

end Spelling

def tableFormats (decimals : Spelling Decimal) (moments : Spelling DateTime) :
    TextFormats :=
  { upper := fun text => String.ofList (text.toList.map Char.toUpper)
    lower := fun text => String.ofList (text.toList.map Char.toLower)
    parseInt := String.toInt?
    parseDecimal := decimals.ofText
    parseDecimalItems := fun _ => .error .valueError
    parseDateTime := moments.ofText
    showDecimal := decimals.toText
    showDateTime := moments.toText
    parseDecimal_show := decimals.ofText_toText
    parseDateTime_show := moments.ofText_toText }

end GptTrader
