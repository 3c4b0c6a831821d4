import Mathlib.Data.List.Nodup
import Mathlib.Data.List.Basic
import Mathlib.Tactic.Common

/-!
# Tables with a unique column

A table is the list of its rows in insertion order, no two of which share the
unique column.  Inserting or replacing removes whatever row holds the column's
value; an update which would give two rows one value is refused.
-/

namespace GptTrader

structure Table (ρ κ : Type) (key : ρ → κ) where
  rows : List ρ
  unique : (rows.map key).Nodup

namespace Table

variable {ρ κ : Type} {key : ρ → κ}

def empty : Table ρ κ key :=
  { rows := [], unique := List.nodup_nil }

theorem eq_of_key_eq (table : Table ρ κ key) {left right : ρ}
    (leftMember : left ∈ table.rows) (rightMember : right ∈ table.rows)
    (same : key left = key right) : left = right :=
  List.inj_on_of_nodup_map table.unique leftMember rightMember same

variable [DecidableEq κ]

/-- The row of a key. -/
def find? (table : Table ρ κ key) (value : κ) : Option ρ :=
  table.rows.find? fun row => decide (key row = value)

/-- `INSERT OR REPLACE`: the row with the same key, if any, is deleted. -/
def insertOrReplace (table : Table ρ κ key) (row : ρ) : Table ρ κ key :=
  { rows := (table.rows.filter fun old => decide (key old ≠ key row)) ++ [row]
    unique := by
      rw [List.map_append, List.map_singleton, List.nodup_append]
      refine ⟨?_, List.nodup_singleton _, ?_⟩
      · exact (List.Sublist.map key List.filter_sublist).nodup table.unique
      · intro value member last lastMember equality
        obtain ⟨old, kept, rfl⟩ := List.mem_map.mp member
        have different := (List.mem_filter.mp kept).2
        rw [List.mem_singleton.mp lastMember] at equality
        simp [equality] at different }

/-- `UPDATE … WHERE`: refused when two rows would share the unique column. -/
def update (table : Table ρ κ key) (selected : ρ → Bool) (change : ρ → ρ) :
    Option (Table ρ κ key) :=
  let changed :=
    table.rows.map fun row => if selected row then change row else row
  if unique : (changed.map key).Nodup then
    some { rows := changed, unique := unique }
  else none

/-- `DELETE FROM … WHERE`. -/
def delete (table : Table ρ κ key) (selected : ρ → Bool) : Table ρ κ key :=
  { rows := table.rows.filter fun row => !selected row
    unique :=
      (List.Sublist.map key List.filter_sublist).nodup table.unique }

omit [DecidableEq κ] in
theorem mem_delete {table : Table ρ κ key} {selected : ρ → Bool} {row : ρ} :
    row ∈ (table.delete selected).rows ↔
      row ∈ table.rows ∧ selected row = false := by
  simp [delete]

theorem find?_eq_some_iff {table : Table ρ κ key} {value : κ} {row : ρ} :
    table.find? value = some row ↔ row ∈ table.rows ∧ key row = value := by
  unfold find?
  constructor
  · intro found
    exact ⟨List.mem_of_find?_eq_some found, by simpa using List.find?_some found⟩
  · rintro ⟨member, rfl⟩
    obtain ⟨other, found⟩ :
        ∃ other, table.rows.find? (fun old => decide (key old = key row)) =
          some other := by
      apply Option.isSome_iff_exists.mp
      rw [List.find?_isSome]
      exact ⟨row, member, by simp⟩
    have same : key other = key row := by simpa using List.find?_some found
    rw [found, table.eq_of_key_eq (List.mem_of_find?_eq_some found) member same]

theorem find?_eq_none_iff {table : Table ρ κ key} {value : κ} :
    table.find? value = none ↔ ∀ row ∈ table.rows, key row ≠ value := by
  simp [find?]

theorem mem_insertOrReplace {table : Table ρ κ key} {row other : ρ} :
    other ∈ (table.insertOrReplace row).rows ↔
      other = row ∨ (other ∈ table.rows ∧ key other ≠ key row) := by
  simp [insertOrReplace, or_comm]

theorem mem_update {table changed : Table ρ κ key} {selected : ρ → Bool}
    {change : ρ → ρ} (updated : table.update selected change = some changed)
    {row : ρ} :
    row ∈ changed.rows ↔
      ∃ old ∈ table.rows, (if selected old then change old else old) = row := by
  simp only [update] at updated
  split at updated
  · simp only [Option.some.injEq] at updated
    rw [← updated]
    simp
  · simp at updated

end Table

end GptTrader
