import GptTrader.Library.AlignedDicts
import GptTrader.Library.Outcome

/-!
# Values that are written and read back

A writer and a reader that may raise.  Reading what was written returns the value, for
every value that is good enough to be written; lists, options and dictionaries of such
values are read back too.
-/

namespace GptTrader

/-- Reading what was written gives it back. -/
def RoundTrips {ε α σ : Type} (good : α → Prop) (write : α → σ)
    (read : σ → Except ε α) : Prop :=
  ∀ value, good value → read (write value) = .ok value

namespace RoundTrips

variable {ε α σ : Type} {good : α → Prop} {write : α → σ} {read : σ → Except ε α}

theorem list (trips : RoundTrips good write read) :
    RoundTrips (fun values => ∀ value ∈ values, good value) (List.map write)
      (List.mapM read) := by
  intro values each
  rw [Outcome.mapM_eq_ok, List.forall₂_map_left_iff, List.forall₂_same]
  intro value member
  exact trips value (each value member)

end RoundTrips

namespace Dict

variable {κ ν : Type}

theorem ext_entries {dict other : Dict κ ν} (same : dict.entries = other.entries) :
    dict = other := by
  cases dict
  cases other
  cases same
  rfl

variable [DecidableEq κ]

theorem ofList_entries (dict : Dict κ ν) : ofList dict.entries = dict := by
  apply ext_entries
  exact entries_ofList dict.nodup

theorem foldlM_set {ε σ : Type} {good : ν → Prop} {write : ν → σ}
    {read : σ → Except ε ν} (trips : RoundTrips good write read)
    (start : Dict κ ν) (pairs : List (κ × ν))
    (each : ∀ pair ∈ pairs, good pair.2) :
    (pairs.map fun pair => (pair.1, write pair.2)).foldlM
        (fun (dict : Dict κ ν) (pair : κ × σ) =>
          (read pair.2).map fun value => dict.set pair.1 value) start =
      .ok (start.setAll pairs) := by
  induction pairs generalizing start with
  | nil => rfl
  | cons pair rest induction =>
      rw [List.map_cons, List.foldlM_cons, trips pair.2 (each pair List.mem_cons_self)]
      exact induction (start.set pair.1 pair.2) fun other member =>
        each other (List.mem_cons_of_mem pair member)

end Dict

end GptTrader
