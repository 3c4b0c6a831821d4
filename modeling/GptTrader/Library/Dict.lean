import Mathlib.Data.List.Nodup
import Mathlib.Data.List.Basic
import Mathlib.Tactic.Common

/-!
# Insertion-ordered dictionaries

A dictionary keeps its keys in the order of their first insertion; setting an
existing key replaces the value in place.  The uniqueness of keys is a field, so
every dictionary built from the operations has one value for each key.
-/

namespace GptTrader

/-- A dictionary that keeps its order of insertion. -/
structure Dict (κ ν : Type) where
  entries : List (κ × ν)
  nodup : (entries.map Prod.fst).Nodup

namespace Dict

variable {κ ν : Type}

def empty : Dict κ ν :=
  { entries := [], nodup := List.nodup_nil }

def keys (dict : Dict κ ν) : List κ :=
  dict.entries.map Prod.fst

def values (dict : Dict κ ν) : List ν :=
  dict.entries.map Prod.snd

variable [DecidableEq κ]

/-- The value of a key. -/
def get? (dict : Dict κ ν) (key : κ) : Option ν :=
  (dict.entries.find? fun entry => decide (entry.1 = key)).map Prod.snd

def replaceValue (key : κ) (value : ν) (entry : κ × ν) : κ × ν :=
  if entry.1 = key then (key, value) else entry

theorem map_fst_replaceValue (key : κ) (value : ν) (entries : List (κ × ν)) :
    (entries.map (replaceValue key value)).map Prod.fst =
      entries.map Prod.fst := by
  rw [List.map_map]
  apply List.map_congr_left
  intro entry _
  by_cases same : entry.1 = key
  · simp [replaceValue, same]
  · simp [replaceValue, same]

/-- A present key keeps its place. -/
def set (dict : Dict κ ν) (key : κ) (value : ν) : Dict κ ν :=
  if present : key ∈ dict.entries.map Prod.fst then
    { entries := dict.entries.map (replaceValue key value)
      nodup := by
        rw [map_fst_replaceValue]
        exact dict.nodup }
  else
    { entries := dict.entries ++ [(key, value)]
      nodup := by
        rw [List.map_append, List.map_singleton, List.nodup_append]
        refine ⟨dict.nodup, List.nodup_singleton key, ?_⟩
        intro other member last lastMember equality
        rw [List.mem_singleton.mp lastMember] at equality
        exact present (by rwa [equality] at member) }

def setAll (dict : Dict κ ν) (pairs : List (κ × ν)) : Dict κ ν :=
  pairs.foldl (fun dict pair => dict.set pair.1 pair.2) dict

/-- The dictionary of pairs; the last value of a key counts. -/
def ofList (pairs : List (κ × ν)) : Dict κ ν :=
  empty.setAll pairs

/-- `{**dict, **other}`. -/
def merge (dict other : Dict κ ν) : Dict κ ν :=
  dict.setAll other.entries

theorem get?_eq_some_iff {dict : Dict κ ν} {key : κ} {value : ν} :
    dict.get? key = some value ↔ (key, value) ∈ dict.entries := by
  unfold get?
  constructor
  · intro found
    obtain ⟨entry, located, rfl⟩ := Option.map_eq_some_iff.mp found
    have member := List.mem_of_find?_eq_some located
    have same := List.find?_some located
    simp only [decide_eq_true_eq] at same
    rwa [← same]
  · intro member
    obtain ⟨entry, located⟩ :
        ∃ entry, dict.entries.find? (fun entry => decide (entry.1 = key)) =
          some entry := by
      apply Option.isSome_iff_exists.mp
      rw [List.find?_isSome]
      exact ⟨(key, value), member, by simp⟩
    have located' := List.mem_of_find?_eq_some located
    have same := List.find?_some located
    simp only [decide_eq_true_eq] at same
    have equal : entry = (key, value) :=
      List.inj_on_of_nodup_map dict.nodup located' member same
    rw [located, equal]
    rfl

theorem get?_isSome_iff {dict : Dict κ ν} {key : κ} :
    (dict.get? key).isSome ↔ key ∈ dict.keys := by
  rw [Option.isSome_iff_exists]
  simp only [get?_eq_some_iff, keys, List.mem_map, Prod.exists]
  constructor
  · rintro ⟨value, member⟩
    exact ⟨key, value, member, rfl⟩
  · rintro ⟨other, value, member, rfl⟩
    exact ⟨value, member⟩

theorem get?_eq_none_iff {dict : Dict κ ν} {key : κ} :
    dict.get? key = none ↔ key ∉ dict.keys := by
  rw [← get?_isSome_iff, Option.not_isSome_iff_eq_none]

@[simp] theorem get?_empty (key : κ) : (empty : Dict κ ν).get? key = none :=
  rfl

theorem mem_entries_set {dict : Dict κ ν} {key other : κ} {value found : ν} :
    (other, found) ∈ (dict.set key value).entries ↔
      (other = key ∧ found = value) ∨
        (other ≠ key ∧ (other, found) ∈ dict.entries) := by
  unfold set
  split
  · next present =>
      simp only [List.mem_map]
      constructor
      · rintro ⟨entry, member, replaced⟩
        by_cases same : entry.1 = key
        · left
          simp only [replaceValue, if_pos same, Prod.mk.injEq] at replaced
          exact ⟨replaced.1.symm, replaced.2.symm⟩
        · right
          simp only [replaceValue, if_neg same] at replaced
          subst replaced
          exact ⟨same, member⟩
      · rintro (⟨rfl, rfl⟩ | ⟨different, member⟩)
        · obtain ⟨entry, member, same⟩ := List.mem_map.mp present
          exact ⟨entry, member, by simp [replaceValue, same]⟩
        · exact ⟨(other, found), member, by simp [replaceValue, different]⟩
  · next absent =>
      simp only [List.mem_append, List.mem_singleton, Prod.mk.injEq]
      constructor
      · rintro (member | ⟨rfl, rfl⟩)
        · right
          refine ⟨?_, member⟩
          rintro rfl
          exact absent (List.mem_map.mpr ⟨_, member, rfl⟩)
        · exact .inl ⟨rfl, rfl⟩
      · rintro (⟨rfl, rfl⟩ | ⟨_, member⟩)
        · exact .inr ⟨rfl, rfl⟩
        · exact .inl member

@[simp] theorem get?_set_self (dict : Dict κ ν) (key : κ) (value : ν) :
    (dict.set key value).get? key = some value := by
  rw [get?_eq_some_iff, mem_entries_set]
  exact .inl ⟨rfl, rfl⟩

theorem get?_set_of_ne (dict : Dict κ ν) {key other : κ} (value : ν)
    (different : other ≠ key) :
    (dict.set key value).get? other = dict.get? other := by
  apply Option.ext
  intro found
  rw [get?_eq_some_iff, get?_eq_some_iff, mem_entries_set]
  simp [different]

theorem get?_set (dict : Dict κ ν) (key other : κ) (value : ν) :
    (dict.set key value).get? other =
      if other = key then some value else dict.get? other := by
  by_cases same : other = key
  · subst same
    simp
  · rw [if_neg same, get?_set_of_ne dict value same]

/-- What holds of the new entry and of the old ones holds of all. -/
theorem forall_set {dict : Dict κ ν} {key : κ} {value : ν} {property : κ → ν → Prop}
    (new : property key value)
    (old : ∀ other found, dict.get? other = some found → property other found) :
    ∀ other found, (dict.set key value).get? other = some found →
      property other found := by
  intro other found present
  rw [get?_set] at present
  split at present
  · next same =>
      cases present
      exact same ▸ new
  · exact old other found present

theorem mem_keys_set {dict : Dict κ ν} {key other : κ} {value : ν} :
    other ∈ (dict.set key value).keys ↔ other = key ∨ other ∈ dict.keys := by
  rw [← get?_isSome_iff, ← get?_isSome_iff, get?_set]
  by_cases same : other = key
  · simp [same]
  · simp [same]

theorem get?_setAll_of_not_mem {dict : Dict κ ν} {pairs : List (κ × ν)}
    {key : κ} (absent : key ∉ pairs.map Prod.fst) :
    (dict.setAll pairs).get? key = dict.get? key := by
  induction pairs generalizing dict with
  | nil => rfl
  | cons pair rest induction =>
      simp only [List.map_cons, List.mem_cons, not_or] at absent
      have kept : ((dict.set pair.1 pair.2).setAll rest).get? key = _ :=
        induction absent.2
      exact kept.trans (get?_set_of_ne dict pair.2 absent.1)

theorem get?_setAll_of_mem {dict : Dict κ ν} {pairs : List (κ × ν)}
    (nodup : (pairs.map Prod.fst).Nodup) {key : κ} {value : ν}
    (member : (key, value) ∈ pairs) :
    (dict.setAll pairs).get? key = some value := by
  induction pairs generalizing dict with
  | nil => simp at member
  | cons pair rest induction =>
      obtain ⟨fresh, others⟩ := List.nodup_cons.mp nodup
      rcases List.mem_cons.mp member with rfl | later
      · have kept : ((dict.set key value).setAll rest).get? key = _ :=
          get?_setAll_of_not_mem fresh
        exact kept.trans (get?_set_self dict key value)
      · exact induction others later

theorem get?_setAll_cases {dict : Dict κ ν} {pairs : List (κ × ν)} {key : κ}
    {value : ν} (found : (dict.setAll pairs).get? key = some value) :
    dict.get? key = some value ∨ (key, value) ∈ pairs := by
  induction pairs generalizing dict with
  | nil => exact .inl found
  | cons pair rest induction =>
      have remaining : (dict.set pair.1 pair.2).get? key = some value ∨
          (key, value) ∈ rest := induction found
      rcases remaining with earlier | later
      · rw [get?_set] at earlier
        split at earlier
        · next same =>
            cases earlier
            subst same
            exact .inr (by simp)
        · exact .inl earlier
      · exact .inr (by simp [later])

theorem mem_of_get?_ofList {pairs : List (κ × ν)} {key : κ} {value : ν}
    (found : (ofList pairs).get? key = some value) : (key, value) ∈ pairs := by
  rcases get?_setAll_cases found with earlier | member
  · rw [get?_empty] at earlier
    cases earlier
  · exact member

theorem set_of_get? {dict : Dict κ ν} {key : κ} {value : ν}
    (found : dict.get? key = some value) : dict.set key value = dict := by
  have member := get?_eq_some_iff.mp found
  have present : key ∈ dict.entries.map Prod.fst :=
    List.mem_map.mpr ⟨_, member, rfl⟩
  have fixed : ∀ entry ∈ dict.entries,
      replaceValue key value entry = entry := by
    intro entry stored
    unfold replaceValue
    split
    · next equal =>
        exact (List.inj_on_of_nodup_map dict.nodup stored member equal).symm
    · rfl
  have same : dict.entries.map (replaceValue key value) = dict.entries :=
    (List.map_congr_left fixed).trans (List.map_id' _)
  unfold set
  rw [dif_pos present]
  cases dict
  simp only [same]

theorem merge_self (dict : Dict κ ν) : dict.merge dict = dict := by
  suffices settled : ∀ pairs : List (κ × ν), (∀ pair ∈ pairs,
      dict.get? pair.1 = some pair.2) → dict.setAll pairs = dict from
    settled dict.entries fun pair member => get?_eq_some_iff.mpr member
  intro pairs found
  induction pairs with
  | nil => rfl
  | cons pair rest induction =>
      change (dict.set pair.1 pair.2).setAll rest = dict
      rw [set_of_get? (found pair (by simp))]
      exact induction fun other member => found other (by simp [member])

theorem get?_merge (dict other : Dict κ ν) (key : κ) :
    (dict.merge other).get? key = (other.get? key).or (dict.get? key) := by
  match found : other.get? key with
  | some value =>
      exact get?_setAll_of_mem other.nodup (get?_eq_some_iff.mp found)
  | none =>
      exact get?_setAll_of_not_mem (get?_eq_none_iff.mp found)

end Dict

end GptTrader
