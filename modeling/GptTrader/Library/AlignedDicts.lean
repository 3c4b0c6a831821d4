import Mathlib.Data.List.Forall2
import Mathlib.Data.List.Sort
import GptTrader.Library.KeyedLists

/-!
# Dictionaries with the same keys

Two dictionaries are aligned when they have the same keys in the same order and
the values of every key are related.  Alignment is what a loop keeps that
replaces values of a dictionary and never adds a key.
-/

namespace GptTrader

namespace Dict

variable {κ ν μ ρ : Type}

/-- Same keys in the same order, related values. -/
def Aligned (relation : ν → μ → Prop) (left : Dict κ ν) (right : Dict κ μ) :
    Prop :=
  List.Forall₂ (fun first second => first.1 = second.1 ∧
    relation first.2 second.2) left.entries right.entries

section Alignment

variable {relation : ν → μ → Prop} {left : Dict κ ν} {right : Dict κ μ}

theorem Aligned.refl {relation : ν → ν → Prop} (same : ∀ value, relation value value)
    (dict : Dict κ ν) : Aligned relation dict dict :=
  List.forall₂_same.mpr fun entry _ => ⟨rfl, same entry.2⟩

theorem Aligned.trans {further : μ → ρ → Prop} {composed : ν → ρ → Prop}
    {last : Dict κ ρ}
    (compose : ∀ first second third, relation first second →
      further second third → composed first third)
    (earlier : Aligned relation left right) (later : Aligned further right last) :
    Aligned composed left last := by
  unfold Aligned at *
  generalize left.entries = firsts at earlier
  generalize right.entries = seconds at earlier later
  generalize last.entries = thirds at later
  induction earlier generalizing thirds with
  | nil =>
      cases later
      exact .nil
  | cons related _ induction =>
      cases later with
      | cons further rest =>
          exact .cons ⟨related.1.trans further.1,
            compose _ _ _ related.2 further.2⟩ (induction _ rest)

theorem Aligned.keys (aligned : Aligned relation left right) :
    right.keys = left.keys := by
  unfold Dict.keys
  unfold Aligned at aligned
  generalize left.entries = firsts at aligned
  generalize right.entries = seconds at aligned
  induction aligned with
  | nil => rfl
  | cons related _ induction =>
      rw [List.map_cons, List.map_cons, related.1, induction]

theorem Aligned.values (aligned : Aligned relation left right) :
    List.Forall₂ relation left.values right.values := by
  unfold Dict.values
  rw [List.forall₂_map_left_iff, List.forall₂_map_right_iff]
  exact aligned.imp fun _ _ related => related.2

theorem Aligned.mem (aligned : Aligned relation left right) {entry : κ × μ}
    (member : entry ∈ right.entries) :
    ∃ value, (entry.1, value) ∈ left.entries ∧ relation value entry.2 := by
  unfold Aligned at aligned
  generalize left.entries = firsts at aligned
  generalize right.entries = seconds at aligned member
  induction aligned with
  | nil => cases member
  | @cons first second _ _ related _ induction =>
      rcases List.mem_cons.mp member with rfl | later
      · exact ⟨first.2, by rw [← related.1]; exact .head _, related.2⟩
      · obtain ⟨value, found, related⟩ := induction later
        exact ⟨value, .tail _ found, related⟩

variable [DecidableEq κ]

theorem Aligned.get? (aligned : Aligned relation left right) {key : κ}
    {value : μ} (found : right.get? key = some value) :
    ∃ earlier, left.get? key = some earlier ∧ relation earlier value := by
  obtain ⟨earlier, member, related⟩ :=
    aligned.mem (get?_eq_some_iff.mp found)
  exact ⟨earlier, get?_eq_some_iff.mpr member, related⟩

theorem aligned_set {relation : ν → ν → Prop}
    (same : ∀ value, relation value value) {dict : Dict κ ν} {key : κ}
    {earlier value : ν} (found : dict.get? key = some earlier)
    (related : relation earlier value) :
    Aligned relation dict (dict.set key value) := by
  have present : key ∈ dict.entries.map Prod.fst :=
    List.mem_map.mpr ⟨_, get?_eq_some_iff.mp found, rfl⟩
  unfold Aligned set
  rw [dif_pos present, List.forall₂_map_right_iff, List.forall₂_same]
  intro entry member
  unfold replaceValue
  split
  · next named =>
      refine ⟨named, ?_⟩
      have stored : dict.get? key = some entry.2 :=
        get?_eq_some_iff.mpr (by rw [← named]; exact member)
      rw [Option.some.inj (stored.symm.trans found)]
      exact related
  · exact ⟨rfl, same entry.2⟩

theorem Aligned.set_right {further : ν → μ → Prop}
    (aligned : Aligned relation left right) {key : κ} {earlier : ν} {value : μ}
    (found : left.get? key = some earlier) (replaced : further earlier value)
    (kept : ∀ other first second, (other, first) ∈ left.entries → other ≠ key →
      relation first second → further first second) :
    Aligned further left (right.set key value) := by
  have present : key ∈ right.entries.map Prod.fst := by
    change key ∈ right.keys
    rw [aligned.keys]
    exact List.mem_map.mpr ⟨_, get?_eq_some_iff.mp found, rfl⟩
  have listed := (List.forall₂_and_left left.entries right.entries).mpr
    ⟨fun _ member => member, aligned⟩
  unfold Aligned set
  rw [dif_pos present, List.forall₂_map_right_iff]
  refine listed.imp ?_
  rintro ⟨first, before⟩ ⟨second, after⟩ ⟨member, same, related⟩
  obtain rfl : first = second := same
  unfold replaceValue
  split
  · next named =>
      obtain rfl : first = key := named
      have stored := get?_eq_some_iff.mpr member
      obtain rfl := Option.some.inj (stored.symm.trans found)
      exact ⟨rfl, replaced⟩
  · next apart => exact ⟨rfl, kept first before after member apart related⟩

theorem entries_setAll {dict : Dict κ ν} {pairs : List (κ × ν)}
    (nodup : (pairs.map Prod.fst).Nodup)
    (fresh : ∀ pair ∈ pairs, pair.1 ∉ dict.keys) :
    (dict.setAll pairs).entries = dict.entries ++ pairs := by
  induction pairs generalizing dict with
  | nil => exact (List.append_nil _).symm
  | cons pair rest induction =>
      obtain ⟨alone, nodup⟩ := List.nodup_cons.mp nodup
      have absent := fresh pair (.head _)
      change ((dict.set pair.1 pair.2).setAll rest).entries = _
      rw [induction nodup, KeyedLists.entries_set_of_not_mem pair.2 absent,
        List.append_assoc, List.singleton_append]
      intro other member present
      rcases mem_keys_set.mp present with same | earlier
      · exact alone (List.mem_map.mpr ⟨other, member, same⟩)
      · exact fresh other (.tail _ member) earlier

theorem entries_ofList {pairs : List (κ × ν)}
    (nodup : (pairs.map Prod.fst).Nodup) : (ofList pairs).entries = pairs :=
  entries_setAll nodup fun _ _ member => by cases member

end Alignment

end Dict

section

variable {α : Type} {relation : α → α → Prop} {keep kept : α → Bool}
variable {earlier later : List α} (related : List.Forall₂ relation earlier later)

include α relation keep kept earlier later related

theorem filter_sublist_of_forall₂
    (unchanged : ∀ first second, relation first second → kept second = true →
      second = first ∧ keep first = true) :
    (later.filter kept).Sublist (earlier.filter keep) := by
  induction related with
  | nil => exact .slnil
  | @cons first second _ _ head _ induction =>
      cases found : kept second with
      | true =>
          obtain ⟨rfl, same⟩ := unchanged first second head found
          rw [List.filter_cons_of_pos found, List.filter_cons_of_pos same]
          exact induction.cons_cons second
      | false =>
          rw [List.filter_cons_of_neg (by simp [found]), List.filter_cons]
          split
          · exact induction.cons _
          · exact induction

theorem filter_eq_of_forall₂
    (unchanged : ∀ first second, relation first second →
      keep first = kept second ∧ (kept second = true → second = first)) :
    later.filter kept = earlier.filter keep := by
  induction related with
  | nil => rfl
  | @cons first second _ _ head _ induction =>
      obtain ⟨alike, same⟩ := unchanged first second head
      rw [List.filter_cons, List.filter_cons, induction, alike]
      split
      · next found => rw [same found]
      · rfl

end

end GptTrader
