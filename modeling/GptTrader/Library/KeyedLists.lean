import Mathlib.Algebra.BigOperators.Group.List.Basic
import Mathlib.Data.List.Induction
import Mathlib.Data.List.Sort
import GptTrader.Library.Dict
import GptTrader.Library.Outcome

/-!
# Lists collected by keys

The items of a list collected key by key add up to the list, a sorted list keeps
its order when items are left out, and a dictionary that a traversal fills key by
key holds the results in the order of the keys.
-/

namespace GptTrader

namespace KeyedLists

section Partition

variable {κ α : Type} [DecidableEq κ]

def valuesOf (key : κ) (items : List (κ × α)) : List α :=
  (items.filter fun item => decide (item.1 = key)).map Prod.snd

theorem valuesOf_append (key : κ) (left right : List (κ × α)) :
    valuesOf key (left ++ right) = valuesOf key left ++ valuesOf key right := by
  unfold valuesOf
  rw [List.filter_append, List.map_append]

theorem valuesOf_flatMap {β : Type} (key : κ) (items : List β)
    (parts : β → List (κ × α)) :
    valuesOf key (items.flatMap parts) =
      items.flatMap fun item => valuesOf key (parts item) := by
  induction items with
  | nil => rfl
  | cons item rest induction =>
      rw [List.flatMap_cons, valuesOf_append, induction, List.flatMap_cons]

theorem sum_by_key {keys : List κ} (nodup : keys.Nodup)
    {items : List (κ × α)} (covered : ∀ item ∈ items, item.1 ∈ keys)
    {μ : Type} [AddCommMonoid μ] (weight : κ → α → μ) :
    (keys.map fun key => ((valuesOf key items).map (weight key)).sum).sum =
      (items.map fun item => weight item.1 item.2).sum := by
  induction items with
  | nil =>
      simp [valuesOf]
  | cons item rest induction =>
      have split : ∀ key, ((valuesOf key (item :: rest)).map (weight key)).sum =
          (if key = item.1 then weight item.1 item.2 else 0) +
            ((valuesOf key rest).map (weight key)).sum := by
        intro key
        unfold valuesOf
        by_cases same : item.1 = key
        · subst same
          simp
        · rw [List.filter_cons_of_neg (by simpa using same),
            if_neg (Ne.symm same), zero_add]
      have once : (keys.map fun key =>
          if key = item.1 then weight item.1 item.2 else 0).sum =
            weight item.1 item.2 := by
        rw [List.sum_map_eq_nsmul_single item.1 _
            fun other different _ => if_neg different,
          List.count_eq_one_of_mem nodup (covered item (List.mem_cons_self ..)),
          one_nsmul, if_pos rfl]
      simp only [split, List.sum_map_add]
      rw [once, induction fun other member =>
        covered other (List.mem_cons_of_mem _ member), List.map_cons,
        List.sum_cons]

end Partition

section Sorted

variable {α : Type} {order : α → α → Prop} [DecidableRel order]

theorem filter_orderedInsert_of_not {keep : α → Bool} {item : α}
    (dropped : keep item = false) (items : List α) :
    (items.orderedInsert order item).filter keep = items.filter keep := by
  induction items with
  | nil =>
      rw [List.orderedInsert_nil, List.filter_cons_of_neg (by simp [dropped])]
  | cons head rest induction =>
      rw [List.orderedInsert_cons]
      split
      · rw [List.filter_cons_of_neg (by simp [dropped])]
      · rw [List.filter_cons, List.filter_cons, induction]

theorem orderedInsert_eq_cons {item : α} {items : List α}
    (least : ∀ other ∈ items, order item other) :
    items.orderedInsert order item = item :: items := by
  cases items with
  | nil => rfl
  | cons head rest =>
      exact List.orderedInsert_cons_of_le order rest
        (least head (List.mem_cons_self ..))

theorem filter_orderedInsert [IsTrans α order] {keep : α → Bool} {item : α}
    (kept : keep item = true) {items : List α} (sorted : items.Pairwise order) :
    (items.orderedInsert order item).filter keep =
      (items.filter keep).orderedInsert order item := by
  induction items with
  | nil =>
      rw [List.orderedInsert_nil, List.filter_cons_of_pos kept]
      rfl
  | cons head rest induction =>
      obtain ⟨least, tail⟩ := List.pairwise_cons.mp sorted
      rw [List.orderedInsert_cons]
      split
      · next first =>
          rw [List.filter_cons_of_pos kept, orderedInsert_eq_cons]
          intro other member
          rcases List.mem_cons.mp (List.mem_filter.mp member).1 with rfl | later
          · exact first
          · exact trans_of order first (least other later)
      · next later =>
          rw [List.filter_cons, List.filter_cons, induction tail]
          split
          · rw [List.orderedInsert_of_not_le order _ later]
          · rfl

theorem filter_insertionSort [IsTrans α order] [Std.Total order]
    (keep : α → Bool) (items : List α) :
    (items.insertionSort order).filter keep =
      (items.filter keep).insertionSort order := by
  induction items with
  | nil => rfl
  | cons item rest induction =>
      rw [List.insertionSort_cons]
      by_cases kept : keep item = true
      · rw [filter_orderedInsert kept (List.pairwise_insertionSort order rest),
          List.filter_cons_of_pos kept, List.insertionSort_cons, induction]
      · rw [filter_orderedInsert_of_not (by simpa using kept),
          List.filter_cons_of_neg kept, induction]

end Sorted

section Traversals

variable {ε α β γ : Type}

theorem flatMap_mapM {items : List α} {change : α → Except ε β}
    {results : List β} {held : α → List γ} {collected : β → List γ}
    (each : ∀ item result, change item = .ok result →
      collected result = held item)
    (traversed : items.mapM change = .ok results) :
    results.flatMap collected = items.flatMap held := by
  induction Outcome.mapM_eq_ok.mp traversed with
  | nil => rfl
  | cons changed rest induction =>
      rw [List.flatMap_cons, List.flatMap_cons, each _ _ changed,
        induction (Outcome.mapM_eq_ok.mpr rest)]

theorem foldlM_congr {items : List α} {left right : β → α → Except ε β}
    (alike : ∀ item ∈ items, ∀ value, left value item = right value item)
    (start : β) : items.foldlM left start = items.foldlM right start := by
  induction items generalizing start with
  | nil => rfl
  | cons item rest induction =>
      rw [List.foldlM_cons, List.foldlM_cons, alike item (List.mem_cons_self ..)]
      cases right start item with
      | error error => rfl
      | ok next =>
          exact induction (fun other member =>
            alike other (List.mem_cons_of_mem _ member)) next

end Traversals

section Dictionaries

variable {ε κ ν : Type} [DecidableEq κ]

theorem entries_set_of_not_mem {dict : Dict κ ν} {key : κ} (value : ν)
    (absent : key ∉ dict.keys) :
    (dict.set key value).entries = dict.entries ++ [(key, value)] := by
  unfold Dict.set
  rw [dif_neg (by simpa [Dict.keys] using absent)]

theorem foldlM_set_eq_ok {keys : List κ} (nodup : keys.Nodup)
    {find : κ → Except ε ν} {start filled : Dict κ ν}
    (fresh : ∀ key ∈ keys, key ∉ start.keys)
    (built : keys.foldlM (fun found key => do
      let value ← find key
      .ok (found.set key value)) start = .ok filled) :
    ∃ values, keys.mapM find = .ok values ∧
      filled.entries = start.entries ++ keys.zip values := by
  induction keys generalizing start with
  | nil =>
      cases built
      exact ⟨[], rfl, (List.append_nil _).symm⟩
  | cons key rest induction =>
      obtain ⟨absent, nodup⟩ := List.nodup_cons.mp nodup
      rw [List.foldlM_cons, Outcome.bind_eq_ok] at built
      obtain ⟨_, stepped, built⟩ := built
      obtain ⟨value, found, stepped⟩ := Outcome.bind_eq_ok.mp stepped
      cases stepped
      have new : key ∉ start.keys := fresh key (List.mem_cons_self ..)
      obtain ⟨values, traversed, entries⟩ := induction nodup
        (fun other member present => by
          rw [Dict.mem_keys_set] at present
          rcases present with rfl | present
          · exact absent member
          · exact fresh other (List.mem_cons_of_mem _ member) present) built
      refine ⟨value :: values, ?_, ?_⟩
      · rw [List.mapM_cons, found]
        rw [Outcome.bind_eq_ok]
        refine ⟨value, rfl, ?_⟩
        rw [traversed]
        rfl
      · rw [entries, entries_set_of_not_mem value new, List.append_assoc]
        rfl

section Filled

variable {keys : List κ} {find : κ → Except ε ν} {start filled : Dict κ ν}
  {key : κ}

theorem find_of_get?_foldlM (built : keys.foldlM (fun found key => do
      let value ← find key
      .ok (found.set key value)) start = .ok filled)
    (sound : ∀ key value, start.get? key = some value → find key = .ok value)
    {value : ν} (held : filled.get? key = some value) : find key = .ok value := by
  have kept := Outcome.foldlM_induction
    (fun found : Dict κ ν => ∀ key value,
      found.get? key = some value → find key = .ok value) sound
    (fun found key next sound step => by
      obtain ⟨value, found_eq, step⟩ := Outcome.bind_eq_ok.mp step
      cases step
      intro other held get
      rw [Dict.get?_set] at get
      split at get
      · next same =>
          cases get
          rw [same]
          exact found_eq
      · exact sound other held get) built
  exact kept key value held

theorem get?_foldlM_isSome (built : keys.foldlM (fun found key => do
      let value ← find key
      .ok (found.set key value)) start = .ok filled)
    (asked : key ∈ keys ∨ key ∈ start.keys) :
    ∃ value, filled.get? key = some value := by
  induction keys generalizing start with
  | nil =>
      cases built
      have present := asked.resolve_left (List.not_mem_nil)
      exact Option.isSome_iff_exists.mp (Dict.get?_isSome_iff.mpr present)
  | cons first rest induction =>
      rw [List.foldlM_cons, Outcome.bind_eq_ok] at built
      obtain ⟨_, stepped, built⟩ := built
      obtain ⟨value, found, stepped⟩ := Outcome.bind_eq_ok.mp stepped
      cases stepped
      apply induction built
      rw [Dict.mem_keys_set]
      rcases asked with member | present
      · rcases List.mem_cons.mp member with rfl | later
        · exact .inr (.inl rfl)
        · exact .inl later
      · exact .inr (.inr present)

end Filled

/-- Every value changed, every key kept. -/
def mapValues (change : ν → ν) (dict : Dict κ ν) : Dict κ ν :=
  { entries := dict.entries.map fun entry => (entry.1, change entry.2)
    nodup := by
      rw [List.map_map]
      exact dict.nodup }

variable (change : ν → ν) (dict : Dict κ ν)

theorem get?_mapValues (key : κ) :
    (mapValues change dict).get? key = (dict.get? key).map change := by
  unfold Dict.get? mapValues
  rw [List.find?_map, Option.map_map, Option.map_map]
  rfl

omit [DecidableEq κ] in
theorem values_mapValues :
    (mapValues change dict).values = dict.values.map change := by
  unfold Dict.values mapValues
  rw [List.map_map, List.map_map]
  rfl

theorem mapValues_set (key : κ) (value : ν) :
    mapValues change (dict.set key value) =
      (mapValues change dict).set key (change value) := by
  have keys : (mapValues change dict).entries.map Prod.fst =
      dict.entries.map Prod.fst := by
    unfold mapValues
    rw [List.map_map]
    rfl
  unfold Dict.set
  simp only [keys]
  split
  · unfold mapValues
    simp only [List.map_map]
    congr 1
    apply List.map_congr_left
    intro entry _
    simp only [Function.comp_apply, Dict.replaceValue]
    split <;> rfl
  · unfold mapValues
    simp only [List.map_append]
    rfl

end Dictionaries

section Collected

variable {α κ : Type} [DecidableEq κ] (key : α → κ)

/-- `groups.setdefault(key(item), []).append(item)`. -/
def collect (groups : Dict κ (List α)) (item : α) : Dict κ (List α) :=
  groups.set (key item) ((groups.get? (key item)).getD [] ++ [item])

/-- The items under their keys. -/
def collected (items : List α) : Dict κ (List α) :=
  items.foldl (collect key) Dict.empty

theorem collected_snoc (items : List α) (item : α) :
    collected key (items ++ [item]) = collect key (collected key items) item := by
  unfold collected
  rw [List.foldl_append, List.foldl_cons, List.foldl_nil]

theorem mem_keys_collected (items : List α) (value : κ) :
    value ∈ (collected key items).keys ↔ ∃ item ∈ items, key item = value := by
  induction items using List.reverseRecOn with
  | nil => simp [collected, Dict.empty, Dict.keys]
  | append_singleton items item induction =>
      rw [collected_snoc, collect, Dict.mem_keys_set, induction]
      simp only [List.mem_append, List.mem_singleton]
      constructor
      · rintro (rfl | ⟨other, member, same⟩)
        · exact ⟨item, .inr rfl, rfl⟩
        · exact ⟨other, .inl member, same⟩
      · rintro ⟨other, member | rfl, same⟩
        · exact .inr ⟨other, member, same⟩
        · exact .inl same.symm

theorem get?_collected (items : List α) (value : κ) :
    ((collected key items).get? value).getD [] =
      items.filter fun item => decide (key item = value) := by
  induction items using List.reverseRecOn with
  | nil => rfl
  | append_singleton items item induction =>
      rw [collected_snoc, collect, Dict.get?_set, List.filter_append]
      by_cases same : value = key item
      · rw [if_pos same, Option.getD_some, ← same, induction]
        simp [same]
      · rw [if_neg same, induction]
        simp [Ne.symm same]

theorem mem_values_collected {items group : List α} :
    group ∈ (collected key items).values ↔
      ∃ item ∈ items,
        group = items.filter fun other => decide (key other = key item) := by
  unfold Dict.values
  constructor
  · intro member
    obtain ⟨⟨value, held⟩, entry, rfl⟩ := List.mem_map.mp member
    have found := Dict.get?_eq_some_iff.mpr entry
    obtain ⟨item, present, rfl⟩ := (mem_keys_collected key items value).mp
      (List.mem_map.mpr ⟨_, entry, rfl⟩)
    refine ⟨item, present, ?_⟩
    rw [← get?_collected, found, Option.getD_some]
  · rintro ⟨item, present, rfl⟩
    have listed := (mem_keys_collected key items (key item)).mpr
      ⟨item, present, rfl⟩
    obtain ⟨held, found⟩ :=
      Option.isSome_iff_exists.mp (Dict.get?_isSome_iff.mpr listed)
    refine List.mem_map.mpr ⟨_, Dict.get?_eq_some_iff.mp found, ?_⟩
    rw [← get?_collected, found, Option.getD_some]

theorem head?_of_mem_collected {items group : List α}
    (member : group ∈ (collected key items).values) :
    ∃ first ∈ items, group.head? = some first := by
  obtain ⟨item, present, rfl⟩ := (mem_values_collected key).mp member
  have kept : item ∈ items.filter fun other => decide (key other = key item) :=
    List.mem_filter.mpr ⟨present, decide_eq_true rfl⟩
  cases listed : items.filter fun other => decide (key other = key item) with
  | nil =>
      rw [listed] at kept
      cases kept
  | cons first rest =>
      have member : first ∈ items.filter fun other =>
          decide (key other = key item) := listed ▸ List.mem_cons_self ..
      exact ⟨first, (List.mem_filter.mp member).1, rfl⟩

theorem pairwise_collected {before : α → α → Prop} {items : List α}
    (sorted : items.Pairwise before) :
    (collected key items).values.Pairwise fun left right =>
      ∃ first ∈ left.head?, ∃ second ∈ right.head?, before first second := by
  induction items using List.reverseRecOn with
  | nil => exact List.Pairwise.nil
  | append_singleton items item induction =>
      obtain ⟨sorted, _, last⟩ := List.pairwise_append.mp sorted
      have groups := induction sorted
      rw [collected_snoc, collect]
      unfold Dict.values at groups ⊢
      by_cases listed : key item ∈ (collected key items).keys
      · -- The group of the item keeps its first item.
        have same : ∀ entry ∈ (collected key items).entries,
            (Dict.replaceValue (key item)
              (((collected key items).get? (key item)).getD [] ++ [item])
              entry).2.head? = entry.2.head? := by
          intro entry member
          unfold Dict.replaceValue
          split
          · next equal =>
              have found := Dict.get?_eq_some_iff.mpr member
              obtain ⟨first, _, head⟩ := head?_of_mem_collected key
                (List.mem_map.mpr ⟨entry, member, rfl⟩)
              rw [← equal, found, Option.getD_some, List.head?_append, head]
              rfl
          · rfl
        have listed : key item ∈ (collected key items).entries.map Prod.fst :=
          listed
        unfold Dict.set
        rw [dif_pos listed, List.map_map, List.pairwise_map]
        apply (List.pairwise_map.mp groups).imp_of_mem
        intro left right leftMember rightMember ordered
        rw [Function.comp_apply, Function.comp_apply, same left leftMember,
          same right rightMember]
        exact ordered
      · rw [entries_set_of_not_mem _ listed, Dict.get?_eq_none_iff.mpr listed,
          List.map_append, List.pairwise_append]
        refine ⟨groups, List.pairwise_singleton .., ?_⟩
        intro left member right single
        obtain rfl := List.mem_singleton.mp single
        obtain ⟨first, present, head⟩ := head?_of_mem_collected key member
        exact ⟨first, head, item, rfl,
          last first present item (List.mem_singleton.mpr rfl)⟩

end Collected

end KeyedLists

end GptTrader
