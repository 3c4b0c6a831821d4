import Mathlib.Data.List.Sort
import Mathlib.Order.MinMax

/-!
# Half-open ranges

What a list of ranges covers, and the gaps it leaves in a window: the ranges are
clamped to the window, sorted and merged, and the window is walked from one merged
range to the next.
-/

namespace GptTrader

namespace Ranges

variable {α : Type} [LinearOrder α]

/-- The point lies in one of the half-open ranges. -/
def Covers (ranges : List (α × α)) (point : α) : Prop :=
  ∃ range ∈ ranges, range.1 ≤ point ∧ point < range.2

theorem covers_append {earlier later : List (α × α)} {point : α} :
    Covers (earlier ++ later) point ↔
      Covers earlier point ∨ Covers later point := by
  unfold Covers
  simp only [List.mem_append, or_and_right, exists_or]

theorem covers_cons {range : α × α} {rest : List (α × α)} {point : α} :
    Covers (range :: rest) point ↔
      (range.1 ≤ point ∧ point < range.2) ∨ Covers rest point := by
  unfold Covers
  simp only [List.mem_cons, or_and_right, exists_or, exists_eq_left]

def clamp (start stop : α) (range : α × α) : Option (α × α) :=
  if range.2 ≤ range.1 then none
  else if range.2 ≤ start ∨ stop ≤ range.1 then none
  else some (max range.1 start, min range.2 stop)

def mergeFrom (last : α × α) : List (α × α) → List (α × α)
  | [] => [last]
  | range :: rest =>
      if range.1 ≤ last.2 then mergeFrom (last.1, max last.2 range.2) rest
      else last :: mergeFrom range rest

/-- Sorted ranges with overlaps joined. -/
def merge : List (α × α) → List (α × α)
  | [] => []
  | range :: rest => mergeFrom range rest

def gapsFrom (stop cursor : α) : List (α × α) → List (α × α)
  | [] => if cursor < stop then [(cursor, stop)] else []
  | range :: rest =>
      (if cursor < range.1 then [(cursor, range.1)] else []) ++
        gapsFrom stop (max cursor range.2) rest

/-- The parts of a window that no range covers. -/
def gaps (ranges : List (α × α)) (start stop : α) : List (α × α) :=
  match ranges.filterMap (clamp start stop) with
  | [] => [(start, stop)]
  | clamped =>
      gapsFrom stop start (merge (clamped.insertionSort fun left right =>
        left.1 ≤ right.1))

/-! ## Clamping -/

section Clamp

variable {start stop : α} {ranges : List (α × α)}

theorem covers_clamp {point : α} (within : start ≤ point ∧ point < stop) :
    Covers (ranges.filterMap (clamp start stop)) point ↔
      Covers ranges point := by
  constructor
  · intro ⟨clamped, member, from', to'⟩
    obtain ⟨range, listed, kept⟩ := List.mem_filterMap.mp member
    unfold clamp at kept
    split at kept
    · cases kept
    · split at kept
      · cases kept
      · cases kept
        exact ⟨range, listed, le_trans (le_max_left _ _) from',
          lt_of_lt_of_le to' (min_le_left _ _)⟩
  · intro ⟨range, listed, from', to'⟩
    refine ⟨(max range.1 start, min range.2 stop), ?_,
      max_le from' within.1, lt_min to' within.2⟩
    apply List.mem_filterMap.mpr
    refine ⟨range, listed, ?_⟩
    unfold clamp
    rw [if_neg (not_le_of_gt (lt_of_le_of_lt from' to')), if_neg]
    rintro (before | after)
    · exact absurd (lt_of_lt_of_le to' before) (not_lt_of_ge within.1)
    · exact absurd (lt_of_le_of_lt from' within.2) (not_lt_of_ge after)

theorem clamp_proper {clamped : α × α}
    (member : clamped ∈ ranges.filterMap (clamp start stop)) (proper : start < stop) :
    start ≤ clamped.1 ∧ clamped.1 < clamped.2 ∧ clamped.2 ≤ stop := by
  obtain ⟨range, _, kept⟩ := List.mem_filterMap.mp member
  unfold clamp at kept
  split at kept
  · cases kept
  · next ordered =>
      split at kept
      · cases kept
      · next inside =>
          cases kept
          rw [not_le] at ordered
          rw [not_or, not_le, not_le] at inside
          exact ⟨le_max_right _ _,
            max_lt (lt_min ordered inside.2) (lt_min inside.1 proper),
            min_le_right _ _⟩

end Clamp

/-! ## Merging -/

section Merge

variable {point : α}

theorem covers_mergeFrom {last : α × α} {ranges : List (α × α)}
    (sorted : (last :: ranges).Pairwise fun left right => left.1 ≤ right.1) :
    Covers (mergeFrom last ranges) point ↔ Covers (last :: ranges) point := by
  induction ranges generalizing last with
  | nil => rfl
  | cons range rest induction =>
      obtain ⟨after, later⟩ := List.pairwise_cons.mp sorted
      have starts := after range List.mem_cons_self
      unfold mergeFrom
      split
      · next touches =>
          have grown : ((last.1, max last.2 range.2) :: rest).Pairwise
              fun left right => left.1 ≤ right.1 := by
            apply List.pairwise_cons.mpr
            exact ⟨fun other member => after other
              (List.mem_cons_of_mem _ member), (List.pairwise_cons.mp later).2⟩
          rw [induction grown, covers_cons, covers_cons, covers_cons, ← or_assoc]
          apply or_congr_left
          dsimp only
          constructor
          · intro ⟨from', to'⟩
            rcases lt_or_ge point last.2 with before | beyond
            · exact .inl ⟨from', before⟩
            · refine .inr ⟨touches.trans beyond, ?_⟩
              rcases lt_max_iff.mp to' with less | less
              · exact absurd less (not_lt_of_ge beyond)
              · exact less
          · rintro (⟨from', to'⟩ | ⟨from', to'⟩)
            · exact ⟨from', lt_max_of_lt_left to'⟩
            · exact ⟨starts.trans from', lt_max_of_lt_right to'⟩
      · rw [covers_cons, covers_cons, induction later]

theorem mergeFrom_sorted {last : α × α} {ranges : List (α × α)}
    (proper : ∀ range ∈ last :: ranges, range.1 < range.2)
    (sorted : (last :: ranges).Pairwise fun left right => left.1 ≤ right.1) :
    (∀ range ∈ mergeFrom last ranges, range.1 < range.2 ∧ last.1 ≤ range.1) ∧
      (mergeFrom last ranges).Pairwise fun left right => left.1 ≤ right.1 := by
  induction ranges generalizing last with
  | nil =>
      refine ⟨?_, List.pairwise_singleton _ _⟩
      intro range member
      rw [mergeFrom, List.mem_singleton] at member
      rw [member]
      exact ⟨proper last List.mem_cons_self, le_rfl⟩
  | cons range rest induction =>
      obtain ⟨after, later⟩ := List.pairwise_cons.mp sorted
      unfold mergeFrom
      split
      · apply induction
        · intro other member
          rcases List.mem_cons.mp member with same | member
          · rw [same]
            exact lt_max_of_lt_left (proper last List.mem_cons_self)
          · exact proper other
              (List.mem_cons_of_mem _ (List.mem_cons_of_mem _ member))
        · apply List.pairwise_cons.mpr
          exact ⟨fun other member => after other
            (List.mem_cons_of_mem _ member), (List.pairwise_cons.mp later).2⟩
      · obtain ⟨bounds, rests⟩ := induction
          (fun other member => proper other (List.mem_cons_of_mem _ member)) later
        have starts := after range List.mem_cons_self
        constructor
        · intro other member
          rcases List.mem_cons.mp member with same | member
          · rw [same]
            exact ⟨proper last List.mem_cons_self, le_rfl⟩
          · exact ⟨(bounds other member).1, starts.trans (bounds other member).2⟩
        · apply List.pairwise_cons.mpr
          exact ⟨fun other member => starts.trans (bounds other member).2, rests⟩

theorem mergeFrom_bounded {last : α × α} {ranges : List (α × α)} {stop : α}
    (bounded : ∀ range ∈ last :: ranges, range.2 ≤ stop) :
    ∀ range ∈ mergeFrom last ranges, range.2 ≤ stop := by
  induction ranges generalizing last with
  | nil => exact bounded
  | cons range rest induction =>
      have first := bounded last List.mem_cons_self
      have second := bounded range (List.mem_cons_of_mem _ List.mem_cons_self)
      have later : ∀ other ∈ rest, other.2 ≤ stop := fun other member =>
        bounded other (List.mem_cons_of_mem _ (List.mem_cons_of_mem _ member))
      unfold mergeFrom
      split
      · apply induction
        intro other member
        rcases List.mem_cons.mp member with same | member
        · rw [same]
          exact max_le first second
        · exact later other member
      · intro other member
        rcases List.mem_cons.mp member with same | member
        · rw [same]
          exact first
        · apply induction _ other member
          intro next listed
          exact bounded next (List.mem_cons_of_mem _ listed)

end Merge

/-! ## Gaps -/

section Gaps

variable {stop cursor : α} {ranges : List (α × α)}

theorem gapsFrom_within (within : ∀ range ∈ ranges, range.1 ≤ stop) :
    ∀ gap ∈ gapsFrom stop cursor ranges,
      cursor ≤ gap.1 ∧ gap.1 < gap.2 ∧ gap.2 ≤ stop := by
  induction ranges generalizing cursor with
  | nil =>
      intro gap member
      unfold gapsFrom at member
      split at member
      · next open' =>
          rw [List.mem_singleton.mp member]
          exact ⟨le_rfl, open', le_rfl⟩
      · cases member
  | cons range rest induction =>
      intro gap member
      unfold gapsFrom at member
      rcases List.mem_append.mp member with first | later
      · split at first
        · next open' =>
            rw [List.mem_singleton.mp first]
            exact ⟨le_rfl, open', within range List.mem_cons_self⟩
        · cases first
      · obtain ⟨from', proper, to'⟩ := induction (fun other listed =>
          within other (List.mem_cons_of_mem _ listed)) gap later
        exact ⟨(le_max_left _ _).trans from', proper, to'⟩

theorem gapsFrom_apart (proper : ∀ range ∈ ranges, range.1 < range.2)
    (within : ∀ range ∈ ranges, range.1 ≤ stop) :
    (gapsFrom stop cursor ranges).Pairwise fun left right =>
      left.2 < right.1 := by
  induction ranges generalizing cursor with
  | nil =>
      unfold gapsFrom
      split
      · exact List.pairwise_singleton _ _
      · exact .nil
  | cons range rest induction =>
      have later : (gapsFrom stop (max cursor range.2) rest).Pairwise
          fun left right => left.2 < right.1 := induction
        (fun other member => proper other (List.mem_cons_of_mem _ member))
        (fun other member => within other (List.mem_cons_of_mem _ member))
      unfold gapsFrom
      apply List.pairwise_append.mpr
      refine ⟨?_, later, ?_⟩
      · split
        · exact List.pairwise_singleton _ _
        · exact .nil
      · intro left first right second
        split at first
        · rw [List.mem_singleton.mp first]
          have from' := (gapsFrom_within (fun other member =>
            within other (List.mem_cons_of_mem _ member)) right second).1
          exact lt_of_lt_of_le (proper range List.mem_cons_self)
            ((le_max_right _ _).trans from')
        · cases first

/-- What is left uncovered from the cursor on lies in a gap, and only that. -/
theorem covers_gapsFrom {point : α}
    (sorted : ranges.Pairwise fun left right => left.1 ≤ right.1)
    (within : ∀ range ∈ ranges, range.1 ≤ stop)
    (ahead : ∀ range ∈ ranges, range.1 < range.2)
    (placed : cursor ≤ point ∧ point < stop) :
    Covers (gapsFrom stop cursor ranges) point ↔ ¬Covers ranges point := by
  induction ranges generalizing cursor with
  | nil =>
      unfold gapsFrom
      rw [if_pos (lt_of_le_of_lt placed.1 placed.2)]
      constructor
      · rintro _ ⟨_, member, _⟩
        cases member
      · intro _
        exact ⟨(cursor, stop), List.mem_cons_self, placed⟩
  | cons range rest induction =>
      obtain ⟨after, later⟩ := List.pairwise_cons.mp sorted
      have within' : ∀ other ∈ rest, other.1 ≤ stop := fun other member =>
        within other (List.mem_cons_of_mem _ member)
      unfold gapsFrom
      rw [covers_append, covers_cons]
      rcases lt_or_ge point range.1 with before | reached
      · have open' : cursor < range.1 := lt_of_le_of_lt placed.1 before
        rw [if_pos open']
        constructor
        · rintro _ (⟨from', _⟩ | ⟨other, member, from', _⟩)
          · exact absurd before (not_lt_of_ge from')
          · exact absurd (lt_of_le_of_lt (after other member |>.trans from') before)
              (lt_irrefl _)
        · intro _
          exact .inl ⟨(cursor, range.1), List.mem_cons_self, placed.1, before⟩
      · have first : ¬Covers (if cursor < range.1 then [(cursor, range.1)]
            else []) point := by
          rintro ⟨gap, member, _, to'⟩
          split at member
          · rw [List.mem_singleton.mp member] at to'
            exact absurd to' (not_lt_of_ge reached)
          · cases member
        rw [or_iff_right first]
        rcases lt_or_ge point range.2 with inside | beyond
        · constructor
          · rintro ⟨gap, member, from', _⟩
            have start := (gapsFrom_within within' gap member).1
            exact absurd inside
              (not_lt_of_ge ((le_max_right _ _).trans (start.trans from')))
          · intro uncovered
            exact absurd (.inl ⟨reached, inside⟩) uncovered
        · rw [induction later within'
            (fun other member => ahead other (List.mem_cons_of_mem _ member))
            ⟨max_le placed.1 beyond, placed.2⟩, or_iff_right]
          rintro ⟨_, to'⟩
          exact absurd to' (not_lt_of_ge beyond)

end Gaps

/-- The gaps of a window cover what the ranges leave uncovered, are proper, lie in
the window and are apart from each other. -/
structure GapsOf (ranges : List (α × α)) (start stop : α)
    (gaps : List (α × α)) : Prop where
  covers : ∀ point, start ≤ point ∧ point < stop →
    (Covers gaps point ↔ ¬Covers ranges point)
  within : ∀ gap ∈ gaps, start ≤ gap.1 ∧ gap.1 < gap.2 ∧ gap.2 ≤ stop
  apart : gaps.Pairwise fun left right => left.2 < right.1

theorem merge_spec {ranges : List (α × α)} {stop : α}
    (proper : ∀ range ∈ ranges, range.1 < range.2 ∧ range.2 ≤ stop)
    (sorted : ranges.Pairwise fun left right => left.1 ≤ right.1) :
    (∀ point, Covers (merge ranges) point ↔ Covers ranges point) ∧
      (∀ range ∈ merge ranges, range.1 < range.2 ∧ range.2 ≤ stop) ∧
      (merge ranges).Pairwise fun left right => left.1 ≤ right.1 := by
  cases ranges with
  | nil => exact ⟨fun _ => Iff.rfl, fun _ member => (by cases member), .nil⟩
  | cons range rest =>
      obtain ⟨bounds, ordered⟩ := mergeFrom_sorted
        (fun other member => (proper other member).1) sorted
      have bounded := mergeFrom_bounded fun other member =>
        (proper other member).2
      exact ⟨fun _ => covers_mergeFrom sorted,
        fun other member => ⟨(bounds other member).1, bounded other member⟩,
        ordered⟩

/-- The gaps are sorted, and uncovered where they lie. -/
theorem gaps_spec (ranges : List (α × α)) {start stop : α} (proper : start < stop) :
    GapsOf ranges start stop (gaps ranges start stop) := by
  unfold gaps
  split
  · next none =>
      refine ⟨?_, ?_, List.pairwise_singleton _ _⟩
      · intro point within
        have clamped : Covers (ranges.filterMap (clamp start stop)) point ↔
            Covers ranges point := covers_clamp within
        rw [none] at clamped
        rw [← clamped]
        constructor
        · rintro _ ⟨_, member, _⟩
          cases member
        · intro _
          exact ⟨(start, stop), List.mem_cons_self, within⟩
      · intro gap member
        rw [List.mem_singleton.mp member]
        exact ⟨le_rfl, proper, le_rfl⟩
  · next clamped _ =>
      set inside := ranges.filterMap (clamp start stop) with inside_eq
      have members : ∀ range ∈ inside.insertionSort fun left right =>
          left.1 ≤ right.1, range.1 < range.2 ∧ range.2 ≤ stop := by
        intro range member
        rw [List.mem_insertionSort] at member
        exact (clamp_proper member proper).2
      have sorted : (inside.insertionSort fun left right =>
          left.1 ≤ right.1).Pairwise fun left right => left.1 ≤ right.1 := by
        have total : Std.Total fun left right : α × α => left.1 ≤ right.1 :=
          ⟨fun left right => le_total left.1 right.1⟩
        have transitive : IsTrans (α × α) fun left right => left.1 ≤ right.1 :=
          ⟨fun _ _ _ first second => first.trans second⟩
        exact List.pairwise_insertionSort _ inside
      obtain ⟨same, bounds, ordered⟩ := merge_spec members sorted
      have starts : ∀ range ∈ merge (inside.insertionSort fun left right =>
          left.1 ≤ right.1), range.1 ≤ stop := fun range member =>
        (bounds range member).1.le.trans (bounds range member).2
      refine ⟨?_, gapsFrom_within starts, gapsFrom_apart
        (fun range member => (bounds range member).1) starts⟩
      intro point within
      rw [covers_gapsFrom ordered starts
        (fun range member => (bounds range member).1) within, same point]
      have clamped : Covers inside point ↔ Covers ranges point :=
        covers_clamp within
      rw [← clamped]
      unfold Covers
      simp only [List.mem_insertionSort]

end Ranges

end GptTrader
