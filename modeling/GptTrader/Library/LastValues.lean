import Mathlib.Data.List.Basic
import Mathlib.Data.List.Induction
import Mathlib.Order.Defs.LinearOrder
import Mathlib.Tactic.Common
import Mathlib.Order.Lattice

/-!
# What stands last

Of the items of a list that are largest by a key, the one that stands last is what is
kept when every item replaces the one kept before it unless that one is larger.  The
one that stands first is kept when only a larger item replaces it.

Steps write a register or leave it.  Its value is that of the last write, and what it was
at the start if there was none.

What a history has done since one of its items is told of the items that follow it.
-/

namespace GptTrader

section Largest

variable {α κ : Type} [LinearOrder κ] {key : α → κ}

/-- The last item among those of greatest key. -/
def LastMax (key : α → κ) (items : List α) (item : α) : Prop :=
  ∃ earlier later, items = earlier ++ item :: later ∧
    (∀ other ∈ earlier, key other ≤ key item) ∧
    ∀ other ∈ later, key other < key item

namespace LastMax

variable {items : List α} {item : α}

theorem mem (last : LastMax key items item) : item ∈ items := by
  obtain ⟨earlier, later, rfl, _, _⟩ := last
  simp

theorem le (last : LastMax key items item) {other : α} (member : other ∈ items) :
    key other ≤ key item := by
  obtain ⟨earlier, later, rfl, before, after⟩ := last
  rcases List.mem_append.mp member with early | late
  · exact before other early
  · rcases List.mem_cons.mp late with rfl | late
    · exact le_refl _
    · exact le_of_lt (after other late)

theorem unique {other : α} (last : LastMax key items item)
    (lastToo : LastMax key items other) : item = other := by
  obtain ⟨earlier, later, rfl, before, after⟩ := last
  obtain ⟨earlierToo, laterToo, same, beforeToo, afterToo⟩ := lastToo
  rcases List.append_eq_append_iff.mp same with
    ⟨between, rfl, rest⟩ | ⟨between, rfl, rest⟩
  · cases between with
    | nil => exact (List.cons.inj rest).1
    | cons first middle =>
        obtain ⟨rfl, rfl⟩ := List.cons.inj rest
        have smaller := after other (by simp)
        have larger := beforeToo item (by simp)
        exact absurd smaller (not_lt.mpr larger)
  · cases between with
    | nil => exact (List.cons.inj rest).1.symm
    | cons first middle =>
        obtain ⟨rfl, rfl⟩ := List.cons.inj rest
        have smaller := afterToo item (by simp)
        have larger := before other (by simp)
        exact absurd smaller (not_lt.mpr larger)

theorem keep (last : LastMax key items item) {new : α}
    (smaller : key new < key item) : LastMax key (items ++ [new]) item := by
  obtain ⟨earlier, later, rfl, before, after⟩ := last
  refine ⟨earlier, later ++ [new], by simp, before, ?_⟩
  intro other member
  rcases List.mem_append.mp member with late | added
  · exact after other late
  · rwa [List.mem_singleton.mp added]

theorem replace {new : α} (largest : ∀ other ∈ items, key other ≤ key new) :
    LastMax key (items ++ [new]) new :=
  ⟨items, [], rfl, largest, by simp⟩

end LastMax

/-- The first item among those of greatest key. -/
def FirstMax (key : α → κ) (items : List α) (item : α) : Prop :=
  ∃ earlier later, items = earlier ++ item :: later ∧
    (∀ other ∈ earlier, key other < key item) ∧
    ∀ other ∈ later, key other ≤ key item

namespace FirstMax

variable {items : List α} {item : α}

theorem single (item : α) : FirstMax key [item] item :=
  ⟨[], [], rfl, by simp, by simp⟩

theorem mem (first : FirstMax key items item) : item ∈ items := by
  obtain ⟨earlier, later, rfl, _, _⟩ := first
  simp

theorem le (first : FirstMax key items item) {other : α}
    (member : other ∈ items) : key other ≤ key item := by
  obtain ⟨earlier, later, rfl, before, after⟩ := first
  rcases List.mem_append.mp member with early | late
  · exact le_of_lt (before other early)
  · rcases List.mem_cons.mp late with rfl | late
    · exact le_refl _
    · exact after other late

theorem unique {other : α} (first : FirstMax key items item)
    (firstToo : FirstMax key items other) : item = other := by
  obtain ⟨earlier, later, rfl, before, after⟩ := first
  obtain ⟨earlierToo, laterToo, same, beforeToo, afterToo⟩ := firstToo
  rcases List.append_eq_append_iff.mp same with
    ⟨between, rfl, rest⟩ | ⟨between, rfl, rest⟩
  · cases between with
    | nil => exact (List.cons.inj rest).1
    | cons next middle =>
        obtain ⟨rfl, rfl⟩ := List.cons.inj rest
        have larger := beforeToo item (by simp)
        have smaller := after other (by simp)
        exact absurd larger (not_lt.mpr smaller)
  · cases between with
    | nil => exact (List.cons.inj rest).1.symm
    | cons next middle =>
        obtain ⟨rfl, rfl⟩ := List.cons.inj rest
        have larger := before other (by simp)
        have smaller := afterToo item (by simp)
        exact absurd larger (not_lt.mpr smaller)

theorem keep (first : FirstMax key items item) {new : α}
    (smaller : key new ≤ key item) : FirstMax key (items ++ [new]) item := by
  obtain ⟨earlier, later, rfl, before, after⟩ := first
  refine ⟨earlier, later ++ [new], by simp, before, ?_⟩
  intro other member
  rcases List.mem_append.mp member with late | added
  · exact after other late
  · rwa [List.mem_singleton.mp added]

theorem replace (first : FirstMax key items item) {new : α}
    (larger : key item < key new) : FirstMax key (items ++ [new]) new := by
  refine ⟨items, [], rfl, ?_, by simp⟩
  intro other member
  exact lt_of_le_of_lt (first.le member) larger

end FirstMax

end Largest

section Writes

variable {α : Type}

def afterWrites (start : α) (writes : List (Option α)) : α :=
  writes.foldl (fun value write => write.getD value) start

/-- The value of the last write. -/
def LastWrite (value : α) (writes : List (Option α)) : Prop :=
  ∃ earlier later, writes = earlier ++ some value :: later ∧ ∀ write ∈ later, write = none

theorem afterWrites_snoc (start : α) (writes : List (Option α)) (last : Option α) :
    afterWrites start (writes ++ [last]) = last.getD (afterWrites start writes) := by
  unfold afterWrites
  rw [List.foldl_append]
  rfl

theorem lastWrite_none_snoc {value : α} {writes : List (Option α)} :
    LastWrite value (writes ++ [none]) ↔ LastWrite value writes := by
  constructor
  · rintro ⟨earlier, later, split, unwritten⟩
    cases later using List.reverseRecOn with
    | nil =>
        have last := (List.append_inj_right' split rfl)
        cases last
    | append_singleton later last =>
        rw [← List.cons_append, ← List.append_assoc] at split
        obtain ⟨same, _⟩ := List.append_inj' split rfl
        exact ⟨earlier, later, same, fun write member =>
          unwritten write (List.mem_append_left _ member)⟩
  · rintro ⟨earlier, later, rfl, unwritten⟩
    refine ⟨earlier, later ++ [none], ?_, ?_⟩
    · rw [List.append_assoc]
      rfl
    · intro write member
      rcases List.mem_append.mp member with before | last
      · exact unwritten write before
      · exact List.mem_singleton.mp last

theorem lastWrite_some_snoc {value last : α} {writes : List (Option α)} :
    LastWrite value (writes ++ [some last]) ↔ last = value := by
  constructor
  · rintro ⟨earlier, later, split, unwritten⟩
    cases later using List.reverseRecOn with
    | nil =>
        have same := (List.append_inj_right' split rfl)
        cases same
        rfl
    | append_singleton later final =>
        rw [← List.cons_append, ← List.append_assoc] at split
        have same := (List.append_inj_right' split rfl)
        cases same
        have none := unwritten (some last) (by simp)
        cases none
  · rintro rfl
    exact ⟨writes, [], rfl, fun _ member => nomatch member⟩

theorem afterWrites_eq_iff {start value : α} {writes : List (Option α)} :
    afterWrites start writes = value ↔
      LastWrite value writes ∨ start = value ∧ ∀ write ∈ writes, write = none := by
  induction writes using List.reverseRecOn with
  | nil =>
      constructor
      · intro same
        exact .inr ⟨same, fun _ member => nomatch member⟩
      · rintro (⟨earlier, later, split, _⟩ | ⟨same, _⟩)
        · exact absurd split.symm (by simp)
        · exact same
  | append_singleton writes last induction =>
      rw [afterWrites_snoc]
      cases last with
      | none =>
          rw [lastWrite_none_snoc, Option.getD_none, induction, List.forall_mem_append]
          simp
      | some last =>
          have written : ¬ ∀ write ∈ writes ++ [some last], write = none := fun none =>
            nomatch none (some last) (by simp)
          rw [lastWrite_some_snoc, Option.getD_some]
          simp only [written, and_false, or_false]

end Writes

section Followed

variable {α : Type} {kept : α → Prop} {item : α} {history : List α}

def FollowedBy (kept : α → Prop) (item : α) (history : List α) : Prop :=
  ∃ before after, history = before ++ item :: after ∧ ∀ later ∈ after, kept later

theorem FollowedBy.last : FollowedBy kept item (history ++ [item]) :=
  ⟨history, [], rfl, fun _ member => (List.not_mem_nil member).elim⟩

theorem FollowedBy.snoc (followed : FollowedBy kept item history) {next : α}
    (keeps : kept next) : FollowedBy kept item (history ++ [next]) := by
  obtain ⟨before, after, rfl, all⟩ := followed
  refine ⟨before, after ++ [next], by simp, ?_⟩
  rw [List.forall_mem_append, List.forall_mem_singleton]
  exact ⟨all, keeps⟩

theorem FollowedBy.mem_of_not_kept {first second : List α} {blocker : α}
    (followed : FollowedBy kept item (first ++ blocker :: second))
    (blocks : ¬kept blocker) (other : item ≠ blocker) : item ∈ second := by
  obtain ⟨before, after, same, all⟩ := followed
  rcases List.append_eq_append_iff.mp same with
    ⟨between, rfl, rest⟩ | ⟨between, rfl, rest⟩
  · cases between with
    | nil => exact absurd (List.cons.inj rest).1.symm other
    | cons head middle =>
        rw [(List.cons.inj rest).2]
        simp
  · cases between with
    | nil => exact absurd (List.cons.inj rest).1 other
    | cons head middle =>
        apply absurd (all blocker _) blocks
        rw [(List.cons.inj rest).2]
        simp

end Followed

end GptTrader
