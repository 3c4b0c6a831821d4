import Mathlib.Algebra.Order.Group.Int
import Mathlib.Data.Int.Interval
import Mathlib.Data.List.Nodup
import Mathlib.Order.Interval.Finset.Basic
import Mathlib.Tactic.Linarith

/-!
# Tiling a span by windows, and counting slots in one

A loop walks from one end of a span to the other in windows of a limited width
that share their ends.  A closed window touches one slot of a grid more than its
width has.

A log that takes a moment only while fewer than a limit lie behind it in a window holds
no more than the limit in any window of that width.
-/

namespace GptTrader

namespace TimeWindows

/-- The windows of a span from `current` to `finish`, none wider than `width`;
nothing when the fuel runs out. -/
def windows (finish width : ℤ) : ℕ → ℤ → Option (List (ℤ × ℤ))
  | 0, current => if current < finish then none else some []
  | fuel + 1, current =>
      if current < finish then
        let stop := min (current + width) finish
        (windows finish width fuel stop).map ((current, stop) :: ·)
      else some []

/-- Windows of a span that lie in it and touch every moment of it. -/
structure Tile (current finish width : ℤ) (tiles : List (ℤ × ℤ)) : Prop where
  within : ∀ tile ∈ tiles, current ≤ tile.1 ∧ tile.1 ≤ tile.2 ∧
    tile.2 ≤ finish ∧ tile.2 ≤ tile.1 + width
  touch : current < finish → ∀ moment, current ≤ moment → moment ≤ finish →
    ∃ tile ∈ tiles, tile.1 ≤ moment ∧ moment ≤ tile.2

theorem tile_nil {current finish width : ℤ} (done : ¬current < finish) :
    Tile current finish width [] :=
  ⟨fun _ member => (List.not_mem_nil member).elim, fun less => absurd less done⟩

/-- The windows tile the time up to the end. -/
theorem windows_tile {finish width : ℤ} (wide : 0 < width) (fuel : ℕ)
    (current : ℤ) (enough : finish ≤ current + fuel * width) :
    ∃ tiles, windows finish width fuel current = some tiles ∧
      Tile current finish width tiles := by
  induction fuel generalizing current with
  | zero =>
      have done : ¬current < finish := by
        rw [Nat.cast_zero, zero_mul, add_zero] at enough
        exact not_lt.mpr enough
      exact ⟨[], if_neg done, tile_nil done⟩
  | succ fuel induction =>
      unfold windows
      by_cases less : current < finish
      · have further : current ≤ min (current + width) finish :=
          le_min (by linarith) less.le
        have left : finish ≤ min (current + width) finish + fuel * width := by
          push_cast at enough
          rcases min_choice (current + width) finish with same | same
          · rw [same]
            linarith
          · rw [same]
            nlinarith [Int.natCast_nonneg fuel]
        obtain ⟨rest, found, tiles⟩ := induction _ left
        refine ⟨(current, min (current + width) finish) :: rest, ?_, ?_⟩
        · rw [if_pos less]
          dsimp only
          rw [found]
          rfl
        · constructor
          · intro tile member
            rcases List.mem_cons.mp member with rfl | later
            · exact ⟨le_rfl, further, min_le_right _ _, min_le_left _ _⟩
            · obtain ⟨start, others⟩ := tiles.within tile later
              exact ⟨further.trans start, others⟩
          · intro _ moment after before
            by_cases first : moment ≤ min (current + width) finish
            · exact ⟨_, List.mem_cons_self, after, first⟩
            · have next := not_le.mp first
              obtain ⟨tile, member, touched⟩ := tiles.touch
                (next.trans_le before) moment next.le before
              exact ⟨tile, List.mem_cons_of_mem _ member, touched⟩
      · exact ⟨[], if_neg less, tile_nil less⟩

theorem windows_mono {finish width : ℤ} {fuel more : ℕ} (le : fuel ≤ more)
    {current : ℤ} {tiles : List (ℤ × ℤ)}
    (found : windows finish width fuel current = some tiles) :
    windows finish width more current = some tiles := by
  induction fuel generalizing current tiles more with
  | zero =>
      have done : ¬current < finish := by
        intro less
        rw [windows, if_pos less] at found
        cases found
      rw [windows, if_neg done] at found
      cases more <;> rw [windows, if_neg done, ← found]
  | succ fuel induction =>
      obtain ⟨more, rfl⟩ := Nat.exists_eq_add_of_le' (Nat.one_le_of_lt le)
      unfold windows at found ⊢
      split at found
      · next less =>
          rw [if_pos less]
          obtain ⟨rest, later, rfl⟩ := Option.map_eq_some_iff.mp found
          dsimp only
          rw [induction (Nat.le_of_succ_le_succ le) later]
          rfl
      · next done => rw [if_neg done, found]

def slot (origin width moment : ℤ) : ℤ :=
  (moment - origin) / width

theorem length_le_slots {origin width : ℤ} (wide : 0 < width)
    {first last : ℤ} {count : ℕ} (narrow : last ≤ first + count * width)
    (moments : List ℤ) (once : (moments.map (slot origin width)).Nodup)
    (within : ∀ moment ∈ moments, first ≤ moment ∧ moment ≤ last) :
    moments.length ≤ count + 1 := by
  have member : ∀ place ∈ (moments.map (slot origin width)).toFinset,
      place ∈ Finset.Icc (slot origin width first)
        (slot origin width first + count) := by
    intro place listed
    obtain ⟨moment, held, rfl⟩ :=
      List.mem_map.mp (List.mem_toFinset.mp listed)
    obtain ⟨after, before⟩ := within moment held
    rw [Finset.mem_Icc]
    refine ⟨Int.ediv_le_ediv wide (by linarith), ?_⟩
    have bound : (moment - origin) / width ≤
        (first - origin + count * width) / width :=
      Int.ediv_le_ediv wide (by linarith)
    rw [Int.add_mul_ediv_right _ _ wide.ne'] at bound
    exact bound
  have card := Finset.card_le_card member
  rw [List.toFinset_card_of_nodup once, List.length_map, Int.card_Icc] at card
  omega

section Sliding

variable {τ : Type} [AddCommGroup τ] [LinearOrder τ] [IsOrderedAddMonoid τ]
variable {width now later : τ} {limit : ℕ} {log : List τ}

/-- The moments of a log that lie less than a width behind. -/
def recent (width now : τ) (log : List τ) : List τ :=
  log.filter fun moment => decide (now - moment < width)

theorem recent_recent (order : now ≤ later) (log : List τ) :
    recent width later (recent width now log) = recent width later log := by
  unfold recent
  rw [List.filter_filter]
  apply List.filter_congr
  intro moment _
  have nearer : later - moment < width → now - moment < width :=
    (sub_le_sub_right order moment).trans_lt
  rw [← Bool.decide_and]
  exact decide_eq_decide.mpr ⟨And.left, fun near => ⟨near, nearer near⟩⟩

/-- A log in the order of its moments, each with fewer than a limit behind it. -/
inductive Admitted (width : τ) (limit : ℕ) : List τ → Prop where
  | nil : Admitted width limit []
  | snoc {log : List τ} {now : τ} (admitted : Admitted width limit log)
      (order : ∀ moment ∈ log, moment ≤ now) (room : (recent width now log).length < limit) :
      Admitted width limit (log ++ [now])

theorem Admitted.length_window (admitted : Admitted width limit log) (finish : τ) :
    (log.filter fun moment =>
      decide (finish - width < moment ∧ moment ≤ finish)).length ≤ limit := by
  induction admitted with
  | nil => exact Nat.zero_le _
  | @snoc log now admitted order room induction =>
      rw [List.filter_append, List.length_append]
      by_cases inside : now ≤ finish
      · have fewer : (log.filter fun moment =>
            decide (finish - width < moment ∧ moment ≤ finish)).length ≤
              (recent width now log).length := by
          apply List.Sublist.length_le
          apply List.monotone_filter_right
          intro moment member
          apply decide_eq_true
          have near := sub_lt_comm.mp (of_decide_eq_true member).1
          exact (sub_le_sub_right inside moment).trans_lt near
        have last := List.length_filter_le
          (fun moment => decide (finish - width < moment ∧ moment ≤ finish)) [now]
        rw [List.length_singleton] at last
        omega
      · rw [List.filter_cons_of_neg (by simp [inside])]
        exact induction

end Sliding

end TimeWindows

end GptTrader
