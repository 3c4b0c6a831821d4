import Mathlib.Data.Int.Interval
import Mathlib.Data.Set.Card
import Mathlib.Order.Bounds.Basic
import Mathlib.Order.Interval.Set.Disjoint
import Mathlib.Tactic.Common

/-!
# Time spent in a set of moments

The moments of a linear order of which only some are active.  `elapsed` counts the
active ones of a half-open interval, and `Advances` is the earliest moment by which
a given amount has elapsed.
-/

namespace GptTrader

namespace ActiveTime

variable {τ : Type} [LinearOrder τ] {active : Set τ}

/-- The active moments between two moments. -/
noncomputable def elapsed (active : Set τ) (first last : τ) : ℕ :=
  (Set.Ico first last ∩ active).ncard

theorem elapsed_eq_zero {first last : τ}
    (idle : ∀ moment, first ≤ moment → moment < last → moment ∉ active) :
    elapsed active first last = 0 := by
  unfold elapsed
  have empty : Set.Ico first last ∩ active = ∅ := by
    apply Set.eq_empty_of_forall_notMem
    intro moment ⟨within, isActive⟩
    exact idle moment within.1 within.2 isActive
  rw [empty, Set.ncard_empty]

@[simp] theorem elapsed_self (moment : τ) :
    elapsed active moment moment = 0 := by
  apply elapsed_eq_zero
  intro other first last
  exact absurd first (not_le.mpr last)

/-- The first moment by which the amount has passed. -/
def Advances (active : Set τ) (start : τ) (amount : ℕ) (stop : τ) : Prop :=
  IsLeast {moment | start ≤ moment ∧ elapsed active start moment = amount} stop

variable [LocallyFiniteOrder τ]

theorem finite_active (active : Set τ) (first last : τ) :
    (Set.Ico first last ∩ active).Finite :=
  (Set.finite_Ico first last).subset Set.inter_subset_left

theorem elapsed_add {first middle last : τ} (early : first ≤ middle)
    (late : middle ≤ last) :
    elapsed active first middle + elapsed active middle last =
      elapsed active first last := by
  unfold elapsed
  rw [← Set.ncard_union_eq _ (finite_active active first middle)
    (finite_active active middle last), ← Set.union_inter_distrib_right,
    Set.Ico_union_Ico_eq_Ico early late]
  apply Set.disjoint_of_subset Set.inter_subset_left Set.inter_subset_left
  exact Set.Ico_disjoint_Ico_same

theorem elapsed_pos {first moment last : τ} (from' : first ≤ moment)
    (before : moment < last) (isActive : moment ∈ active) :
    0 < elapsed active first last := by
  apply (Set.ncard_pos (finite_active active first last)).mpr
  exact ⟨moment, ⟨from', before⟩, isActive⟩

theorem elapsed_le {first middle last : τ} (late : middle ≤ last) :
    elapsed active first middle ≤ elapsed active first last := by
  apply Set.ncard_le_ncard _ (finite_active active first last)
  exact Set.inter_subset_inter_left _ (Set.Ico_subset_Ico_right late)

namespace Advances

variable {start middle stop : τ} {amount more : ℕ}

omit [LocallyFiniteOrder τ] in
theorem unique {other : τ} (advances : Advances active start amount stop)
    (advancesToo : Advances active start amount other) : stop = other :=
  IsLeast.unique advances advancesToo

omit [LocallyFiniteOrder τ] in
theorem zero (start : τ) : Advances active start 0 start := by
  constructor
  · exact ⟨le_refl start, elapsed_self start⟩
  · intro moment ⟨late, _⟩
    exact late

theorem through (early : start ≤ middle) (left : 0 < more)
    (advances : Advances active middle more stop) :
    Advances active start (elapsed active start middle + more) stop := by
  constructor
  · have late : middle ≤ stop := advances.1.1
    refine ⟨le_trans early late, ?_⟩
    rw [← elapsed_add early late, advances.1.2]
  · intro moment ⟨from', spent⟩
    have late : middle ≤ moment := by
      by_contra sooner
      have less : elapsed active start moment ≤ elapsed active start middle :=
        elapsed_le (le_of_lt (not_le.mp sooner))
      omega
    apply advances.2
    refine ⟨late, ?_⟩
    have parts : elapsed active start middle + elapsed active middle moment =
        elapsed active start moment := elapsed_add early late
    omega

theorem mono {late lateStop : τ} (advances : Advances active start amount stop)
    (advancesToo : Advances active late more lateStop) (later : start ≤ late)
    (longer : amount ≤ more) : stop ≤ lateStop := by
  by_contra sooner
  have before : lateStop ≤ stop := le_of_lt (not_le.mp sooner)
  have reached : late ≤ lateStop := advancesToo.1.1
  have parts : elapsed active start late + elapsed active late lateStop =
      elapsed active start lateStop := elapsed_add later reached
  have enough := advancesToo.1.2
  have most : elapsed active start lateStop ≤ amount := by
    rw [← advances.1.2]
    exact elapsed_le before
  apply sooner
  apply advances.2
  exact ⟨le_trans later reached, by omega⟩

theorem add (advances : Advances active start amount middle)
    (onward : Advances active middle more stop) :
    Advances active start (amount + more) stop := by
  constructor
  · refine ⟨le_trans advances.1.1 onward.1.1, ?_⟩
    rw [← elapsed_add advances.1.1 onward.1.1, advances.1.2, onward.1.2]
  · intro moment ⟨from', spent⟩
    have late : middle ≤ moment := by
      by_contra sooner
      have less : elapsed active start moment ≤ amount := by
        rw [← advances.1.2]
        exact elapsed_le (le_of_lt (not_le.mp sooner))
      apply sooner
      apply advances.2
      exact ⟨from', by omega⟩
    have parts : elapsed active start middle + elapsed active middle moment =
        elapsed active start moment := elapsed_add advances.1.1 late
    apply onward.2
    exact ⟨late, by rw [advances.1.2] at parts; omega⟩

end Advances

/-! ## Whole moments -/

section Whole

variable {active : Set ℤ} {start stop : ℤ}

theorem elapsed_eq_sub (early : start ≤ stop)
    (busy : ∀ moment, start ≤ moment → moment < stop → moment ∈ active) :
    (elapsed active start stop : ℤ) = stop - start := by
  unfold elapsed
  have whole : Set.Ico start stop ∩ active = (Finset.Ico start stop : Set ℤ) := by
    rw [Finset.coe_Ico, Set.inter_eq_left]
    intro moment within
    exact busy moment within.1 within.2
  rw [whole, Set.ncard_coe_finset, Int.card_Ico]
  exact Int.toNat_of_nonneg (sub_nonneg.mpr early)

theorem advances_within {amount : ℕ}
    (busy : ∀ moment, start ≤ moment → moment < start + amount →
      moment ∈ active) :
    Advances active start amount (start + amount) := by
  constructor
  · have early : start ≤ start + amount := by omega
    refine ⟨early, ?_⟩
    have counted := elapsed_eq_sub early busy
    omega
  · intro moment ⟨from', spent⟩
    by_contra sooner
    have counted : (elapsed active start moment : ℤ) = moment - start := by
      apply elapsed_eq_sub from'
      intro other first last
      exact busy other first (by omega)
    omega

end Whole

end ActiveTime

end GptTrader
