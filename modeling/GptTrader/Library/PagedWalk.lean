import Mathlib.Data.Finset.Card
import Mathlib.Data.List.TakeWhile
import Mathlib.Tactic.Common

/-!
# Walks over pages

A loop asks a server for one page after another, each time with the cursor of the
last reply, until a reply ends it.  The server is not trusted: a reply may depend
on the number of the request, and may carry any cursor or none.
-/

namespace GptTrader

/-- The items a request yields, and the next cursor or how the request failed. -/
structure Reply (ι κ ε : Type) where
  items : List ι
  cursor : Except ε κ

/-- A loop over pages: the reply to the request of a number with a cursor, and
whether the asked cursor, the items and the next cursor of a reply end the loop. -/
structure Pager (ι κ ε : Type) where
  ask : ℕ → κ → Reply ι κ ε
  stops : κ → List ι → κ → Bool

namespace Pager

variable {ι κ ε : Type}

def walk (pager : Pager ι κ ε) : ℕ → ℕ → κ → Option (List ι × Option ε)
  | 0, _, _ => none
  | fuel + 1, number, asked =>
      let reply := pager.ask number asked
      match reply.cursor with
      | .error error => some (reply.items, some error)
      | .ok next =>
          if pager.stops asked reply.items next then
            some (reply.items, none)
          else
            (pager.walk fuel (number + 1) next).map fun (items, failure) =>
              (reply.items ++ items, failure)

/-- The page is the last one. -/
def Ends (pager : Pager ι κ ε) (number : ℕ) (asked : κ) : Prop :=
  ∀ next, (pager.ask number asked).cursor = .ok next →
    pager.stops asked (pager.ask number asked).items next = true

/-- The cursor after a page. -/
def following (pager : Pager ι κ ε) (number : ℕ) (asked : κ) : κ :=
  match (pager.ask number asked).cursor with
  | .ok next => next
  | .error _ => asked

def cursorAt (pager : Pager ι κ ε) (number : ℕ) (asked : κ) : ℕ → κ
  | 0 => asked
  | later + 1 =>
      pager.cursorAt (number + 1) (pager.following number asked) later

/-- The pages a server serves from a cursor: the items at the cursor, then each
later page after the cursor that leads to it, and `last` at the end. -/
def Serves (pager : Pager ι κ ε) (last : κ) :
    ℕ → κ → List ι → List (κ × List ι) → Prop
  | number, asked, items, [] =>
      pager.ask number asked = { items := items, cursor := .ok last }
  | number, asked, items, (next, more) :: rest =>
      pager.ask number asked = { items := items, cursor := .ok next } ∧
        pager.Serves last (number + 1) next more rest

def kept (pager : Pager ι κ ε) : κ → List ι → List (κ × List ι) → List ι
  | _, items, [] => items
  | asked, items, (next, more) :: rest =>
      if pager.stops asked items next then
        items
      else
        items ++ pager.kept next more rest

variable {pager : Pager ι κ ε} {last : κ}

theorem walk_succ_of_ends {number : ℕ} {asked : κ} (fuel : ℕ)
    (ends : pager.Ends number asked) :
    (pager.walk (fuel + 1) number asked).isSome = true := by
  unfold walk
  cases served : (pager.ask number asked).cursor with
  | error error => simp [served]
  | ok next => simp [served, ends next served]

theorem walk_succ_of_not_ends {number : ℕ} {asked : κ} (fuel : ℕ)
    (continues : ¬pager.Ends number asked) :
    (pager.walk (fuel + 1) number asked).isSome =
      (pager.walk fuel (number + 1) (pager.following number asked)).isSome := by
  simp only [Ends, not_forall] at continues
  obtain ⟨next, served, open_⟩ := continues
  simp [walk, following, served, open_]

theorem walk_isSome_iff (fuel number : ℕ) (asked : κ) :
    (pager.walk fuel number asked).isSome = true ↔
      ∃ later < fuel,
        pager.Ends (number + later) (pager.cursorAt number asked later) := by
  induction fuel generalizing number asked with
  | zero => simp [walk]
  | succ fuel induction =>
      by_cases ends : pager.Ends number asked
      · have halts := walk_succ_of_ends fuel ends
        exact ⟨fun _ => ⟨0, by omega, ends⟩, fun _ => halts⟩
      · rw [walk_succ_of_not_ends fuel ends, induction]
        constructor
        · rintro ⟨later, within, found⟩
          refine ⟨later + 1, by omega, ?_⟩
          rw [cursorAt, show number + (later + 1) = number + 1 + later by omega]
          exact found
        · rintro ⟨later, within, found⟩
          cases later with
          | zero => exact absurd found ends
          | succ later =>
              refine ⟨later, by omega, ?_⟩
              rw [show number + 1 + later = number + (later + 1) by omega]
              exact found

theorem cursorAt_succ (number : ℕ) (asked : κ) (later : ℕ) :
    pager.cursorAt number asked (later + 1) =
      pager.following (number + later) (pager.cursorAt number asked later) := by
  induction later generalizing number asked with
  | zero => simp [cursorAt]
  | succ later induction =>
      rw [cursorAt, induction, cursorAt,
        show number + 1 + later = number + (later + 1) by omega]

def ServesWithin (pager : Pager ι κ ε) (cursors : Finset κ) : Prop :=
  ∀ number asked next, (pager.ask number asked).cursor = .ok next → next ∈ cursors

/-- No cursor is served a second time before a final reply. -/
def NeverServesAgain (pager : Pager ι κ ε) (final : ℕ → κ → Prop) (asked : κ) : Prop :=
  ∀ earlier later, earlier < later →
    (∀ number ≤ later, ¬final number (pager.cursorAt 0 asked number)) →
    pager.cursorAt 0 asked (earlier + 1) ≠ pager.cursorAt 0 asked (later + 1)

/-- The reply to a cursor does not depend on when it is asked for. -/
def Stationary (pager : Pager ι κ ε) : Prop :=
  ∀ number later asked, pager.ask number asked = pager.ask later asked

/-- A cursor is asked with a second time, and no reply before was final. -/
def Cycles (pager : Pager ι κ ε) (final : ℕ → κ → Prop) (asked : κ) : Prop :=
  ∃ earlier later, earlier < later ∧
    pager.cursorAt 0 asked earlier = pager.cursorAt 0 asked later ∧
    ∀ number < later, ¬final number (pager.cursorAt 0 asked number)

/-- One more cursor is served than there are, so one of them is served twice. -/
theorem served_twice {asked : κ} {cursors : Finset κ}
    (within : pager.ServesWithin cursors)
    (open_ : ∀ number < cursors.card + 1,
      ¬pager.Ends number (pager.cursorAt 0 asked number)) :
    ∃ earlier later, earlier < later ∧ later < cursors.card + 1 ∧
      pager.cursorAt 0 asked (earlier + 1) = pager.cursorAt 0 asked (later + 1) := by
  have served : ∀ later ∈ Finset.range (cursors.card + 1),
      pager.cursorAt 0 asked (later + 1) ∈ cursors := by
    intro later below
    have continues := open_ later (Finset.mem_range.mp below)
    simp only [Ends, not_forall] at continues
    obtain ⟨next, found, _⟩ := continues
    rw [cursorAt_succ, Nat.zero_add, following, found]
    exact within later _ next found
  obtain ⟨left, leftBelow, right, rightBelow, different, same⟩ :=
    Finset.exists_ne_map_eq_of_card_lt_of_maps_to (by simp) served
  rw [Finset.mem_range] at leftBelow rightBelow
  rcases Nat.lt_or_gt_of_ne different with before | after
  · exact ⟨left, right, before, rightBelow, same⟩
  · exact ⟨right, left, after, leftBelow, same.symm⟩

theorem walk_isSome_of_fresh {asked : κ} {cursors : Finset κ}
    (within : pager.ServesWithin cursors)
    (fresh : pager.NeverServesAgain pager.Ends asked) :
    (pager.walk (cursors.card + 1) 0 asked).isSome = true := by
  rw [walk_isSome_iff]
  by_contra none
  have open_ : ∀ number < cursors.card + 1,
      ¬pager.Ends number (pager.cursorAt 0 asked number) := by
    intro number below ends
    exact none ⟨number, below, by rwa [Nat.zero_add]⟩
  obtain ⟨earlier, later, before, below, same⟩ := served_twice within open_
  exact fresh earlier later before (fun number le => open_ number (by omega)) same

theorem Stationary.cursorAt_add (stationary : pager.Stationary) {asked : κ}
    {earlier later : ℕ}
    (same : pager.cursorAt 0 asked earlier = pager.cursorAt 0 asked later) (more : ℕ) :
    pager.cursorAt 0 asked (earlier + more) = pager.cursorAt 0 asked (later + more) := by
  induction more with
  | zero => exact same
  | succ more induction =>
      rw [← Nat.add_assoc, ← Nat.add_assoc, cursorAt_succ, cursorAt_succ, induction]
      unfold following
      rw [stationary (0 + (earlier + more)) (0 + (later + more))]

/-- Against a server whose replies depend on the cursor alone, the loop goes on for
ever exactly when it comes back to a cursor. -/
theorem walk_eq_none_iff (stationary : pager.Stationary) {asked : κ}
    {cursors : Finset κ} (within : pager.ServesWithin cursors) :
    (∀ fuel, pager.walk fuel 0 asked = none) ↔ pager.Cycles pager.Ends asked := by
  have endless : (∀ fuel, pager.walk fuel 0 asked = none) ↔
      ∀ number, ¬pager.Ends number (pager.cursorAt 0 asked number) := by
    simp only [← Option.not_isSome_iff_eq_none, walk_isSome_iff, Nat.zero_add]
    constructor
    · intro never number ends
      exact never (number + 1) ⟨number, by omega, ends⟩
    · rintro never _ ⟨number, _, ends⟩
      exact never number ends
  rw [endless]
  constructor
  · intro never
    obtain ⟨earlier, later, before, _, same⟩ :=
      served_twice within fun number _ => never number
    exact ⟨earlier + 1, later + 1, by omega, same, fun number _ => never number⟩
  · rintro ⟨earlier, later, before, same, open_⟩ number
    -- A later request asks with the cursor of one that many requests before it.
    induction number using Nat.strong_induction_on with
    | h number induction =>
        by_cases first : number < later
        · exact open_ number first
        · have back := stationary.cursorAt_add same (number - later)
          rw [Nat.add_sub_cancel' (not_lt.mp first)] at back
          have unended := induction (earlier + (number - later)) (by omega)
          rw [back] at unended
          unfold Ends at unended ⊢
          rwa [stationary number (earlier + (number - later))]

theorem walk_mono {fuel number : ℕ} {asked : κ} {result : List ι × Option ε}
    (walked : pager.walk fuel number asked = some result) (more : ℕ) :
    pager.walk (fuel + more) number asked = some result := by
  induction fuel generalizing number asked result with
  | zero => simp [walk] at walked
  | succ fuel induction =>
      rw [show fuel + 1 + more = fuel + more + 1 by omega]
      unfold walk at walked ⊢
      cases served : (pager.ask number asked).cursor with
      | error error => simpa [served] using walked
      | ok next =>
          by_cases stopped :
              pager.stops asked (pager.ask number asked).items next = true
          · simpa [served, stopped] using walked
          · simp only [served, stopped, Bool.false_eq_true, if_false,
              Option.map_eq_some_iff] at walked ⊢
            obtain ⟨rest, found, same⟩ := walked
            exact ⟨rest, induction found, same⟩

theorem walk_of_serves {rest : List (κ × List ι)} {number fuel : ℕ} {asked : κ}
    {items : List ι} (final : ∀ asked items, pager.stops asked items last = true)
    (serves : pager.Serves last number asked items rest)
    (enough : rest.length < fuel) :
    pager.walk fuel number asked = some (pager.kept asked items rest, none) := by
  induction rest generalizing number asked items fuel with
  | nil =>
      obtain ⟨fuel, rfl⟩ : ∃ left, fuel = left + 1 := ⟨fuel - 1, by omega⟩
      rw [Serves] at serves
      simp [walk, serves, final, kept]
  | cons link rest induction =>
      obtain ⟨next, more⟩ := link
      obtain ⟨fuel, rfl⟩ : ∃ left, fuel = left + 1 := ⟨fuel - 1, by omega⟩
      obtain ⟨served, later⟩ := serves
      have walked := @induction _ fuel _ _ later (by simpa using enough)
      by_cases stopped : pager.stops asked items next = true
      · simp [walk, served, stopped, kept]
      · simp [walk, served, stopped, kept, walked]

end Pager

end GptTrader
