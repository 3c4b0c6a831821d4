import Mathlib.Data.List.Induction
import GptTrader.Library.Outcome

/-!
# Logs read by replaying their lines

An append-only log is read by folding a step over its lines; the first line the
step refuses makes the whole log unreadable.  What such a reader accepts is
proved by induction over the appended lines: an accepted log is an accepted
shorter log with one more accepted line.
-/

namespace GptTrader

variable {ε σ ℓ : Type}

/-- A log folded into a state, up to its first error. -/
def replay (step : σ → ℓ → Except ε σ) : σ → List ℓ → Except ε σ
  | state, [] => .ok state
  | state, line :: rest => do
      let next ← step state line
      replay step next rest

namespace Replay

variable {step : σ → ℓ → Except ε σ} {start finish : σ}

@[simp] theorem replay_nil : replay step start [] = .ok start :=
  rfl

theorem replay_cons (line : ℓ) (rest : List ℓ) :
    replay step start (line :: rest) =
      step start line >>= fun next => replay step next rest :=
  rfl

theorem replay_append (earlier later : List ℓ) :
    replay step start (earlier ++ later) =
      replay step start earlier >>= fun middle => replay step middle later := by
  induction earlier generalizing start with
  | nil => rfl
  | cons line rest induction =>
      rw [List.cons_append, replay_cons, replay_cons]
      cases step start line with
      | error error => rfl
      | ok next => exact induction

theorem replay_snoc_eq_ok {lines : List ℓ} {line : ℓ} :
    replay step start (lines ++ [line]) = .ok finish ↔
      ∃ middle, replay step start lines = .ok middle ∧
        step middle line = .ok finish := by
  rw [replay_append, Outcome.bind_eq_ok]
  constructor
  · rintro ⟨middle, read, last⟩
    obtain ⟨next, accepted, ended⟩ := Outcome.bind_eq_ok.mp last
    cases ended
    exact ⟨middle, read, accepted⟩
  · rintro ⟨middle, read, accepted⟩
    exact ⟨middle, read, Outcome.bind_eq_ok.mpr ⟨finish, accepted, rfl⟩⟩

theorem replay_append_eq_ok {earlier later : List ℓ} :
    replay step start (earlier ++ later) = .ok finish ↔
      ∃ middle, replay step start earlier = .ok middle ∧
        replay step middle later = .ok finish := by
  rw [replay_append, Outcome.bind_eq_ok]

theorem replay_eq_error {lines : List ℓ} {error : ε} :
    replay step start lines = .error error ↔
      ∃ earlier line later middle, lines = earlier ++ line :: later ∧
        replay step start earlier = .ok middle ∧
        step middle line = .error error := by
  constructor
  · intro refused
    induction lines generalizing start with
    | nil => cases refused
    | cons line rest induction =>
        rw [replay_cons, Outcome.bind_eq_error] at refused
        rcases refused with first | ⟨next, accepted, refused⟩
        · exact ⟨[], line, rest, start, rfl, rfl, first⟩
        · obtain ⟨earlier, last, later, middle, rfl, read, stopped⟩ :=
            induction refused
          refine ⟨line :: earlier, last, later, middle, rfl, ?_, stopped⟩
          rw [replay_cons, accepted]
          exact read
  · rintro ⟨earlier, line, later, middle, rfl, read, stopped⟩
    rw [replay_append, Outcome.bind_eq_error]
    exact .inr ⟨middle, read, Outcome.bind_eq_error.mpr (.inl stopped)⟩

/-- The induction rule for accepted logs: a property of the log and of what it
was read as, kept by every accepted line, holds of every accepted log. -/
theorem replay_induction (property : List ℓ → σ → Prop)
    (initially : property [] start)
    (preserved : ∀ lines state line next,
      replay step start lines = .ok state → property lines state →
      step state line = .ok next → property (lines ++ [line]) next)
    {lines : List ℓ} (accepted : replay step start lines = .ok finish) :
    property lines finish := by
  induction lines using List.reverseRecOn generalizing finish with
  | nil =>
      cases accepted
      exact initially
  | append_singleton lines line induction =>
      obtain ⟨middle, read, last⟩ := replay_snoc_eq_ok.mp accepted
      exact preserved lines middle line finish read (induction read) last

end Replay

end GptTrader
