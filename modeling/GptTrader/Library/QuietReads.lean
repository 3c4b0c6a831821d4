import Mathlib.Data.List.Basic
import Mathlib.Tactic.Common

/-!
# Reads between writes

A machine takes writes, each with an answer, and is read between them.  Reads that leave
the state as it is do not show in the answers; what holds of the machine after a run is
proved over the steps of the run, each of which may have to meet a condition.
-/

namespace GptTrader

/-- A machine that is written and read. -/
structure ReadWrite (State Write Read Answer : Type) where
  write : State → Write → State × Answer
  read : State → Read → State

/-- A write or a read. -/
inductive ReadWriteStep (Write Read : Type) where
  | write (value : Write)
  | read (value : Read)

namespace ReadWrite

variable {State Write Read Answer : Type} (machine : ReadWrite State Write Read Answer)

def step (state : State) : ReadWriteStep Write Read → State
  | .write value => (machine.write state value).1
  | .read value => machine.read state value

def run (state : State) (steps : List (ReadWriteStep Write Read)) : State :=
  steps.foldl machine.step state

/-- What each write was answered. -/
def answers : State → List (ReadWriteStep Write Read) → List (Write × Answer)
  | _, [] => []
  | state, .write value :: rest =>
      let written := machine.write state value
      (value, written.2) :: answers written.1 rest
  | state, .read value :: rest => answers (machine.read state value) rest

/-- The writes of a run alone. -/
def writes (steps : List (ReadWriteStep Write Read)) :
    List (ReadWriteStep Write Read) :=
  steps.filter fun
    | .write _ => true
    | .read _ => false

/-- Every step meets the condition when it is taken. -/
def Along (meets : State → ReadWriteStep Write Read → Prop) :
    State → List (ReadWriteStep Write Read) → Prop
  | _, [] => True
  | state, taken :: rest =>
      meets state taken ∧ Along meets (machine.step state taken) rest

instance Along.decidable (meets : State → ReadWriteStep Write Read → Prop)
    [∀ state taken, Decidable (meets state taken)] :
    (state : State) → (steps : List (ReadWriteStep Write Read)) →
      Decidable (machine.Along meets state steps)
  | _, [] => isTrue trivial
  | state, taken :: rest =>
      have := Along.decidable meets (machine.step state taken) rest
      inferInstanceAs (Decidable (_ ∧ _))

variable {machine} {meets : State → ReadWriteStep Write Read → Prop}

theorem run_append (state : State) (first second : List (ReadWriteStep Write Read)) :
    machine.run state (first ++ second) =
      machine.run (machine.run state first) second :=
  List.foldl_append

theorem along_of_forall (state : State) {steps : List (ReadWriteStep Write Read)}
    (met : ∀ taken ∈ steps, ∀ state, meets state taken) :
    machine.Along meets state steps := by
  induction steps generalizing state with
  | nil => trivial
  | cons taken rest induction =>
      refine ⟨met taken List.mem_cons_self state, induction _ ?_⟩
      intro later member
      exact met later (List.mem_cons_of_mem taken member)

theorem answers_append (state : State)
    (first second : List (ReadWriteStep Write Read)) :
    machine.answers state (first ++ second) =
      machine.answers state first ++
        machine.answers (machine.run state first) second := by
  induction first generalizing state with
  | nil => rfl
  | cons taken rest induction =>
      cases taken with
      | write value =>
          rw [List.cons_append, answers, answers, induction]
          rfl
      | read value =>
          rw [List.cons_append, answers, answers, induction]
          rfl

theorem run_keeps {holds : List (ReadWriteStep Write Read) → State → Prop}
    {start : State} (initial : holds [] start)
    (kept : ∀ before state taken, holds before state → meets state taken →
      holds (before ++ [taken]) (machine.step state taken))
    (steps : List (ReadWriteStep Write Read))
    (met : machine.Along meets start steps) : holds steps (machine.run start steps) := by
  suffices general : ∀ before state, holds before state →
      machine.Along meets state steps →
        holds (before ++ steps) (machine.run state steps) from
    general [] start initial met
  clear initial met
  induction steps with
  | nil =>
      intro before state known _
      rw [List.append_nil]
      exact known
  | cons taken rest induction =>
      intro before state known met
      have next := induction (before ++ [taken]) (machine.step state taken)
        (kept before state taken known met.1) met.2
      rw [List.append_assoc] at next
      exact next

theorem answers_writes
    (quiet : ∀ state value, meets state (.read value) → machine.read state value = state)
    (state : State) (steps : List (ReadWriteStep Write Read))
    (met : machine.Along meets state steps) :
    machine.answers state steps = machine.answers state (writes steps) := by
  induction steps generalizing state with
  | nil => rfl
  | cons taken rest induction =>
      cases taken with
      | write value =>
          have later := induction (machine.write state value).1 met.2
          rw [answers, later]
          rfl
      | read value =>
          have same := quiet state value met.1
          have next := met.2
          rw [step, same] at next
          have later := induction state next
          rw [answers, same, later]
          rfl

end ReadWrite

end GptTrader
