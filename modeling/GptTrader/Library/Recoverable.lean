import Mathlib.Data.List.Induction

/-!
# Processes whose state is saved and restored

A process takes its inputs one at a time.  Between any two of them its state may be
written out and read back.  What the state knows of the inputs is proved once, by
induction over the run: the start knows nothing, an update adds one input, and a
restored state knows what the saved one did.
-/

namespace GptTrader

/-- A process with a state that can be saved. -/
structure Recoverable (State Saved Input Output : Type) where
  start : State
  update : State → Input → State × Output
  serialize : State → Saved
  deserialize : Saved → State

/-- What may happen to a process: an input, or a restart from its saved state. -/
inductive ProcessEvent (Input : Type) where
  | input (value : Input)
  | restart

namespace Recoverable

variable {State Saved Input Output : Type}

/-- The inputs among the events. -/
def inputs (events : List (ProcessEvent Input)) : List Input :=
  events.filterMap fun
    | .input value => some value
    | .restart => none

variable (process : Recoverable State Saved Input Output)

def step (state : State) : ProcessEvent Input → State
  | .input value => (process.update state value).1
  | .restart => process.deserialize (process.serialize state)

def after (events : List (ProcessEvent Input)) : State :=
  events.foldl process.step process.start

/-- Whatever was read and wherever the process was restarted, the next update is right
for all that was read. -/
def AtEveryUpdate (right : List Input → State → Output → Prop) : Prop :=
  ∀ (events : List (ProcessEvent Input)) (value : Input),
    let updated := process.update (process.after events) value
    right (inputs events ++ [value]) updated.1 updated.2

/-- What a state knows of the inputs is known initially, and kept by updates and by
restarts. -/
structure Tracks (knows : List Input → State → Prop) : Prop where
  start : knows [] process.start
  update : ∀ read state value, knows read state →
    knows (read ++ [value]) (process.update state value).1
  restart : ∀ read state, knows read state →
    knows read (process.deserialize (process.serialize state))

variable {process} {knows : List Input → State → Prop}

theorem Tracks.after (tracks : process.Tracks knows)
    (events : List (ProcessEvent Input)) :
    knows (inputs events) (process.after events) := by
  induction events using List.reverseRecOn with
  | nil => exact tracks.start
  | append_singleton events event induction =>
      unfold Recoverable.after inputs
      rw [List.foldl_append, List.filterMap_append]
      cases event with
      | input value => exact tracks.update _ _ value induction
      | restart =>
          rw [List.filterMap_cons_none rfl, List.filterMap_nil, List.append_nil]
          exact tracks.restart _ _ induction

/-- An update is right at every step of every run if it is right in every state that
knows its inputs. -/
theorem Tracks.atEveryUpdate {right : List Input → State → Output → Prop}
    (tracks : process.Tracks knows)
    (correct : ∀ read state value, knows read state →
      right (read ++ [value]) (process.update state value).1
        (process.update state value).2) :
    process.AtEveryUpdate right :=
  fun events value => correct _ _ value (tracks.after events)

end Recoverable

end GptTrader
