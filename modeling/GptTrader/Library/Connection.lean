import Mathlib.Order.Defs.Unbundled
import Mathlib.Data.List.Chain
import Mathlib.Tactic.Common

/-!
# Connections to a transactional database

A connection holds the last committed state, the working copy of an open
transaction, and the states committed before.  A statement outside of a
transaction commits at once.

`Connection.Progresses` lifts a preorder on states to a connection: each
committed state is reached from the one before it, and the working copy from
the last one, whatever is committed or rolled back in between.
-/

namespace GptTrader

/-- The committed state and the open transaction. -/
structure Connection (δ : Type) where
  committed : δ
  earlier : List δ
  working : Option δ

namespace Connection

variable {δ : Type}

def idle (database : δ) : Connection δ :=
  { committed := database, earlier := [], working := none }

/-- What the connection reads. -/
def current (connection : Connection δ) : δ :=
  connection.working.getD connection.committed

/-- The committed states, the newest first. -/
def history (connection : Connection δ) : List δ :=
  connection.committed :: connection.earlier

def write (connection : Connection δ) (database : δ) : Connection δ :=
  match connection.working with
  | some _ => { connection with working := some database }
  | none =>
      { committed := database
        earlier := connection.history
        working := none }

/-- `BEGIN`, which a transaction in progress refuses. -/
def begin (connection : Connection δ) : Option (Connection δ) :=
  match connection.working with
  | some _ => none
  | none => some { connection with working := some connection.committed }

/-- `COMMIT`; without a transaction there is nothing to commit. -/
def commit (connection : Connection δ) : Connection δ :=
  match connection.working with
  | some database =>
      { committed := database
        earlier := connection.history
        working := none }
  | none => connection

def rollback (connection : Connection δ) : Connection δ :=
  { connection with working := none }

@[simp] theorem current_idle (database : δ) :
    (idle database).current = database :=
  rfl

@[simp] theorem current_rollback (connection : Connection δ) :
    connection.rollback.current = connection.committed :=
  rfl

@[simp] theorem current_write (connection : Connection δ) (database : δ) :
    (connection.write database).current = database := by
  unfold write current
  split <;> rfl

@[simp] theorem current_commit (connection : Connection δ) :
    connection.commit.current = connection.current := by
  unfold commit current
  split <;> simp_all

theorem current_begin {connection opened : Connection δ}
    (begun : connection.begin = some opened) :
    opened.current = connection.current := by
  unfold begin at begun
  split at begun
  · simp at begun
  · next closed =>
      simp only [Option.some.injEq] at begun
      simp [← begun, current, closed]

/-- Every committed state is reached from the initial one, and consecutive
states, the working copy being the latest, are related. -/
structure Progresses (relation : δ → δ → Prop) (initial : δ)
    (connection : Connection δ) : Prop where
  reached : ∀ database ∈ connection.history, relation initial database
  chained : List.IsChain (fun later earlier => relation earlier later)
    connection.history
  pending : relation connection.committed connection.current

section Progress

variable {relation : δ → δ → Prop} [Std.Refl relation] [IsTrans δ relation]
variable {initial : δ} {connection : Connection δ}

omit [IsTrans δ relation] in
theorem progresses_idle (database : δ) :
    (idle database).Progresses relation database :=
  { reached := fun _ member => by
      rw [List.mem_singleton.mp member]
      exact Std.Refl.refl database
    chained := List.isChain_singleton database
    pending := Std.Refl.refl database }

theorem Progresses.extend (progress : connection.Progresses relation initial)
    {database : δ} (step : relation connection.committed database) :
    Progresses relation initial
      { committed := database
        earlier := connection.history
        working := none } :=
  { reached := fun state member => by
      rcases List.mem_cons.mp member with rfl | earlier
      · have started := progress.reached connection.committed (by simp [history])
        exact IsTrans.trans _ _ _ started step
      · exact progress.reached state earlier
    chained := List.IsChain.cons_cons step progress.chained
    pending := Std.Refl.refl database }

theorem Progresses.write (progress : connection.Progresses relation initial)
    {database : δ} (step : relation connection.current database) :
    (connection.write database).Progresses relation initial := by
  have stepped := IsTrans.trans _ _ _ progress.pending step
  unfold Connection.write
  split
  · exact
      { reached := progress.reached
        chained := progress.chained
        pending := stepped }
  · exact progress.extend stepped

omit [IsTrans δ relation] in
theorem Progresses.begin {opened : Connection δ}
    (progress : connection.Progresses relation initial)
    (begun : connection.begin = some opened) :
    opened.Progresses relation initial := by
  unfold Connection.begin at begun
  split at begun
  · simp at begun
  · simp only [Option.some.injEq] at begun
    rw [← begun]
    exact
      { reached := progress.reached
        chained := progress.chained
        pending := Std.Refl.refl connection.committed }

theorem Progresses.commit (progress : connection.Progresses relation initial) :
    connection.commit.Progresses relation initial := by
  have pending := progress.pending
  unfold Connection.commit
  split
  · next database opened =>
      simp only [current, opened, Option.getD_some] at pending
      exact progress.extend pending
  · exact progress

omit [IsTrans δ relation] in
theorem Progresses.rollback
    (progress : connection.Progresses relation initial) :
    connection.rollback.Progresses relation initial :=
  { reached := progress.reached
    chained := progress.chained
    pending := Std.Refl.refl connection.committed }

end Progress

end Connection

end GptTrader
