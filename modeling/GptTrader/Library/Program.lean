import Mathlib.Logic.Relation
import Mathlib.Logic.Function.Basic
import Mathlib.Tactic.Common

/-!
# Programs between atomic operations

A `Program` performs operations on something shared and continues with what
they reply.  Between two operations other programs may run, or it may crash.

A `Session` says which operations a caller may perform next, depending on what
it performed before.  `Program.Follows` is proved of one program alone, for any
replies; `System.follows` carries it to every interleaving, together with an
invariant that allowed operations keep.
-/

namespace GptTrader

/-- A computation which performs operations and returns a value or raises. -/
inductive Program (Op : Type) (Reply : Op → Type) (ε α : Type) : Type where
  | done (outcome : Except ε α)
  | perform (op : Op) (next : Reply op → Program Op Reply ε α)

namespace Program

variable {Op : Type} {Reply : Op → Type} {ε α β : Type}

/-- One program after another. -/
def andThen (body : Program Op Reply ε α)
    (next : Except ε α → Program Op Reply ε β) : Program Op Reply ε β :=
  match body with
  | done outcome => next outcome
  | perform op rest => perform op fun reply => (rest reply).andThen next

instance : Monad (Program Op Reply ε) where
  pure value := done (.ok value)
  bind body next := body.andThen fun outcome =>
    match outcome with
    | .ok value => next value
    | .error error => done (.error error)

def raise (error : ε) : Program Op Reply ε α :=
  done (.error error)

def lift (outcome : Except ε α) : Program Op Reply ε α :=
  done outcome

/-- A program with its errors handled. -/
def handle (body : Program Op Reply ε α)
    (handler : ε → Program Op Reply ε α) : Program Op Reply ε α :=
  body.andThen fun outcome =>
    match outcome with
    | .ok value => done (.ok value)
    | .error error => handler error

/-- One operation and its reply. -/
def request (op : Op) : Program Op Reply ε (Reply op) :=
  perform op fun reply => done (.ok reply)

/-- Run a program alone; `serve` performs its operations. -/
def run {σ : Type} (serve : (op : Op) → σ → Reply op × σ) :
    Program Op Reply ε α → σ → Except ε α × σ
  | done outcome, state => (outcome, state)
  | perform op next, state =>
      (next (serve op state).1).run serve (serve op state).2

section Runs

variable {σ : Type} {serve : (op : Op) → σ → Reply op × σ} {state : σ}

@[simp] theorem run_done {outcome : Except ε α} :
    (done outcome : Program Op Reply ε α).run serve state = (outcome, state) :=
  rfl

end Runs

end Program

/-- What a caller may perform in each phase, and the phase a reply leads to. -/
structure Session (Op : Type) (Reply : Op → Type) (γ : Type) where
  allows : γ → Op → Prop
  after : γ → (op : Op) → Reply op → γ

namespace Program

variable {Op : Type} {Reply : Op → Type} {ε α β γ : Type}

/-- From a phase the program performs allowed operations only, whatever they
reply, and ends as promised. -/
def Follows (session : Session Op Reply γ) :
    Program Op Reply ε α → γ → (γ → Except ε α → Prop) → Prop
  | done outcome, phase, ends => ends phase outcome
  | perform op next, phase, ends =>
      session.allows phase op ∧
        ∀ reply, (next reply).Follows session (session.after phase op reply) ends

section Rules

variable {session : Session Op Reply γ} {phase : γ}
variable {ends : γ → Except ε β → Prop}

theorem Follows.mono {body : Program Op Reply ε α}
    {weaker stronger : γ → Except ε α → Prop}
    (follows : body.Follows session phase stronger)
    (implies : ∀ phase outcome, stronger phase outcome → weaker phase outcome) :
    body.Follows session phase weaker := by
  induction body generalizing phase with
  | done outcome => exact implies _ _ follows
  | perform op next induction =>
      exact ⟨follows.1, fun reply => induction reply (follows.2 reply)⟩

theorem follows_andThen {body : Program Op Reply ε α}
    {next : Except ε α → Program Op Reply ε β} :
    (body.andThen next).Follows session phase ends ↔
      body.Follows session phase fun phase outcome =>
        (next outcome).Follows session phase ends := by
  induction body generalizing phase with
  | done outcome => exact Iff.rfl
  | perform op rest induction =>
      exact and_congr_right fun _ => forall_congr' fun reply => induction reply

theorem follows_bind {body : Program Op Reply ε α}
    {next : α → Program Op Reply ε β}
    (follows : body.Follows session phase fun phase outcome =>
      match outcome with
      | .ok value => (next value).Follows session phase ends
      | .error error => ends phase (.error error)) :
    (body >>= next).Follows session phase ends := by
  refine follows_andThen.mpr (follows.mono fun phase outcome holds => ?_)
  cases outcome with
  | ok value => exact holds
  | error error => exact holds

theorem follows_handle {body : Program Op Reply ε β}
    {handler : ε → Program Op Reply ε β}
    (follows : body.Follows session phase fun phase outcome =>
      match outcome with
      | .ok value => ends phase (.ok value)
      | .error error => (handler error).Follows session phase ends) :
    (body.handle handler).Follows session phase ends := by
  refine follows_andThen.mpr (follows.mono fun phase outcome holds => ?_)
  cases outcome with
  | ok value => exact holds
  | error error => exact holds

theorem follows_request {op : Op} {ends : γ → Except ε (Reply op) → Prop}
    (allowed : session.allows phase op)
    (continues : ∀ reply, ends (session.after phase op reply) (.ok reply)) :
    (request op : Program Op Reply ε (Reply op)).Follows session phase ends :=
  ⟨allowed, continues⟩

end Rules

end Program

/-- Something shared, the callers that did not crash, and what was performed. -/
structure System (ι σ Op : Type) (Reply : Op → Type) (ε α : Type) where
  shared : σ
  callers : ι → Option (Program Op Reply ε α)
  history : List (ι × (op : Op) × Reply op)

namespace System

variable {ι σ Op : Type} {Reply : Op → Type} {ε α γ : Type} [DecidableEq ι]

def start (shared : σ) (programs : ι → Program Op Reply ε α) :
    System ι σ Op Reply ε α :=
  { shared := shared
    callers := fun caller => some (programs caller)
    history := [] }

/-- A caller performs its next operation, or crashes. -/
inductive Step (serves : σ → (op : Op) → Reply op → σ → Prop) :
    System ι σ Op Reply ε α → System ι σ Op Reply ε α → Prop where
  | act {system : System ι σ Op Reply ε α} {caller : ι} {op : Op}
      {next : Reply op → Program Op Reply ε α} {reply : Reply op} {reached : σ}
      (running : system.callers caller = some (.perform op next))
      (served : serves system.shared op reply reached) :
      Step serves system
        { shared := reached
          callers := Function.update system.callers caller (some (next reply))
          history := system.history ++ [(caller, ⟨op, reply⟩)] }
  | crash {system : System ι σ Op Reply ε α} (caller : ι) :
      Step serves system
        { system with
          callers := Function.update system.callers caller none }

def Reaches (serves : σ → (op : Op) → Reply op → σ → Prop) :
    System ι σ Op Reply ε α → System ι σ Op Reply ε α → Prop :=
  Relation.ReflTransGen (Step serves)

theorem reaches_run {serves : σ → (op : Op) → Reply op → σ → Prop}
    {serve : (op : Op) → σ → Reply op × σ}
    (served : ∀ op state, serves state op (serve op state).1 (serve op state).2)
    {system : System ι σ Op Reply ε α} {caller : ι}
    {program : Program Op Reply ε α}
    (running : system.callers caller = some program) :
    ∃ history, Reaches serves system
      { shared := (program.run serve system.shared).2
        callers := Function.update system.callers caller
          (some (.done (program.run serve system.shared).1))
        history := history } := by
  induction program generalizing system with
  | done outcome =>
      refine ⟨system.history, ?_⟩
      rw [Program.run_done, Function.update_eq_self_iff.mpr running.symm]
      exact .refl
  | perform op next induction =>
      let answered := serve op system.shared
      let moved : System ι σ Op Reply ε α :=
        { shared := answered.2
          callers := Function.update system.callers caller
            (some (next answered.1))
          history := system.history ++ [(caller, ⟨op, answered.1⟩)] }
      have first : Step serves system moved :=
        .act running (served op system.shared)
      have ready : moved.callers caller = some (next answered.1) :=
        Function.update_self _ _ _
      obtain ⟨history, rest⟩ := induction _ ready
      rw [Function.update_idem] at rest
      exact ⟨history, .head first rest⟩

def Following (session : ι → Session Op Reply γ)
    (ends : ι → γ → Except ε α → Prop) (phases : ι → γ)
    (system : System ι σ Op Reply ε α) : Prop :=
  ∀ caller program, system.callers caller = some program →
    program.Follows (session caller) (phases caller) (ends caller)

/-- What every allowed operation keeps holds in every interleaving, and each
caller still follows its session. -/
theorem follows {serves : σ → (op : Op) → Reply op → σ → Prop}
    {session : ι → Session Op Reply γ} {ends : ι → γ → Except ε α → Prop}
    {shared : σ} {programs : ι → Program Op Reply ε α} {first : ι → γ}
    (invariant : σ → (ι → γ) → List (ι × (op : Op) × Reply op) → Prop)
    (starts : ∀ caller, (programs caller).Follows (session caller)
      (first caller) (ends caller))
    (initially : invariant shared first [])
    (keeps : ∀ state phases history caller op reply reached,
      invariant state phases history →
      (session caller).allows (phases caller) op →
      serves state op reply reached →
      invariant reached
        (Function.update phases caller
          ((session caller).after (phases caller) op reply))
        (history ++ [(caller, ⟨op, reply⟩)]))
    {system : System ι σ Op Reply ε α}
    (reaches : Reaches serves (start shared programs) system) :
    ∃ phases, invariant system.shared phases system.history ∧
      Following session ends phases system := by
  induction reaches with
  | refl =>
      refine ⟨first, initially, fun caller program running => ?_⟩
      cases running
      exact starts caller
  | tail _ step induction =>
      obtain ⟨phases, holds, following⟩ := induction
      cases step with
      | act running served =>
          rename_i before caller op next reply reached
          obtain ⟨allowed, continues⟩ := following caller _ running
          refine ⟨_, keeps _ _ _ _ _ _ _ holds allowed served, ?_⟩
          intro other program found
          by_cases same : other = caller
          · subst same
            simp only [Function.update_self] at found ⊢
            cases found
            exact continues reply
          · simp only [Function.update_of_ne same] at found ⊢
            exact following other program found
      | crash caller =>
          refine ⟨phases, holds, fun other program found => ?_⟩
          by_cases same : other = caller
          · subst same
            simp at found
          · simp only [Function.update_of_ne same] at found
            exact following other program found

end System

end GptTrader
