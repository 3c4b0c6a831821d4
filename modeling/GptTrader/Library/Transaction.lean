import Mathlib.Logic.Relation
import Mathlib.Tactic.Common

/-!
# Computations that may raise inside a transaction

A `Tx` reads and changes a state and returns a value or raises.  What a raising
computation already changed is still there in the state it leaves: whether
those changes survive is decided by the transaction around it.  `transaction`
restores the state on every exception; `admissionTransaction` keeps the changes
of a refused computation when they pass a test.

The rules below reason about a computation through the states it connects:
`Ensures` speaks about normal returns, `Keeps` about every outcome.
-/

namespace GptTrader

/-- A computation that leaves a state, also when it fails. -/
def Tx (ε σ α : Type) : Type :=
  σ → Except ε α × σ

namespace Tx

variable {ε σ α β : Type}

instance : Monad (Tx ε σ) where
  pure value := fun state => (.ok value, state)
  bind body next := fun state =>
    match body state with
    | (.ok value, reached) => next value reached
    | (.error error, reached) => (.error error, reached)

/-- Fail and change nothing. -/
def raise (error : ε) : Tx ε σ α :=
  fun state => (.error error, state)

def read (query : σ → Except ε α) : Tx ε σ α :=
  fun state => (query state, state)

def view (query : σ → α) : Tx ε σ α :=
  fun state => (.ok (query state), state)

def modify (change : σ → σ) : Tx ε σ Unit :=
  fun state => (.ok (), change state)

/-- A change that may fail. -/
def evolve (change : σ → Except ε σ) : Tx ε σ Unit :=
  fun state =>
    match change state with
    | .ok reached => (.ok (), reached)
    | .error error => (.error error, state)

def handle (body : Tx ε σ α) (handler : ε → Tx ε σ α) : Tx ε σ α :=
  fun state =>
    match body state with
    | (.ok value, reached) => (.ok value, reached)
    | (.error error, reached) => handler error reached

/-- Raise `error` unless the condition holds. -/
def require (condition : Prop) [Decidable condition] (error : ε) :
    Tx ε σ Unit :=
  fun state => if condition then (.ok (), state) else (.error error, state)

def when (condition : Prop) [Decidable condition] (body : Tx ε σ Unit) :
    Tx ε σ Unit :=
  if condition then body else pure ()

/-- The body over a list, up to the first error. -/
def forEach (items : List α) (body : α → Tx ε σ β) : Tx ε σ (List β) :=
  match items with
  | [] => pure []
  | item :: rest => do
      let first ← body item
      let others ← forEach rest body
      pure (first :: others)

/-- The body, with the state restored on an error. -/
def transaction (restore : σ → σ → σ) (body : Tx ε σ α) : Tx ε σ α :=
  fun state =>
    match body state with
    | (.ok value, reached) => (.ok value, reached)
    | (.error error, reached) => (.error error, restore state reached)

/-- A refused computation keeps what it changed when the change is safe; every
other exception restores the state. -/
def admissionTransaction (restore : σ → σ → σ) (refusal : ε → Bool)
    (safe : σ → σ → Bool) (body : Tx ε σ α) : Tx ε σ α :=
  fun state =>
    match body state with
    | (.ok value, reached) => (.ok value, reached)
    | (.error error, reached) =>
        if refusal error && safe state reached then (.error error, reached)
        else (.error error, restore state reached)

section Outcomes

variable {state reached : σ} {value : α} {error : ε}

@[simp] theorem pure_apply : (pure value : Tx ε σ α) state = (.ok value, state) :=
  rfl

@[simp] theorem raise_apply :
    (raise error : Tx ε σ α) state = (.error error, state) :=
  rfl

@[simp] theorem read_apply {query : σ → Except ε α} :
    read query state = (query state, state) :=
  rfl

@[simp] theorem view_apply {query : σ → α} :
    (view query : Tx ε σ α) state = (.ok (query state), state) :=
  rfl

@[simp] theorem modify_apply {change : σ → σ} :
    (modify change : Tx ε σ Unit) state = (.ok (), change state) :=
  rfl

theorem bind_apply {body : Tx ε σ α} {next : α → Tx ε σ β} :
    (body >>= next) state =
      match body state with
      | (.ok value, reached) => next value reached
      | (.error error, reached) => (.error error, reached) :=
  rfl

theorem map_apply {body : Tx ε σ α} {change : α → β} :
    (body >>= fun value => pure (change value)) state =
      ((body state).1.map change, (body state).2) := by
  rw [bind_apply]
  match body state with
  | (.ok value, reached) => rfl
  | (.error error, reached) => rfl

theorem pure_eq_ok {result : α} :
    (pure value : Tx ε σ α) state = (.ok result, reached) ↔
      value = result ∧ state = reached := by
  simp

theorem read_eq_ok {query : σ → Except ε α} {result : α} :
    read query state = (.ok result, reached) ↔
      query state = .ok result ∧ state = reached := by
  simp

theorem read_eq_error {query : σ → Except ε α} :
    read query state = (.error error, reached) ↔
      query state = .error error ∧ state = reached := by
  simp

theorem view_eq_ok {query : σ → α} {result : α} :
    (view query : Tx ε σ α) state = (.ok result, reached) ↔
      query state = result ∧ state = reached := by
  simp

theorem modify_eq_ok {change : σ → σ} {result : Unit} :
    (modify change : Tx ε σ Unit) state = (.ok result, reached) ↔
      change state = reached := by
  simp

theorem require_eq_ok {condition : Prop} [Decidable condition]
    {result : Unit} :
    (require condition error : Tx ε σ Unit) state = (.ok result, reached) ↔
      condition ∧ state = reached := by
  unfold require
  split <;> simp_all

theorem bind_eq_ok {body : Tx ε σ α} {next : α → Tx ε σ β} {result : β} :
    (body >>= next) state = (.ok result, reached) ↔
      ∃ value middle, body state = (.ok value, middle) ∧
        next value middle = (.ok result, reached) := by
  rw [bind_apply]
  constructor
  · intro returned
    match outcome : body state with
    | (.ok value, middle) =>
        rw [outcome] at returned
        exact ⟨value, middle, rfl, returned⟩
    | (.error error, middle) =>
        rw [outcome] at returned
        simp at returned
  · rintro ⟨value, middle, first, second⟩
    rw [first]
    exact second

theorem bind_eq_error {body : Tx ε σ α} {next : α → Tx ε σ β} :
    (body >>= next) state = (.error error, reached) ↔
      body state = (.error error, reached) ∨
        ∃ value middle, body state = (.ok value, middle) ∧
          next value middle = (.error error, reached) := by
  rw [bind_apply]
  constructor
  · intro raised
    match outcome : body state with
    | (.ok value, middle) =>
        rw [outcome] at raised
        exact .inr ⟨value, middle, rfl, raised⟩
    | (.error error, middle) =>
        rw [outcome] at raised
        exact .inl (by simpa using raised)
  · rintro (first | ⟨value, middle, first, second⟩)
    · rw [first]
    · rw [first]
      exact second

theorem transaction_eq_ok {restore : σ → σ → σ} {body : Tx ε σ α} :
    transaction restore body state = (.ok value, reached) ↔
      body state = (.ok value, reached) := by
  unfold transaction
  split <;> simp_all

theorem transaction_eq_error {restore : σ → σ → σ} {body : Tx ε σ α}
    (raised : transaction restore body state = (.error error, reached)) :
    ∃ middle, body state = (.error error, middle) ∧
      reached = restore state middle := by
  unfold transaction at raised
  split at raised
  · simp at raised
  · next thrown middle outcome =>
      simp only [Prod.mk.injEq, Except.error.injEq] at raised
      obtain ⟨rfl, rfl⟩ := raised
      exact ⟨middle, outcome, rfl⟩

end Outcomes

/-- The body relates every state to the one after it. -/
def Keeps (relation : σ → σ → Prop) (body : Tx ε σ α) : Prop :=
  ∀ state, relation state (body state).2

section Rules

variable {relation : σ → σ → Prop}

section Reflexive

variable [Std.Refl relation]

theorem keeps_pure (value : α) : Keeps relation (pure value : Tx ε σ α) :=
  fun state => Std.Refl.refl state

theorem keeps_raise (error : ε) : Keeps relation (raise error : Tx ε σ α) :=
  fun state => Std.Refl.refl state

theorem keeps_read (query : σ → Except ε α) : Keeps relation (read query) :=
  fun state => Std.Refl.refl state

theorem keeps_require (condition : Prop) [Decidable condition] (error : ε) :
    Keeps relation (require condition error : Tx ε σ Unit) := by
  intro state
  unfold require
  split <;> exact Std.Refl.refl state

end Reflexive

variable [IsTrans σ relation]

theorem keeps_bind {body : Tx ε σ α} {next : α → Tx ε σ β}
    (first : Keeps relation body)
    (second : ∀ value, Keeps relation (next value)) :
    Keeps relation (body >>= next) := by
  intro state
  have kept := first state
  rw [bind_apply]
  match outcome : body state with
  | (.ok value, middle) =>
      rw [outcome] at kept
      exact IsTrans.trans _ _ _ kept (second value middle)
  | (.error error, middle) =>
      rwa [outcome] at kept

theorem keeps_forEach [Std.Refl relation] {items : List α}
    {body : α → Tx ε σ β}
    (each : ∀ item ∈ items, Keeps relation (body item)) :
    Keeps relation (forEach items body) := by
  induction items with
  | nil => exact keeps_pure []
  | cons item rest induction =>
      refine keeps_bind (each item (by simp)) fun first => ?_
      refine keeps_bind (induction fun other member =>
        each other (by simp [member])) fun others => ?_
      exact keeps_pure (first :: others)

end Rules

def KeepsAt (relation : σ → σ → Prop) (body : Tx ε σ α) (state : σ) : Prop :=
  relation state (body state).2

section Pointwise

variable {relation : σ → σ → Prop} {state : σ}

theorem keepsAt_read_bind [Std.Refl relation] {query : σ → Except ε α}
    {next : α → Tx ε σ β}
    (rest : ∀ value, query state = .ok value →
      KeepsAt relation (next value) state) :
    KeepsAt relation (read query >>= next) state := by
  unfold KeepsAt
  rw [bind_apply, read_apply]
  match answer : query state with
  | .ok value => exact rest value answer
  | .error error => exact Std.Refl.refl state

theorem keepsAt_bind [IsTrans σ relation] {body : Tx ε σ α}
    {next : α → Tx ε σ β} (first : KeepsAt relation body state)
    (rest : ∀ value reached, body state = (.ok value, reached) →
      KeepsAt relation (next value) reached) :
    KeepsAt relation (body >>= next) state := by
  unfold KeepsAt at first ⊢
  rw [bind_apply]
  match outcome : body state with
  | (.ok value, middle) =>
      rw [outcome] at first
      exact IsTrans.trans _ _ _ first (rest value middle outcome)
  | (.error error, middle) =>
      rwa [outcome] at first

theorem keepsAt_forEach [Std.Refl relation] [IsTrans σ relation]
    (invariant : List α → σ → Prop) {items : List α} {body : α → Tx ε σ β}
    (kept : ∀ item rest state, invariant (item :: rest) state →
      KeepsAt relation (body item) state)
    (maintained : ∀ item rest state value reached,
      invariant (item :: rest) state → body item state = (.ok value, reached) →
        invariant rest reached)
    (holds : invariant items state) :
    KeepsAt relation (forEach items body) state := by
  induction items generalizing state with
  | nil => exact Std.Refl.refl state
  | cons item rest induction =>
      refine keepsAt_bind (kept item rest state holds) ?_
      intro first reached returned
      refine keepsAt_bind
        (induction (maintained item rest state first reached holds returned)) ?_
      intro others finished _
      exact Std.Refl.refl finished

theorem keepsAt_transaction {restore : σ → σ → σ} {body : Tx ε σ α}
    (restored : ∀ before after, relation before (restore before after))
    (kept : KeepsAt relation body state) :
    KeepsAt relation (transaction restore body) state := by
  unfold KeepsAt transaction at *
  match outcome : body state with
  | (.ok value, middle) => rwa [outcome] at kept
  | (.error error, middle) => exact restored state middle

theorem keepsAt_admissionTransaction {restore : σ → σ → σ} {refusal : ε → Bool}
    {safe : σ → σ → Bool} {body : Tx ε σ α}
    (restored : ∀ before after, relation before (restore before after))
    (kept : KeepsAt relation body state) :
    KeepsAt relation (admissionTransaction restore refusal safe body) state := by
  unfold KeepsAt at kept ⊢
  unfold admissionTransaction
  match outcome : body state with
  | (.ok value, middle) => rwa [outcome] at kept
  | (.error error, middle) =>
      rw [outcome] at kept
      change relation state
        (if refusal error && safe state middle then (Except.error error, middle)
          else (Except.error error, restore state middle)).2
      split
      · exact kept
      · exact restored state middle

end Pointwise

/-- From every state that satisfies `before`, a normal return establishes
`after` and an exception establishes `failed`. -/
def Triple (before : σ → Prop) (body : Tx ε σ α) (after : α → σ → Prop)
    (failed : ε → σ → Prop) : Prop :=
  ∀ state, before state →
    (∀ value reached, body state = (.ok value, reached) → after value reached) ∧
      ∀ error reached, body state = (.error error, reached) →
        failed error reached

section Triples

variable {before : σ → Prop} {after : α → σ → Prop} {failed : ε → σ → Prop}

theorem triple_pure {value : α}
    (established : ∀ state, before state → after value state) :
    Triple before (pure value : Tx ε σ α) after failed := by
  intro state holds
  constructor
  · intro result reached returned
    obtain ⟨rfl, rfl⟩ := pure_eq_ok.mp returned
    exact established state holds
  · intro error reached raised
    simp at raised

theorem triple_raise {error : ε}
    (established : ∀ state, before state → failed error state) :
    Triple before (raise error : Tx ε σ α) after failed := by
  intro state holds
  constructor
  · intro result reached returned
    simp at returned
  · intro other reached raised
    simp only [raise_apply, Prod.mk.injEq, Except.error.injEq] at raised
    obtain ⟨rfl, rfl⟩ := raised
    exact established state holds

theorem triple_read {query : σ → Except ε α}
    (returns : ∀ state value, before state → query state = .ok value →
      after value state)
    (raises : ∀ state error, before state → query state = .error error →
      failed error state) :
    Triple before (read query) after failed := by
  intro state holds
  constructor
  · intro value reached returned
    obtain ⟨found, rfl⟩ := read_eq_ok.mp returned
    exact returns state value holds found
  · intro error reached raised
    simp only [read_apply, Prod.mk.injEq] at raised
    obtain ⟨found, rfl⟩ := raised
    exact raises state error holds found

theorem triple_view {query : σ → α}
    (returns : ∀ state, before state → after (query state) state) :
    Triple before (view query : Tx ε σ α) after failed := by
  intro state holds
  constructor
  · intro value reached returned
    obtain ⟨rfl, rfl⟩ := view_eq_ok.mp returned
    exact returns state holds
  · intro error reached raised
    simp at raised

theorem triple_modify {change : σ → σ} {done : Unit → σ → Prop}
    (returns : ∀ state, before state → done () (change state)) :
    Triple before (modify change : Tx ε σ Unit) done failed := by
  intro state holds
  constructor
  · intro value reached returned
    rw [← modify_eq_ok.mp returned]
    exact returns state holds
  · intro error reached raised
    simp at raised

theorem triple_evolve {change : σ → Except ε σ} {done : Unit → σ → Prop}
    (returns : ∀ state reached, before state → change state = .ok reached →
      done () reached)
    (raises : ∀ state error, before state → change state = .error error →
      failed error state) :
    Triple before (evolve change) done failed := by
  intro state holds
  unfold evolve
  match outcome : change state with
  | .ok next =>
      constructor
      · intro value reached returned
        obtain rfl : next = reached := by simpa using returned
        exact returns state next holds outcome
      · intro error reached raised
        simp at raised
  | .error thrown =>
      constructor
      · intro value reached returned
        simp at returned
      · intro error reached raised
        obtain ⟨rfl, rfl⟩ : thrown = error ∧ state = reached := by
          simpa using raised
        exact raises state thrown holds outcome

theorem triple_require {condition : Prop} [Decidable condition] {error : ε}
    {done : Unit → σ → Prop}
    (returns : ∀ state, before state → condition → done () state)
    (raises : ∀ state, before state → ¬condition → failed error state) :
    Triple before (require condition error : Tx ε σ Unit) done failed := by
  intro state holds
  unfold require
  by_cases established : condition
  · rw [if_pos established]
    constructor
    · intro value reached returned
      obtain rfl : state = reached := by simpa using returned
      exact returns state holds established
    · intro thrown reached raised
      simp at raised
  · rw [if_neg established]
    constructor
    · intro value reached returned
      simp at returned
    · intro thrown reached raised
      obtain ⟨rfl, rfl⟩ : error = thrown ∧ state = reached := by
        simpa using raised
      exact raises state holds established

/-- The sequencing rule; `middle` holds between the parts. -/
theorem triple_bind (middle : α → σ → Prop) {body : Tx ε σ α}
    {next : α → Tx ε σ β} {finished : β → σ → Prop}
    (first : Triple before body middle failed)
    (second : ∀ value, Triple (middle value) (next value) finished failed) :
    Triple before (body >>= next) finished failed := by
  intro state holds
  constructor
  · intro result reached returned
    obtain ⟨value, between, started, ended⟩ := bind_eq_ok.mp returned
    have held := (first state holds).1 value between started
    exact (second value between held).1 result reached ended
  · intro error reached raised
    rcases bind_eq_error.mp raised with
      started | ⟨value, between, started, ended⟩
    · exact (first state holds).2 error reached started
    · have held := (first state holds).1 value between started
      exact (second value between held).2 error reached ended

/-- The exception rule; `caught` holds when the handler starts. -/
theorem triple_handle (caught : ε → σ → Prop) {body : Tx ε σ α}
    {handler : ε → Tx ε σ α}
    (guarded : Triple before body after caught)
    (handled : ∀ error, Triple (caught error) (handler error) after failed) :
    Triple before (handle body handler) after failed := by
  intro state holds
  unfold handle
  match outcome : body state with
  | (.ok value, middle) =>
      have held := (guarded state holds).1 value middle outcome
      constructor
      · intro result reached returned
        obtain ⟨rfl, rfl⟩ : value = result ∧ middle = reached := by
          simpa using returned
        exact held
      · intro error reached raised
        simp at raised
  | (.error error, middle) =>
      exact handled error middle ((guarded state holds).2 error middle outcome)

theorem triple_consequence {weaker : σ → Prop} {stronger : α → σ → Prop}
    {raised : ε → σ → Prop} {body : Tx ε σ α}
    (triple : Triple weaker body stronger raised)
    (enters : ∀ state, before state → weaker state)
    (returns : ∀ value state, stronger value state → after value state)
    (raises : ∀ error state, raised error state → failed error state) :
    Triple before body after failed := by
  intro state holds
  have outcome := triple state (enters state holds)
  exact
    ⟨fun value reached returned =>
        returns value reached (outcome.1 value reached returned),
      fun error reached thrown =>
        raises error reached (outcome.2 error reached thrown)⟩

end Triples

end Tx

end GptTrader
