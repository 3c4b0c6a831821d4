import GptTrader.TradeIdeas.ServiceRuns

/-!
# The autonomy log over runs

Every change a run makes to the autonomy log is a justified append, so the log
stays readable and only humans raise the level.  On contents that are no
contiguous history, resolution fails closed unless the first bad line raises
what the reader does not catch.
-/

namespace GptTrader

section Growth

variable {env : TradeEnv} {admits : TradeState → AuditEvent → Prop}
variable {before after : TradeState}

abbrev AutonomyGrows (env : TradeEnv) (before after : TradeState) : Prop :=
  Relation.ReflTransGen (AutonomyLog.Grows env.formats) before.autonomy
    after.autonomy

theorem Settle.autonomy_grows (settled : Settle env before after) :
    AutonomyGrows env before after := by
  cases settled with
  | seedBudget empty timestamp => exact .refl
  | growAutonomy grown => exact .single grown

theorem Settles.autonomy_grows {before after : ServiceState}
    (settles : Settles env before after) :
    AutonomyGrows env before.store after.store :=
  Relation.ReflTransGen.lift' TradeState.autonomy
    (fun _ _ settled => Settle.autonomy_grows settled) _ _ settles

theorem Step.autonomy_grows (step : Step env admits before after) :
    AutonomyGrows env before after := by
  cases step with
  | settle settled => exact settled.autonomy_grows
  | commit committed recorded admitted =>
      obtain ⟨_, _, checked, _, commit⟩ :=
        ServiceTx.commitApproval_eq_ok committed
      rw [commit.appended]
      exact commit.settles.autonomy_grows
  | _ => exact .refl

theorem Follows.autonomy_grows {before after : ServiceState}
    (follows : Follows env admits before after) :
    AutonomyGrows env before.store after.store :=
  Relation.ReflTransGen.lift' TradeState.autonomy
    (fun _ _ step => Step.autonomy_grows step) _ _ follows

theorem Call.run_autonomy_grows (env : TradeEnv) (calls : List Call)
    (state : ServiceState) :
    AutonomyGrows env state.store (Call.run env calls state).store := by
  have permitted : ∀ (calls : List Call) (state : ServiceState),
      Call.RunMeets env (Call.Permitted fun _ _ => True) calls state := by
    intro calls
    induction calls with
    | nil => exact fun _ => trivial
    | cons call rest induction =>
        intro state
        refine ⟨?_, induction _⟩
        rcases call with call | call | call
        · cases call <;> simp [Call.Permitted, ServiceTx.Permits]
        · cases call <;> simp [Call.Permitted, ServiceTx.Permits]
        · trivial
  exact (Call.run_follows
    { records := fun _ _ _ => trivial
      proposed := fun _ _ _ _ _ _ _ => trivial }
    calls (permitted calls state)).autonomy_grows

end Growth

namespace AutonomyLog

/-- What a run does to a log with a readable history: it stays contiguous, and every
appended entry lowers the level of the one before it unless a human made it. -/
structure OnlyHumansRaise (formats : TextFormats)
    (entries : List AutonomyStateEntry) (grown : List StoredLine)
    (later : List AutonomyStateEntry) : Prop where
  contiguous : Contiguous formats grown (entries ++ later)
  added : Disciplined (entries.getLast?.toList ++ later)
  whole : Disciplined (entries ++ later) ↔ Disciplined entries
  bounded : ∀ earlier entry rest,
    entries.getLast?.toList ++ later = earlier ++ entry :: rest →
      (∀ other ∈ rest, other.actorType ≠ .human) →
        ∃ resolution, resolveAutonomy formats grown = .ok resolution ∧
          resolution.source = .log ∧ resolution.mode.rank ≤ entry.mode.rank

variable {formats : TextFormats} {lines grown : List StoredLine}
variable {entries : List AutonomyStateEntry}

theorem onlyHumansRaise_of_grows
    (runs : Relation.ReflTransGen (Grows formats) lines grown)
    (contiguous : Contiguous formats lines entries) :
    ∃ later, OnlyHumansRaise formats entries grown later := by
  obtain ⟨later, read, added⟩ :=
    history_of_grows runs (history_iff_contiguous.mpr contiguous)
  refine ⟨later,
    { contiguous := history_iff_contiguous.mp read
      added := added
      whole := disciplined_append added
      bounded := ?_ }⟩
  intro earlier entry rest split machine
  have last := @getLast?_since entries later
  rw [split, List.getLast?_append_of_ne_nil _ (by simp)] at last
  obtain ⟨active, found⟩ : ∃ active, (entry :: rest).getLast? = some active :=
    ⟨_, List.getLast?_eq_some_getLast (by simp)⟩
  rw [found] at last
  have resolved := resolveAutonomy_of_history read
  rw [← last] at resolved
  exact ⟨_, resolved, rfl, (split ▸ added).bounded machine active found⟩

/-- Over every run from an accepted log only humans raise the level, and broken
contents resolve to `research_only` unless their first bad line lets an error escape. -/
theorem only_humans_raise_and_broken_logs_fail_closed (env : TradeEnv) :
    (∀ (calls : List Call) (state : ServiceState)
        (entries : List AutonomyStateEntry),
      Contiguous env.formats state.store.autonomy entries →
        ∃ later, OnlyHumansRaise env.formats entries
          (Call.run env calls state).store.autonomy later) ∧
      ∀ lines, (¬∃ entries, Contiguous env.formats lines entries) →
        (FailsClosed env.formats lines ↔ ¬Escapes env.formats lines) :=
  ⟨fun calls state _ contiguous =>
      onlyHumansRaise_of_grows (Call.run_autonomy_grows env calls state)
        contiguous,
    fun _ broken => failsClosed_iff broken⟩

section Examples

def raisingRun : List Call :=
  [.service (.setAutonomyMode .boundedAutonomy .human "operator" "raised" []),
    .service (.setAutonomyMode .researchOnly .human "operator" "lowered" [])]

def editedLog : List StoredLine :=
  [.json (.obj
    [("actor_id", .str "operator"), ("actor_type", .str "human"),
      ("evidence", .arr []), ("mode", .str "bounded_autonomy"),
      ("reason", .null), ("timestamp", .str "2026-01-01T00:00:00+00:00"),
      ("version", .int 1)])]

theorem editedLog_broken :
    ¬∃ entries, Contiguous paperEnv.formats editedLog entries := by
  rintro ⟨entries, contiguous⟩
  have refused : (history paperEnv.formats editedLog).isOk = false := by
    decide +kernel
  rw [history_iff_contiguous.mpr contiguous] at refused
  cases refused

/-- A person raises the mode of an empty log. -/
theorem raising_run_only_humans_raise :
    (∃ later, OnlyHumansRaise paperEnv.formats []
        (Call.run paperEnv raisingRun freshState).store.autonomy later) ∧
      (FailsClosed paperEnv.formats editedLog ↔
        ¬Escapes paperEnv.formats editedLog) :=
  have holds := only_humans_raise_and_broken_logs_fail_closed paperEnv
  ⟨holds.1 raisingRun freshState [] .nil, holds.2 editedLog editedLog_broken⟩

/-- Its reader raises an `AttributeError` that nothing catches. -/
theorem editedLog_not_failsClosed :
    ¬((¬∃ entries, Contiguous paperEnv.formats editedLog entries) →
      FailsClosed paperEnv.formats editedLog) := by
  intro closes
  refine (failsClosed_iff editedLog_broken).mp (closes editedLog_broken) ?_
  refine ⟨[], _, [], [], rfl, .nil, .reason ?_⟩
  exact ⟨1, .utc 0, .boundedAutonomy, .human, .str "operator", .null, [], rfl,
    rfl, rfl, rfl, rfl, rfl, rfl, le_rfl, nofun⟩

end Examples

end AutonomyLog

end GptTrader
