import GptTrader.Experiment.AuthorProcesses

/-!
# Author runs that share a root

Any number of `run_author` processes (`features/experiment/author_runner.py`)
work on one root, each a transaction at a time, and may crash between them.  The
rows that a process knows are the first rows of the journal; the check inside the
transaction of a fresh bar makes them all of its rows.
-/

namespace GptTrader

/-- The bar an event commits, if any. -/
def JournalEvent.commits : JournalEvent → Option ℕ
  | .sent _ _ => none
  | .committed sequence => some sequence

/-- The bar an event sends, if any. -/
def JournalEvent.sends : JournalEvent → Option ℕ
  | .sent sequence _ => some sequence
  | .committed _ => none

/-- No request follows the commit of its bar. -/
def JournalEvent.Precedes (earlier later : JournalEvent) : Prop :=
  ∀ sequence request, later = .sent sequence request →
    earlier ≠ .committed sequence

/-- What holds of the root of the processes with some arguments. -/
structure StoreHolds (world : AuthorWorld) {ι : Type}
    (arguments : ι → AuthorArguments world.formats.toInputFormats)
    (store : AuthorStore) : Prop where
  bound : (store.metadata = [] ∧ store.bars = []) ∨
    ∃ caller, store.metadata = [(arguments caller).binding] ∧
      Readable world (arguments caller).binding store.bars
  numbered : store.bars.map (·.sequence) = List.range store.bars.length
  committed : store.log.filterMap JournalEvent.commits =
    List.range store.bars.length
  ordered : store.log.Pairwise JournalEvent.Precedes
  asked : ∀ sequence request, .sent sequence request ∈ store.log →
    ∃ caller, (arguments caller).Asks sequence request

/-- What a process relies on in each phase. -/
def PhaseHolds {world : AuthorWorld}
    (arguments : AuthorArguments world.formats.toInputFormats)
    (store : AuthorStore) : JournalPhase → Prop
  | .outside => True
  | .bound => store.metadata = [arguments.binding]
  | .knows rows =>
      store.metadata = [arguments.binding] ∧ rows <+: store.bars

/-- A root that keeps its binding, and its rows as the first ones. -/
structure AuthorStore.Grows (store later : AuthorStore) : Prop where
  metadata : store.metadata ≠ [] → later.metadata = store.metadata
  bars : store.bars <+: later.bars

section Stores

variable {world : AuthorWorld} {ι : Type}
variable {arguments : ι → AuthorArguments world.formats.toInputFormats}
variable {store later : AuthorStore}

theorem AuthorStore.Grows.refl (store : AuthorStore) : store.Grows store :=
  { metadata := fun _ => rfl
    bars := List.prefix_refl _ }

theorem PhaseHolds.grow {own : AuthorArguments world.formats.toInputFormats}
    {phase : JournalPhase} (holds : PhaseHolds own store phase)
    (grows : store.Grows later) : PhaseHolds own later phase := by
  cases phase with
  | outside => trivial
  | bound =>
      have metadata : store.metadata = [own.binding] := holds
      exact (grows.metadata (by rw [metadata]; exact List.cons_ne_nil _ _)).trans
        metadata
  | knows rows =>
      obtain ⟨metadata, known⟩ := holds
      exact ⟨(grows.metadata (by rw [metadata]; exact List.cons_ne_nil _ _)).trans
        metadata, known.trans grows.bars⟩

theorem storeHolds_fresh (occupied : Bool) :
    StoreHolds world arguments (.fresh occupied) :=
  { bound := .inl ⟨rfl, rfl⟩
    numbered := rfl
    committed := rfl
    ordered := .nil
    asked := by
      intro sequence request sent
      cases sent }

namespace StoreHolds

theorem hasBar_eq_false (holds : StoreHolds world arguments store)
    {sequence : ℕ} :
    store.hasBar sequence = false ↔ store.bars.length ≤ sequence := by
  unfold AuthorStore.hasBar
  rw [List.any_eq_false]
  constructor
  · intro absent
    by_contra before
    have listed : sequence ∈ store.bars.map (·.sequence) := by
      rw [holds.numbered]
      exact List.mem_range.mpr (Nat.lt_of_not_le before)
    obtain ⟨row, member, same⟩ := List.mem_map.mp listed
    exact absent row member (decide_eq_true same)
  · intro past row member found
    have listed := List.mem_map_of_mem (f := (·.sequence)) member
    rw [holds.numbered, of_decide_eq_true found] at listed
    exact absurd (List.mem_range.mp listed) (Nat.not_lt_of_le past)

section

variable (holds : StoreHolds world arguments store)

include holds

theorem ordered_eq :
    store.ordered = store.bars := by
  have sorted : (store.bars.map (·.sequence)).Pairwise (· ≤ ·) := by
    rw [holds.numbered]
    exact List.pairwise_le_range
  rw [List.pairwise_map] at sorted
  exact sorted.insertionSort_eq

theorem rows_eq {rows : List AuthorRow} (known : rows <+: store.bars)
    (absent : store.hasBar rows.length = false) : rows = store.bars :=
  known.eq_of_length_le (holds.hasBar_eq_false.mp absent)

theorem send {sequence : ℕ} {request : AuthorRequest}
    (absent : store.hasBar sequence = false)
    (asks : ∃ caller, (arguments caller).Asks sequence request) :
    StoreHolds world arguments (store.send sequence request) := by
  refine
    { bound := holds.bound
      numbered := holds.numbered
      committed := ?_
      ordered := ?_
      asked := ?_ }
  · change (store.log ++ [_]).filterMap _ = _
    rw [List.filterMap_append, holds.committed]
    exact List.append_nil _
  · change (store.log ++ [_]).Pairwise _
    rw [List.pairwise_append]
    refine ⟨holds.ordered, List.pairwise_singleton _ _, ?_⟩
    rintro _ member _ (_ | ⟨_, ⟨⟩⟩) other _ ⟨⟩ rfl
    have listed := List.mem_filterMap.mpr
      ⟨_, member, (rfl : JournalEvent.commits (.committed sequence) = _)⟩
    rw [holds.committed] at listed
    exact absurd (List.mem_range.mp listed)
      (Nat.not_lt_of_le (holds.hasBar_eq_false.mp absent))
  · intro other request' sent
    rcases List.mem_append.mp sent with before | last
    · exact holds.asked other request' before
    · cases List.mem_singleton.mp last
      exact asks

theorem append {row : AuthorRow} (numbered : row.sequence = store.bars.length)
    (readable : ∃ caller, store.metadata = [(arguments caller).binding] ∧
      Readable world (arguments caller).binding (store.bars ++ [row])) :
    StoreHolds world arguments
      { store with
        bars := store.bars ++ [row]
        log := store.log ++ [.committed row.sequence] } := by
  have counted : (store.bars ++ [row]).length = store.bars.length + 1 :=
    List.length_append
  refine
    { bound := .inr readable
      numbered := ?_
      committed := ?_
      ordered := ?_
      asked := ?_ }
  · dsimp only
    rw [List.map_append, holds.numbered, counted, List.range_succ, ← numbered]
    rfl
  · dsimp only
    rw [List.filterMap_append, holds.committed, counted, List.range_succ,
      ← numbered]
    rfl
  · dsimp only
    rw [List.pairwise_append]
    refine ⟨holds.ordered, List.pairwise_singleton _ _, ?_⟩
    rintro _ _ _ (_ | ⟨_, ⟨⟩⟩) _ _ ⟨⟩
  · intro sequence request sent
    rcases List.mem_append.mp sent with before | last
    · exact holds.asked sequence request before
    · cases List.mem_singleton.mp last

end

end StoreHolds

/-- What an operation leaves: the root holds and grows, and the process knows
what it is said to know. -/
structure Leaves (world : AuthorWorld) {ι : Type}
    (arguments : ι → AuthorArguments world.formats.toInputFormats)
    (store : AuthorStore) (caller : ι) (phase : JournalPhase)
    (reached : AuthorStore) : Prop where
  holds : StoreHolds world arguments reached
  grows : store.Grows reached
  phase : PhaseHolds (arguments caller) reached phase

theorem leaves_openJournal (holds : StoreHolds world arguments store)
    {caller : ι} {phase : JournalPhase}
    (known : PhaseHolds (arguments caller) store phase) (new : Bool)
    (readable : Readable world (arguments caller).binding []) :
    Leaves world arguments store caller
      (phase.afterOpen (store.openJournal new (arguments caller).binding).1)
      (store.openJournal new (arguments caller).binding).2 := by
  have stays : Leaves world arguments store caller phase store :=
    { holds := holds
      grows := .refl store
      phase := known }
  unfold AuthorStore.openJournal
  split
  · exact stays
  split
  · next empty =>
      split
      · have bars : store.bars = [] := by
          rcases holds.bound with ⟨_, none⟩ | ⟨_, metadata, _⟩
          · exact none
          · rw [empty] at metadata
            cases metadata
        refine
          { holds :=
              { bound := .inr ⟨caller, rfl, ?_⟩
                numbered := holds.numbered
                committed := holds.committed
                ordered := holds.ordered
                asked := holds.asked }
            grows :=
              { metadata := fun some => absurd empty some
                bars := List.prefix_refl _ }
            phase := rfl }
        dsimp only
        rwa [bars]
      · exact stays
  · next saved found =>
      split
      · next same =>
          exact
            { holds :=
                { bound := holds.bound
                  numbered := holds.numbered
                  committed := holds.committed
                  ordered := holds.ordered
                  asked := holds.asked }
              grows :=
                { metadata := fun _ => rfl
                  bars := List.prefix_refl _ }
              phase := found.trans (congrArg (fun binding => [binding]) same) }
      · exact stays
  · exact stays

theorem afterBar_refusal (phase : JournalPhase) (plan : BarPlan)
    (error : AuthorError) :
    phase.afterBar plan (plan.refusal error) = phase := by
  cases phase with
  | outside => cases plan <;> rfl
  | bound => cases plan <;> rfl
  | knows rows => cases plan <;> rfl

theorem leaves_commit (holds : StoreHolds world arguments store) {caller : ι}
    {rows : List AuthorRow} {outcome : Except AuthorError BarResult}
    (known : PhaseHolds (arguments caller) store (.knows rows))
    (commits : ∀ result, outcome = .ok result → result.row = none ∨
      rows = store.bars ∧ ∃ row, result.row = some row ∧
        row.sequence = rows.length ∧
        Readable world (arguments caller).binding (rows ++ [row])) :
    (∀ error, outcome = .error error →
      Leaves world arguments store caller (.knows rows) (store.commit outcome)) ∧
    ∀ result, outcome = .ok result →
      Leaves world arguments store caller
        (.knows (rows ++ result.row.toList)) (store.commit outcome) := by
  constructor
  · rintro error rfl
    exact
      { holds := holds
        grows := .refl store
        phase := known }
  · rintro ⟨row, progress⟩ rfl
    rcases commits _ rfl with none | ⟨rfl, row, rfl, numbered, readable⟩
    · dsimp only at none
      subst none
      rw [Option.toList_none, List.append_nil]
      exact
        { holds := holds
          grows := .refl store
          phase := known }
    · exact
        { holds := holds.append numbered ⟨caller, known.1, readable⟩
          grows :=
            { metadata := fun _ => rfl
              bars := List.prefix_append _ _ }
          phase := ⟨known.1, List.prefix_refl _⟩ }

theorem leaves_after_send {caller : ι} {phase : JournalPhase} {sequence : ℕ}
    {request : AuthorRequest} {reached : AuthorStore}
    (leaves : Leaves world arguments (store.send sequence request) caller phase
      reached) : Leaves world arguments store caller phase reached :=
  { holds := leaves.holds
    grows :=
      { metadata := leaves.grows.metadata
        bars := leaves.grows.bars }
    phase := leaves.phase }

/-- What an allowed operation leaves. -/
theorem leaves_of_serves (holds : StoreHolds world arguments store)
    {caller : ι} {phase : JournalPhase} {op : JournalOp} {reply : op.Reply}
    {reached : AuthorStore}
    (known : PhaseHolds (arguments caller) store phase)
    (allowed : (journalSession (arguments caller)).allows phase op)
    (serves : JournalServes store op reply reached) :
    Leaves world arguments store caller (phase.after op reply) reached := by
  have stays : Leaves world arguments store caller phase store :=
    { holds := holds
      grows := .refl store
      phase := known }
  cases serves with
  | databaseExists => exact stays
  | directoryHasEntries => exact stays
  | connect =>
      exact
        { holds :=
            { bound := holds.bound
              numbered := holds.numbered
              committed := holds.committed
              ordered := holds.ordered
              asked := holds.asked }
          grows :=
            { metadata := fun _ => rfl
              bars := List.prefix_refl _ }
          phase := known.grow
            { metadata := fun _ => rfl
              bars := List.prefix_refl _ } }
  | openJournal =>
      obtain ⟨rfl, readable⟩ := allowed
      exact leaves_openJournal holds known _ readable
  | openFails => exact stays
  | countBars => exact stays
  | readBars =>
      rw [holds.ordered_eq]
      refine
        { holds := holds
          grows := .refl store
          phase := ⟨?_, List.prefix_refl _⟩ }
      cases phase with
      | outside => exact absurd rfl allowed
      | bound => exact known
      | knows rows => exact known.1
  | concurrent present =>
      change Leaves _ _ _ _ (phase.afterBar _ _) _
      rw [afterBar_refusal]
      exact stays
  | fails =>
      change Leaves _ _ _ _ (phase.afterBar _ _) _
      rw [afterBar_refusal]
      exact stays
  | ended absent =>
      rename_i sequence fresh outcome
      obtain ⟨rows, rfl, permitted⟩ := allowed
      change Leaves _ _ _ _ (JournalPhase.afterBar _ _ _) _
      have commits : ∀ result, outcome = .ok result → result.row = none ∨
          rows = store.bars ∧ ∃ row, result.row = some row ∧
            row.sequence = rows.length ∧
            Readable world (arguments caller).binding (rows ++ [row]) := by
        intro result ended
        cases permitted with
        | stored stays => exact .inl (stays result ended)
        | fresh appends asks =>
            exact .inr ⟨holds.rows_eq known.2 (absent rfl),
              appends (.ok ()) result ended⟩
      obtain ⟨failed, done⟩ := leaves_commit holds known commits
      rcases outcome with error | result
      · exact failed error rfl
      · exact done result rfl
  | asked absent =>
      rename_i sequence fresh request outcome answer
      obtain ⟨rows, rfl, permitted⟩ := allowed
      cases permitted with
      | fresh appends asks =>
          change Leaves _ _ _ _ (JournalPhase.afterBar _ _ _) _
          have same := holds.rows_eq known.2 (absent rfl)
          have sent := holds.send (absent rfl) ⟨caller, asks request answer rfl⟩
          have commits : ∀ result, answer outcome = .ok result →
              result.row = none ∨
              rows = (store.send rows.length request).bars ∧
              ∃ row, result.row = some row ∧ row.sequence = rows.length ∧
                Readable world (arguments caller).binding (rows ++ [row]) :=
            fun result ended => .inr ⟨same, appends (.ok outcome) result ended⟩
          obtain ⟨failed, done⟩ := leaves_commit sent known commits
          apply leaves_after_send
          unfold JournalPhase.afterBar BarPlan.result
          dsimp only
          rcases ended : answer outcome with error | result
          · rw [ended] at failed
            exact failed error rfl
          · rw [ended] at done
            exact done result rfl
  | failsAfterSending absent =>
      obtain ⟨rows, rfl, permitted⟩ := allowed
      cases permitted with
      | fresh appends asks =>
          apply leaves_after_send
          exact
            { holds := holds.send (absent rfl) ⟨caller, asks _ _ rfl⟩
              grows := .refl _
              phase := known }
  | snapshot => exact stays

end Stores

/-- The event that `_journal` rebuilds after some rows, from the binding and the
recorded turns. -/
def rebuiltEvent (world : AuthorWorld) (binding : AuthorBinding)
    (earlier : List AuthorRow) (recorded : Option AuthorTurn) :
    Except AuthorError AuthorEvent :=
  match binding.inputs.mapM (parseInput world.formats.toInputFormats) with
  | .error error => .error (.valueError error.message)
  | .ok [] => .error (.raised "IndexError")
  | .ok (first :: rest) =>
      match replayJournal world first binding.settings binding (first :: rest)
          earlier with
      | .error error => .error error
      | .ok progress =>
          (rebuildBar world first binding.settings progress recorded).map
            Prod.fst

/-- The journal of a root is a gap-free chain of bars, each committed once and as
it is rebuilt, and no committed turn was sent again. -/
structure AuthorJournalHolds (world : AuthorWorld) (store : AuthorStore) :
    Prop where
  numbered : store.bars.map (·.sequence) = List.range store.bars.length
  bound : store.bars ≠ [] → store.metadata.length = 1
  chained : ∀ binding ∈ store.metadata,
    Chain.Linked (·.event.previous) (·.checksum) (world.bindingChecksum binding)
      store.bars
  checksums : ∀ row ∈ store.bars, row.checksum = world.eventChecksum row.event ∧
    row.event.sequence = row.sequence
  inspected : store.metadata ≠ [] → ∃ progress,
    inspectAuthor world store.metadata store.ordered = .ok progress
  rebuilt : ∀ binding ∈ store.metadata, ∀ earlier row later,
    store.bars = earlier ++ row :: later →
    rebuiltEvent world binding earlier row.event.turn = .ok row.event
  once : store.log.filterMap JournalEvent.commits =
    List.range store.bars.length
  unsent : store.log.Pairwise JournalEvent.Precedes

section Rebuilt

variable {world : AuthorWorld} {binding : AuthorBinding}
variable {rows : List AuthorRow}

theorem readable_iff :
    Readable world binding rows → ∃ first rest started progress,
      binding.inputs.mapM (parseInput world.formats.toInputFormats) =
        .ok (first :: rest) ∧
      startJournal world binding (first :: rest) = .ok started ∧
      Verified world first binding.settings started rows progress := by
  rintro ⟨progress, inspected⟩
  unfold inspectAuthor at inspected
  dsimp only at inspected
  obtain ⟨_, inspected⟩ := Outcome.guard_eq_ok.mp inspected
  split at inspected
  · cases inspected
  · cases inspected
  · next first rest inputs =>
      obtain ⟨_, replayed⟩ := Outcome.guard_eq_ok.mp inspected
      obtain ⟨started, starts, replayed⟩ := Outcome.bind_eq_ok.mp replayed
      obtain ⟨_, chain, replayed⟩ := Outcome.bind_eq_ok.mp replayed
      exact ⟨first, rest, started, progress, inputs, starts,
        { chain := chain
          replayed := replayed }⟩

theorem linked_of_validateChain {start : String} {index : ℕ}
    (chain : validateChain world start index rows = .ok ()) :
    Chain.Linked (·.event.previous) (·.checksum) start rows ∧
      ∀ row ∈ rows, row.checksum = world.eventChecksum row.event ∧
        row.event.sequence = row.sequence := by
  induction rows generalizing start index with
  | nil => exact ⟨trivial, by simp⟩
  | cons row rest induction =>
      obtain ⟨⟨placed, numbered, previous, checksum⟩, later⟩ :=
        validateChain_cons.mp chain
      obtain ⟨linked, others⟩ := induction later
      refine ⟨⟨previous, linked⟩, ?_⟩
      rw [List.forall_mem_cons]
      exact ⟨⟨checksum.symm, numbered.trans placed.symm⟩, others⟩

theorem validateChain_of_append {start : String} {index : ℕ}
    {later : List AuthorRow}
    (chain : validateChain world start index (rows ++ later) = .ok ()) :
    validateChain world start index rows = .ok () := by
  induction rows generalizing start index with
  | nil => rfl
  | cons row rest induction =>
      obtain ⟨holds, others⟩ := validateChain_cons.mp chain
      exact validateChain_cons.mpr ⟨holds, induction others⟩

theorem rebuiltEvent_of_readable {earlier later : List AuthorRow}
    {row : AuthorRow}
    (readable : Readable world binding (earlier ++ row :: later)) :
    rebuiltEvent world binding earlier row.event.turn = .ok row.event := by
  obtain ⟨first, rest, started, progress, inputs, starts, chain, replayed⟩ :=
    readable_iff readable
  obtain ⟨before, read, further⟩ := Replay.replay_append_eq_ok.mp replayed
  rw [Replay.replay_cons] at further
  obtain ⟨after, verified, _⟩ := Outcome.bind_eq_ok.mp further
  have passed : replayJournal world first binding.settings binding
      (first :: rest) earlier = .ok before := by
    unfold replayJournal
    rw [starts]
    change (validateChain world started.previous 0 earlier >>= fun _ => _) = _
    rw [validateChain_of_append chain]
    exact read
  unfold rebuiltEvent
  rw [inputs]
  dsimp only
  rw [passed]
  dsimp only
  rw [(verifyRow_eq_ok.mp verified).1]
  rfl

end Rebuilt

theorem StoreHolds.journal {world : AuthorWorld} {ι : Type}
    {arguments : ι → AuthorArguments world.formats.toInputFormats}
    {store : AuthorStore} (holds : StoreHolds world arguments store) :
    AuthorJournalHolds world store := by
  have read := holds.ordered_eq
  rcases holds.bound with ⟨unbound, empty⟩ | ⟨caller, bound, readable⟩
  · exact
      { numbered := holds.numbered
        bound := fun some => absurd empty some
        chained := by simp [unbound]
        checksums := by simp [empty]
        inspected := fun some => absurd unbound some
        rebuilt := by simp [unbound]
        once := holds.committed
        unsent := holds.ordered }
  · obtain ⟨first, rest, started, progress, _, starts, verified⟩ :=
      readable_iff readable
    have start : started.previous =
        world.bindingChecksum (arguments caller).binding := by
      obtain ⟨coins, _, rfl⟩ := Outcome.map_eq_ok.mp starts
      rfl
    obtain ⟨linked, checksums⟩ := linked_of_validateChain verified.chain
    exact
      { numbered := holds.numbered
        bound := fun _ => by rw [bound]; rfl
        chained := by
          intro binding member
          rw [bound, List.mem_singleton] at member
          rw [member, ← start]
          exact linked
        checksums := checksums
        inspected := fun _ => by
          rw [bound, read]
          exact readable
        rebuilt := by
          intro binding member earlier row later split
          rw [bound, List.mem_singleton] at member
          rw [split] at readable
          rw [member]
          exact rebuiltEvent_of_readable readable
        once := holds.committed
        unsent := holds.ordered }

/-- A state that processes reach on a fresh root, in some order of their
transactions and with some crashes between them. -/
structure ReachedRoot (world : AuthorWorld) {ι : Type} [DecidableEq ι]
    (arguments : ι → AuthorArguments world.formats.toInputFormats)
    (occupied : Bool) where
  system : System ι AuthorStore JournalOp JournalOp.Reply AuthorError
    JournalProgress
  reached : System.Reaches JournalServes
    (System.start (.fresh occupied) fun caller =>
      runAuthor world (arguments caller)) system

section Reached

variable {world : AuthorWorld} {ι : Type} [DecidableEq ι]
variable {arguments : ι → AuthorArguments world.formats.toInputFormats}

theorem keeps_invariant (store : AuthorStore) (phases : ι → JournalPhase)
    (_ : List (ι × (op : JournalOp) × op.Reply)) (caller : ι)
    (op : JournalOp) (reply : op.Reply) (reached : AuthorStore)
    (holds : StoreHolds world arguments store ∧
      ∀ caller, PhaseHolds (arguments caller) store (phases caller))
    (allowed : (journalSession (arguments caller)).allows (phases caller) op)
    (serves : JournalServes store op reply reached) :
    StoreHolds world arguments reached ∧
      ∀ other, PhaseHolds (arguments other) reached
        (Function.update phases caller ((phases caller).after op reply)
          other) := by
  have leaves := leaves_of_serves holds.1 (holds.2 caller) allowed serves
  refine ⟨leaves.holds, fun other => ?_⟩
  by_cases same : other = caller
  · subst same
    rw [Function.update_self]
    exact leaves.phase
  · rw [Function.update_of_ne same]
    exact (holds.2 other).grow leaves.grows

namespace ReachedRoot

variable {occupied : Bool}

theorem holds (root : ReachedRoot world arguments occupied) :
    StoreHolds world arguments root.system.shared := by
  have starts : ∀ caller, (runAuthor world (arguments caller)).Follows
      (journalSession (arguments caller)) JournalPhase.outside
      fun _ _ => True := fun _ => follows_runAuthor
  obtain ⟨phases, ⟨holds, _⟩, _⟩ := System.follows
    (fun store phases _ => StoreHolds world arguments store ∧
      ∀ caller, PhaseHolds (arguments caller) store (phases caller))
    starts ⟨storeHolds_fresh occupied, fun _ => trivial⟩ keeps_invariant
    root.reached
  exact holds

end ReachedRoot

end Reached

/-- The journal holds in every state that processes reach on a fresh root. -/
theorem author_journal_holds (world : AuthorWorld) {ι : Type} [DecidableEq ι]
    (arguments : ι → AuthorArguments world.formats.toInputFormats)
    (occupied : Bool) (root : ReachedRoot world arguments occupied) :
    AuthorJournalHolds world root.system.shared :=
  root.holds.journal

/-! ## Two processes on one root -/

section Example

/-- The replies of a root on which nothing fails, where every turn that is sent runs
into a timeout. -/
def calmServe : (op : JournalOp) → AuthorStore → op.Reply × AuthorStore
  | .databaseExists, store => (store.created, store)
  | .directoryHasEntries, store => (store.occupied || store.created, store)
  | .connect, store => ((), { store with created := true })
  | .openJournal new binding, store => store.openJournal new binding
  | .countBars, store => (store.bars.length, store)
  | .readBars, store => (store.ordered, store)
  | .bar sequence fresh plan, store =>
      if fresh && store.hasBar sequence then
        (plan.refusal (.integrity "Author journal advanced concurrently"), store)
      else
        match plan with
        | .ends outcome => (.ok (), store.commit outcome)
        | .asks request answer =>
            (.ok (.failed "timeout"),
              (store.send sequence request).commit (answer (.failed "timeout")))
  | .snapshot, store => ((store.metadata, store.ordered), store)

theorem calmServe_serves (op : JournalOp) (store : AuthorStore) :
    JournalServes store op (calmServe op store).1 (calmServe op store).2 := by
  cases op with
  | databaseExists => exact .databaseExists
  | directoryHasEntries => exact .directoryHasEntries
  | connect => exact .connect
  | openJournal new binding => exact .openJournal
  | countBars => exact .countBars
  | readBars => exact .readBars
  | snapshot => exact .snapshot
  | bar sequence fresh plan =>
      unfold calmServe
      dsimp only
      split
      · next stale =>
          obtain ⟨rfl, present⟩ := (Bool.and_eq_true _ _).mp stale
          exact .concurrent present
      · next absent =>
          have free : fresh = true → store.hasBar sequence = false := by
            rintro rfl
            simpa using absent
          cases plan with
          | ends outcome => exact .ended free
          | asks request answer => exact .asked free

def authorTexts (decimals : Spelling SpelledDecimal) : AuthorFormats :=
  { spelledTexts decimals with
    showFloat := fun _ => ""
    loads := fun _ => .error "Expecting value: line 1 column 1 (char 0)"
    showUsd := fun _ => "" }

def flatState (version : ℤ) : Json :=
  .obj [
    ("cash", .str "1000"),
    ("quantity", .str "0"),
    ("cost_basis", .str "0"),
    ("realized_net", .str "0"),
    ("fees", .str "0"),
    ("peak_equity", .str "1000"),
    ("halted", .bool false),
    ("position", .null),
    ("pending", .null),
    ("rulebook", .obj [
      ("version", .int version),
      ("exit_pending", .bool false)])]

/-- An engine that does not trade. -/
def flatEngine (formats : InputFormats) : AuthorEngine :=
  { initialState := fun _ => flatState 0
    advance := fun source sequence _ => .ok (.obj [
      ("sequence", .int sequence),
      ("bar", ((source.candles.map (·.row))[sequence]?).getD .null),
      ("decision", .str "ai-rulebook: collecting history"),
      ("proposal", .null),
      ("actions", .arr []),
      ("fills", .arr []),
      ("state", flatState 1),
      ("rulebook_activation", (((source.schedule.map
        (VersionText.toDict formats))[0]?).getD .null))]) }

def flatWorld (decimals : Spelling SpelledDecimal) : AuthorWorld :=
  { formats := authorTexts decimals
    arithmetic := .defaultContext
    installation :=
      { implementationDigest := ""
        checksum := fun _ => "" }
    engine := flatEngine (spelledTexts decimals) }

def shortManager : ManagerSettings :=
  { rulebook := "Trade rarely."
    cadenceBars := 4
    historyBars := 48
    model := "claude-fable-5-1"
    effort := "high"
    maxTokens := 8000
    written := by decide
    named := dollarTransport.settings.named
    ranked := dollarTransport.settings.ranked
    cadence := dollarTransport.settings.cadence
    history := dollarTransport.settings.history
    output := dollarTransport.settings.output }

def defaultAuthor : AuthorSettings :=
  { cadenceBars := 24
    historyDays := 30
    cadence := by decide
    history := by decide }

def pairSpelling (symbol : String) (traded : isSymbol (.str symbol) = true) :
    InputSpelling :=
  { label := "recorded"
    symbol := symbol
    feeZeros := 0
    early := true
    labelled := recorded_isLabel
    traded := traded }

def pairSources : List (LoadedInput (spelledTexts shortSpelling)) :=
  [{ input := (pairSpelling "ETH-USD" ether_isSymbol).input _
     loaded := ⟨_, InputSpelling.parseInput_input _⟩ },
    { input := (pairSpelling "BTC-USD" bitcoin_isSymbol).input _
      loaded := ⟨_, InputSpelling.parseInput_input _⟩ }]

/-- One process takes one bar, and another all that are left. -/
def pairArguments (resumes : Bool) :
    AuthorArguments (flatWorld shortSpelling).formats.toInputFormats :=
  { sources := pairSources
    manager := shortManager
    transport := some
      { model := "claude-fable-5-1"
        ledger := none }
    settings := defaultAuthor
    maxBars := if resumes then none else some 1 }

def storeAfter (resumes : Bool) (store : AuthorStore) : AuthorStore :=
  ((runAuthor (flatWorld shortSpelling) (pairArguments resumes)).run calmServe
    store).2

def handedOver : AuthorStore :=
  storeAfter false (.fresh false)

theorem handedOver_commits :
    handedOver.log.filterMap JournalEvent.commits = [0] ∧
      (storeAfter true handedOver).log.filterMap JournalEvent.commits = [0, 1] := by
  decide +kernel

/-- A root that the first process leaves to the second. -/
structure HandOver where
  first : ReachedRoot (flatWorld shortSpelling) pairArguments false
  last : ReachedRoot (flatWorld shortSpelling) pairArguments false
  left : first.system.shared = handedOver
  waits : first.system.callers true =
    some (runAuthor (flatWorld shortSpelling) (pairArguments true))
  resumed : last.system.shared = storeAfter true handedOver

theorem exists_handOver : Nonempty HandOver := by
  let program := fun resumes : Bool =>
    runAuthor (flatWorld shortSpelling) (pairArguments resumes)
  obtain ⟨history, first⟩ := System.reaches_run calmServe_serves
    (show (System.start (AuthorStore.fresh false) program).callers false =
      some (program false) from rfl)
  let between := Function.update (fun resumes => some (program resumes)) false
    (some (.done ((program false).run calmServe (.fresh false)).1))
  obtain ⟨_, last⟩ := System.reaches_run calmServe_serves
    (show (System.mk handedOver between history).callers true =
      some (program true) from rfl)
  exact ⟨
    { first := ⟨_, first⟩
      last := ⟨_, first.trans last⟩
      left := rfl
      waits := rfl
      resumed := rfl }⟩

/-- One process commits a bar and another one the next, on the journal it found. -/
theorem two_processes_commit : ∃ roots : HandOver,
    roots.first.system.shared.log.filterMap JournalEvent.commits = [0] ∧
      roots.last.system.shared.log.filterMap JournalEvent.commits = [0, 1] ∧
      AuthorJournalHolds (flatWorld shortSpelling) roots.last.system.shared := by
  obtain ⟨roots⟩ := exists_handOver
  obtain ⟨first, both⟩ := handedOver_commits
  refine ⟨roots, ?_, ?_, author_journal_holds (flatWorld shortSpelling) pairArguments
    false roots.last⟩
  · rw [roots.left]
    exact first
  · rw [roots.resumed]
    exact both

end Example

end GptTrader
