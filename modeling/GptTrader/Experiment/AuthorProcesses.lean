import Mathlib.Data.List.Sort
import GptTrader.Experiment.AuthorPasses

/-!
# What an author run may do next

A `run_author` process (`features/experiment/author_runner.py`) reads the rows of
the journal and verifies them; from then on it knows them to be the first rows.  A
fresh bar that it writes is the next row of those it knows.  This holds of one
process whatever the journal and the transport reply.
-/

namespace GptTrader

/-- A turn that a run may send on a bar. -/
structure AskedTurn (world : AuthorWorld) (first : ParsedInput)
    (sources : List ParsedInput) (settings : AuthorSettings) (sequence : ℕ)
    (request : AuthorRequest) : Prop where
  due : authorDue first settings sequence = true
  within : sequence < first.candles.length
  built : ∃ accounts rules,
    rules.map Prod.fst = sources.map (·.symbol) ∧
    (dynamicContext world (.obj accounts) rules).bytes world.formats.showFloat ≤
      maxDynamicBytes ∧
    request = buildAuthorRequest world.formats.toInputFormats first sources
      sequence (.obj accounts) rules settings

/-- The rows of a journal with a binding are those that `inspect_author` reads. -/
def Readable (world : AuthorWorld) (binding : AuthorBinding)
    (rows : List AuthorRow) : Prop :=
  ∃ progress, inspectAuthor world [binding] rows = .ok progress

namespace AuthorArguments

variable {world : AuthorWorld}

def Asks (arguments : AuthorArguments world.formats.toInputFormats)
    (sequence : ℕ) (request : AuthorRequest) : Prop :=
  ∃ first rest, arguments.sorted = first :: rest ∧
    AskedTurn world first (first :: rest) arguments.settings sequence request

end AuthorArguments

/-- The transactions that a process may perform when it knows rows. -/
inductive BarAllowed (world : AuthorWorld)
    (arguments : AuthorArguments world.formats.toInputFormats)
    (rows : List AuthorRow) : ℕ → Bool → BarPlan → Prop where
  | stored {sequence : ℕ} {outcome : Except AuthorError BarResult}
      (stays : ∀ result, outcome = .ok result → result.row = none) :
      BarAllowed world arguments rows sequence false (.ends outcome)
  | fresh {plan : BarPlan}
      (appends : ∀ reply result, plan.result reply = .ok result →
        ∃ row, result.row = some row ∧ row.sequence = rows.length ∧
          Readable world arguments.binding (rows ++ [row]))
      (asks : ∀ request answer, plan = .asks request answer →
        arguments.Asks rows.length request) :
      BarAllowed world arguments rows rows.length true plan

/-- What a process knows: nothing, that the journal is bound as it expects, or
the first rows of the journal. -/
inductive JournalPhase where
  | outside
  | bound
  | knows (rows : List AuthorRow)

namespace JournalPhase

def afterOpen (phase : JournalPhase) :
    Except AuthorError Unit → JournalPhase
  | .ok () => .bound
  | .error _ => phase

def afterBar (phase : JournalPhase) (plan : BarPlan) (reply : plan.Reply) :
    JournalPhase :=
  match phase, plan.result reply with
  | .knows rows, .ok result => .knows (rows ++ result.row.toList)
  | phase, _ => phase

/-- The phase after an operation. -/
def after (phase : JournalPhase) :
    (op : JournalOp) → op.Reply → JournalPhase
  | .openJournal _ _, reply => phase.afterOpen reply
  | .readBars, rows => .knows rows
  | .bar _ _ plan, reply => phase.afterBar plan reply
  | _, _ => phase

end JournalPhase

def journalSession {world : AuthorWorld}
    (arguments : AuthorArguments world.formats.toInputFormats) :
    Session JournalOp JournalOp.Reply JournalPhase :=
  { allows := fun phase op =>
      match op with
      | .openJournal _ binding =>
          binding = arguments.binding ∧ Readable world arguments.binding []
      | .readBars => phase ≠ .outside
      | .bar sequence fresh plan =>
          ∃ rows, phase = .knows rows ∧
            BarAllowed world arguments rows sequence fresh plan
      | _ => True
    after := JournalPhase.after }

section Processes

variable {world : AuthorWorld}
variable {arguments : AuthorArguments world.formats.toInputFormats}
variable {first : ParsedInput} {rest : List ParsedInput}

theorem parseInput_payload (loaded : LoadedInput world.formats.toInputFormats) :
    parseInput world.formats.toInputFormats loaded.input.payload =
      .ok loaded.input := by
  obtain ⟨payload, parsed⟩ := loaded.loaded
  have again := parseInput_stored world.formats.toInputFormats payload
  rw [parsed] at again
  exact again

theorem parse_sorted :
    (arguments.sorted.map (·.payload)).mapM
        (parseInput world.formats.toInputFormats) = .ok arguments.sorted := by
  rw [Outcome.mapM_eq_ok, List.forall₂_map_left_iff, List.forall₂_same]
  intro source member
  have listed := (List.perm_insertionSort _ _).mem_iff.mp member
  obtain ⟨loaded, _, rfl⟩ := List.mem_map.mp listed
  exact parseInput_payload loaded

/-- What `inspect_author` does with the binding of a process. -/
theorem inspectAuthor_binding (sorted : arguments.sorted = first :: rest)
    (rows : List AuthorRow) :
    inspectAuthor world [arguments.binding] rows =
      replayJournal world first arguments.settings arguments.binding
        (first :: rest) rows := by
  have schema : arguments.binding.schema = "author-run/1" := rfl
  have inputs : arguments.binding.inputs.mapM
      (parseInput world.formats.toInputFormats) = .ok (first :: rest) := by
    rw [← sorted]
    exact parse_sorted
  have bound : runBinding world (first :: rest) arguments.binding.manager
      arguments.binding.settings arguments.binding.ledger =
        arguments.binding := by
    rw [← sorted]
    rfl
  unfold inspectAuthor
  dsimp only
  rw [if_neg (not_not_intro schema), inputs]
  dsimp only
  rw [if_neg (not_not_intro bound)]
  rfl

theorem readable_of_verified {started progress : JournalProgress}
    {rows : List AuthorRow} (sorted : arguments.sorted = first :: rest)
    (starts : startJournal world arguments.binding (first :: rest) = .ok started)
    (verified : Verified world first arguments.settings started rows progress) :
    Readable world arguments.binding rows := by
  refine ⟨progress, ?_⟩
  rw [inspectAuthor_binding sorted]
  unfold replayJournal
  rw [starts]
  change (validateChain world started.previous 0 rows >>= fun _ => _) = _
  rw [verified.chain]
  exact verified.replayed

theorem startJournal_spec {binding : AuthorBinding} {sources : List ParsedInput}
    {started : JournalProgress}
    (starts : startJournal world binding sources = .ok started) :
    started.processed = 0 ∧ started.sources = sources := by
  obtain ⟨coins, each, rfl⟩ := Outcome.map_eq_ok.mp starts
  refine ⟨rfl, Outcome.map_mapM each ?_⟩
  intro source coin begun
  unfold startCoin at begun
  split at begun
  · cases begun
  · cases begun
    rfl

theorem turnRequest_spec {progress : JournalProgress} {request : AuthorRequest}
    {settings : AuthorSettings}
    (requested : turnRequest world first settings progress = .ok request) :
    ∃ accounts,
      (dynamicContext world (.obj accounts) progress.current).bytes
          world.formats.showFloat ≤ maxDynamicBytes ∧
      request = buildAuthorRequest world.formats.toInputFormats first
        progress.sources progress.processed (.obj accounts) progress.current
        settings := by
  unfold turnRequest at requested
  split at requested
  · cases requested
  · next accounts observed =>
      obtain ⟨bounded, built⟩ := Outcome.guard_eq_ok.mp requested
      cases built
      exact ⟨accounts, Nat.le_of_not_lt bounded, rfl⟩

/-! ## Passes that write -/

theorem barAllowed_fresh {started progress : JournalProgress}
    {known : List AuthorRow} {plan : BarPlan}
    (sorted : arguments.sorted = first :: rest)
    (starts : startJournal world arguments.binding (first :: rest) = .ok started)
    (verified : Verified world first arguments.settings started known progress)
    (within : progress.processed < first.candles.length)
    (plans : PlansBar world first arguments.settings progress plan) :
    BarAllowed world arguments known progress.processed true plan := by
  obtain ⟨begins, sources⟩ := startJournal_spec starts
  have stands := standsAfter_of_replay verified.replayed
  have counted : progress.processed = known.length := by
    rw [stands.processed, begins, Nat.zero_add]
  rw [counted]
  apply BarAllowed.fresh
  · intro reply result done
    obtain ⟨event, reached, rebuilt, rfl⟩ := plans.inserts done
    refine ⟨_, rfl, (rebuildBar_spec rebuilt).sequence.trans counted, ?_⟩
    exact readable_of_verified sorted starts (verified.append begins rebuilt)
  · rintro request answer rfl
    cases plans with
    | asks due requested inserts =>
        obtain ⟨accounts, bounded, rfl⟩ := turnRequest_spec requested
        rw [← counted]
        refine ⟨first, rest, sorted, due, within, accounts, progress.current, ?_,
          bounded, ?_⟩
        · rw [← sources, ← stands.sources]
          unfold JournalProgress.current JournalProgress.sources
          rw [List.map_map, List.map_map]
          rfl
        · rw [stands.sources, sources]

/-- Where a pass that writes stands: it replays the rows that it read, or it
verified all rows that it knows. -/
inductive WritesAt (world : AuthorWorld) (first : ParsedInput)
    (settings : AuthorSettings) (started : JournalProgress)
    (stored known : List AuthorRow) (progress : JournalProgress) : Prop where
  | replaying (same : known = stored)
      (before : progress.processed < stored.length)
      (chain : validateChain world started.previous 0 stored = .ok ())
      (replayed : replay (verifyRow world first settings) started
        (stored.take progress.processed) = .ok progress)
  | writing (past : stored.length ≤ progress.processed)
      (verified : Verified world first settings started known progress)

theorem writesAt_of_replay {settings : AuthorSettings}
    {started progress : JournalProgress} {stored : List AuthorRow}
    (begins : started.processed = 0)
    (chain : validateChain world started.previous 0 stored = .ok ())
    {count : ℕ} (most : count ≤ stored.length)
    (replayed : replay (verifyRow world first settings) started
      (stored.take count) = .ok progress) :
    WritesAt world first settings started stored stored progress := by
  have stands := standsAfter_of_replay replayed
  have counted : progress.processed = count := by
    rw [stands.processed, begins, List.length_take, Nat.min_eq_left most,
      Nat.zero_add]
  rcases Nat.lt_or_ge count stored.length with before | past
  · apply WritesAt.replaying rfl (counted ▸ before) chain
    rwa [counted]
  · apply WritesAt.writing (counted ▸ past)
    rw [List.take_of_length_le past] at replayed
    exact
      { chain := chain
        replayed := replayed }

theorem follows_result {known : List AuthorRow} {sequence : ℕ} {fresh : Bool}
    {plan : BarPlan} {reply : plan.Reply}
    {next : BarResult → JournalProgram JournalProgress}
    (continues : ∀ result, plan.result reply = .ok result →
      (next result).Follows (journalSession arguments)
        (.knows (known ++ result.row.toList)) fun _ _ => True) :
    (match plan.result reply with
      | .error error => Program.raise error
      | .ok result => next result : JournalProgram JournalProgress).Follows
        (journalSession arguments)
        ((journalSession arguments).after (.knows known)
          (.bar sequence fresh plan) reply) fun _ _ => True := by
  have phase : (journalSession arguments).after (.knows known)
      (.bar sequence fresh plan) reply =
        JournalPhase.afterBar (.knows known) plan reply := rfl
  rw [phase]
  unfold JournalPhase.afterBar
  rcases done : plan.result reply with error | result
  · trivial
  · exact continues result done

/-- The bars of a process follow its session. -/
theorem follows_advanceBars {started : JournalProgress}
    (sorted : arguments.sorted = first :: rest)
    (starts : startJournal world arguments.binding (first :: rest) = .ok started)
    (stored : List AuthorRow) (count : ℕ) {progress : JournalProgress}
    {known : List AuthorRow}
    (writes : WritesAt world first arguments.settings started stored known
      progress)
    (within : progress.processed + count ≤ first.candles.length) :
    (advanceBars world first arguments.settings arguments.transport stored count
      progress).Follows (journalSession arguments) (.knows known)
      fun _ _ => True := by
  have begins := (startJournal_spec starts).1
  induction count generalizing progress known with
  | zero => trivial
  | succ count induction =>
      unfold advanceBars
      cases writes with
      | replaying same before chain replayed =>
          subst same
          have saved := List.getElem?_eq_getElem before
          rw [saved]
          apply Program.follows_bind
          apply Program.follows_request
          · refine ⟨known, rfl, BarAllowed.stored ?_⟩
            intro result verified
            obtain ⟨reached, _, rfl⟩ := Outcome.map_eq_ok.mp verified
            rfl
          · intro reply
            apply follows_result
            intro result done
            rcases reply with error | _
            · cases done
            obtain ⟨reached, verified, rfl⟩ := Outcome.map_eq_ok.mp done
            have further : replay (verifyRow world first arguments.settings)
                started (known.take (progress.processed + 1)) = .ok reached := by
              rw [List.take_succ_eq_append_getElem before]
              exact Replay.replay_snoc_eq_ok.mpr ⟨progress, replayed, verified⟩
            have moved := (rebuildBar_spec (verifyRow_eq_ok.mp verified).1).processed
            rw [Option.toList_none, List.append_nil]
            apply induction
            · exact writesAt_of_replay begins chain before further
            · dsimp only
              omega
      | writing past verified =>
          rw [List.getElem?_eq_none past]
          have plans : PlansBar world first arguments.settings progress
              (freshPlan world first arguments.settings arguments.transport
                progress) :=
            plansBar_fresh arguments.transport
          apply Program.follows_bind
          apply Program.follows_request
          · exact ⟨known, rfl, barAllowed_fresh sorted starts verified
              (by omega) plans⟩
          · intro reply
            apply follows_result
            intro result done
            obtain ⟨event, reached, rebuilt, rfl⟩ := plans.inserts done
            have moved := (rebuildBar_spec rebuilt).processed
            apply induction
            · apply WritesAt.writing _ (verified.append begins rebuilt)
              omega
            · dsimp only [BarResult.insert]
              omega

theorem follows_writeJournal {limit : ℕ}
    (sorted : arguments.sorted = first :: rest)
    (within : limit ≤ first.candles.length) :
    (writeJournal world first arguments.settings arguments.transport
      arguments.binding (first :: rest) limit).Follows (journalSession arguments)
      .bound fun _ _ => True := by
  unfold writeJournal
  rcases starts : startJournal world arguments.binding (first :: rest) with
    error | started
  · trivial
  have begins := (startJournal_spec starts).1
  apply Program.follows_bind
  change (JournalProgram.readBars >>= _).Follows _ _ _
  apply Program.follows_bind
  apply Program.follows_request
  · exact JournalPhase.noConfusion
  · intro stored
    change (Program.lift (validateChain world started.previous 0 stored) >>=
      _).Follows _ (JournalPhase.knows stored) _
    rcases chain : validateChain world started.previous 0 stored with error | _
    · trivial
    · apply Program.follows_bind
      change (if limit < stored.length then _ else _ :
        JournalProgram JournalProgress).Follows _ _ _
      split
      · trivial
      · apply follows_advanceBars sorted starts stored limit
        · exact writesAt_of_replay begins chain (Nat.zero_le _) rfl
        · omega

theorem schedule_of_checked (checks : checkArguments world arguments = .ok ())
    {source : ParsedInput} (member : source ∈ arguments.sorted) :
    source.schedule.length = 1 := by
  unfold checkArguments at checks
  obtain ⟨_, validated, _⟩ := Outcome.bind_eq_ok.mp checks
  have listed := (List.perm_insertionSort _ _).mem_iff.mp member
  have valid := Outcome.mapError_eq_ok.mp validated
  unfold validateAuthorPortfolio at valid
  split at valid
  · cases valid
  · obtain ⟨_, each⟩ := Outcome.guard_eq_ok.mp valid
    have accepted := Outcome.forM_eq_ok.mp each source listed
    unfold validateSource at accepted
    obtain ⟨single, _⟩ := Outcome.guard_eq_ok.mp accepted
    exact not_not.mp (not_or.mp single).2

theorem readable_nil (checks : checkArguments world arguments = .ok ())
    (sorted : arguments.sorted = first :: rest) :
    Readable world arguments.binding [] := by
  obtain ⟨started, starts⟩ : ∃ started,
      startJournal world arguments.binding (first :: rest) = .ok started := by
    have each : ∀ source ∈ first :: rest,
        ∃ coin, startCoin world source = .ok coin := by
      intro source member
      have single := schedule_of_checked checks (sorted ▸ member)
      obtain ⟨version, listed⟩ := List.length_eq_one_iff.mp single
      unfold startCoin
      rw [listed]
      exact ⟨_, rfl⟩
    obtain ⟨coins, begun⟩ := Outcome.exists_mapM.mpr each
    exact ⟨_, Outcome.map_eq_ok.mpr ⟨coins, begun, rfl⟩⟩
  have verified : Verified world first arguments.settings started [] started :=
    { chain := rfl
      replayed := rfl }
  exact readable_of_verified sorted starts verified

theorem follows_openRun (readable : Readable world arguments.binding []) :
    (openRun arguments.binding).Follows (journalSession arguments) .outside
      fun phase outcome => outcome = .ok () → phase = .bound := by
  have opens : ∀ new, (JournalProgram.openJournal new arguments.binding >>=
      fun opened => Program.lift opened).Follows (journalSession arguments)
        .outside fun phase outcome => outcome = .ok () → phase = .bound := by
    intro new
    apply Program.follows_bind
    apply Program.follows_request
    · exact ⟨rfl, readable⟩
    · rintro (error | _)
      · intro done
        cases done
      · intro _
        rfl
  unfold openRun
  apply Program.follows_bind
  apply Program.follows_request
  · trivial
  · rintro (_ | _)
    · apply Program.follows_bind
      apply Program.follows_request
      · trivial
      · rintro (_ | _)
        · apply Program.follows_bind
          apply Program.follows_request
          · trivial
          · intro _
            exact opens true
        · intro done
          cases done
    · apply Program.follows_bind
      apply Program.follows_request
      · trivial
      · intro _
        exact opens false

theorem follows_runAuthor :
    (runAuthor world arguments).Follows (journalSession arguments) .outside
      fun _ _ => True := by
  unfold runAuthor
  rcases checks : checkArguments world arguments with error | _
  · trivial
  apply Program.follows_bind
  rcases sorted : arguments.sorted with _ | ⟨first, rest⟩
  · trivial
  apply Program.follows_bind
  apply (follows_openRun (readable_nil checks sorted)).mono
  intro phase outcome opened
  rcases outcome with error | _
  · trivial
  obtain rfl := opened rfl
  apply Program.follows_bind
  apply Program.follows_request
  · trivial
  · intro done
    apply Program.follows_bind
    refine (follows_writeJournal sorted ?_).mono ?_
    · split
      · exact Nat.le_refl _
      · exact Nat.min_le_left _ _
    · intro phase outcome _
      rcases outcome with error | _
      · trivial
      · apply Program.follows_bind
        apply Program.follows_request
        · trivial
        · intro reply
          trivial

end Processes

end GptTrader
