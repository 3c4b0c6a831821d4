import GptTrader.Experiment.AuthorJournal
import GptTrader.Library.Chain

/-!
# Passes over an author journal

A bar that is closed live is the bar that a pass rebuilds from its recorded turn,
so a journal that a pass verified stays verified with the bar appended.
-/

namespace GptTrader

/-- What closing a bar establishes. -/
structure ClosesBar (world : AuthorWorld) (progress : JournalProgress)
    (event : AuthorEvent) (reached : JournalProgress) : Prop where
  sequence : event.sequence = progress.processed
  previous : event.previous = progress.previous
  processed : reached.processed = progress.processed + 1
  checksum : reached.previous = world.eventChecksum event
  sources : reached.sources = progress.sources

def InsertsBar (world : AuthorWorld) (first : ParsedInput)
    (settings : AuthorSettings) (progress : JournalProgress)
    (result : BarResult) : Prop :=
  ∃ event reached,
    rebuildBar world first settings progress event.turn = .ok (event, reached) ∧
    result = BarResult.insert world (event, reached)

/-- The transactions of a fresh bar. -/
inductive PlansBar (world : AuthorWorld) (first : ParsedInput)
    (settings : AuthorSettings) (progress : JournalProgress) : BarPlan → Prop where
  | ends {outcome : Except AuthorError BarResult}
      (inserts : ∀ result, outcome = .ok result →
        InsertsBar world first settings progress result) :
      PlansBar world first settings progress (.ends outcome)
  | asks {request : AuthorRequest}
      {answer : AuthorOutcome → Except AuthorError BarResult}
      (due : authorDue first settings progress.processed = true)
      (requested : turnRequest world first settings progress = .ok request)
      (inserts : ∀ outcome result, answer outcome = .ok result →
        InsertsBar world first settings progress result) :
      PlansBar world first settings progress (.asks request answer)

section Bars

variable {world : AuthorWorld} {first : ParsedInput} {settings : AuthorSettings}
variable {progress reached : JournalProgress} {event : AuthorEvent}

theorem sources_zipWith_close {coins : List CoinProgress} {events : List Json}
    (each : coins.length = events.length) :
    (List.zipWith CoinProgress.close coins events).map (·.source) =
      coins.map (·.source) := by
  induction coins generalizing events with
  | nil => rfl
  | cons coin rest induction =>
      cases events with
      | nil => cases each
      | cons event later =>
          rw [List.zipWith_cons_cons, List.map_cons, List.map_cons,
            induction (Nat.succ.inj each)]
          rfl

theorem closeBar_spec {turn : Option AuthorTurn}
    (closed : closeBar world progress turn = .ok (event, reached)) :
    ClosesBar world progress event reached ∧ event.turn = turn := by
  obtain ⟨events, advanced, same⟩ := Outcome.map_eq_ok.mp closed
  cases same
  have each := (Outcome.mapM_eq_ok.mp advanced).length_eq
  exact ⟨
    { sequence := rfl
      previous := rfl
      processed := rfl
      checksum := rfl
      sources := sources_zipWith_close each }, rfl⟩

theorem CoinProgress.source_takeTurn (sequence : ℕ) (turn : AuthorTurn)
    (coin : CoinProgress) : (coin.takeTurn sequence turn).source = coin.source := by
  unfold CoinProgress.takeTurn
  split
  · rfl
  · rfl

theorem JournalProgress.sources_takeTurn (progress : JournalProgress)
    (turn : AuthorTurn) : (progress.takeTurn turn).sources = progress.sources := by
  unfold JournalProgress.sources JournalProgress.takeTurn
  rw [List.map_map]
  apply List.map_congr_left
  intro coin _
  exact coin.source_takeTurn progress.processed turn

theorem closeTurn_spec {turn : AuthorTurn}
    (closed : closeTurn world progress turn = .ok (event, reached)) :
    ClosesBar world progress event reached ∧ event.turn = some turn := by
  obtain ⟨closes, turned⟩ := closeBar_spec closed
  exact ⟨
    { sequence := closes.sequence
      previous := closes.previous
      processed := closes.processed
      checksum := closes.checksum
      sources := closes.sources.trans (progress.sources_takeTurn turn) }, turned⟩

theorem rebuildBar_spec {recorded : Option AuthorTurn}
    (rebuilt : rebuildBar world first settings progress recorded =
      .ok (event, reached)) : ClosesBar world progress event reached := by
  unfold rebuildBar at rebuilt
  split at rebuilt
  · split at rebuilt
    · cases rebuilt
    split at rebuilt
    · cases rebuilt
    split at rebuilt
    · cases rebuilt
    · exact (closeTurn_spec rebuilt).1
  · exact (closeBar_spec rebuilt).1

theorem rebuildBar_of_turn {request : AuthorRequest} {model : String}
    {outcome : AuthorOutcome} {turn : AuthorTurn}
    (due : authorDue first settings progress.processed = true)
    (requested : turnRequest world first settings progress = .ok request)
    (taken : progress.turn world first request model outcome = .ok turn)
    (closed : closeTurn world progress turn = .ok (event, reached)) :
    rebuildBar world first settings progress event.turn = .ok (event, reached) := by
  have replayed : progress.turn world first request turn.model
      (replayDecide turn request) = .ok turn :=
    authorTurn_replayed taken
  unfold rebuildBar
  rw [if_pos due, requested, (closeTurn_spec closed).2]
  dsimp only
  rw [replayed]
  exact closed

theorem plansBar_fresh (transport : Option AuthorTransport) :
    PlansBar world first settings progress
      (freshPlan world first settings transport progress) := by
  unfold freshPlan
  split
  · next due =>
      split
      · apply PlansBar.ends
        intro result failed
        cases failed
      · next request requested =>
          split
          · apply PlansBar.ends
            intro result failed
            cases failed
          · apply PlansBar.asks due requested
            intro outcome result answered
            split at answered
            · cases answered
            next turn taken =>
            obtain ⟨⟨event, reached⟩, closed, rfl⟩ :=
              Outcome.map_eq_ok.mp answered
            exact ⟨event, reached, rebuildBar_of_turn due requested taken closed,
              rfl⟩
  · next idle =>
      apply PlansBar.ends
      intro result ended
      obtain ⟨⟨event, reached⟩, closed, rfl⟩ := Outcome.map_eq_ok.mp ended
      refine ⟨event, reached, ?_, rfl⟩
      unfold rebuildBar
      rw [if_neg idle]
      exact closed

theorem PlansBar.inserts {plan : BarPlan}
    (plans : PlansBar world first settings progress plan) {reply : plan.Reply}
    {result : BarResult} (done : plan.result reply = .ok result) :
    InsertsBar world first settings progress result := by
  cases plans with
  | ends inserts =>
      rcases reply with error | _
      · cases done
      · exact inserts result done
  | asks due requested inserts =>
      rcases reply with error | outcome
      · cases done
      · exact inserts outcome result done

theorem verifyRow_of_rebuilt
    (rebuilt : rebuildBar world first settings progress event.turn =
      .ok (event, reached)) (sequence : ℕ) :
    verifyRow world first settings progress
      { sequence := sequence
        event := event
        checksum := world.eventChecksum event } = .ok reached := by
  unfold verifyRow
  dsimp only
  rw [rebuilt]
  dsimp only
  apply if_neg
  rintro (differs | differs)
  · exact differs rfl
  · exact differs rfl

theorem verifyRow_eq_ok {row : AuthorRow} :
    verifyRow world first settings progress row = .ok reached ↔
      rebuildBar world first settings progress row.event.turn =
          .ok (row.event, reached) ∧
        row.checksum = world.eventChecksum row.event := by
  unfold verifyRow
  constructor
  · intro verified
    split at verified
    · cases verified
    · next event after rebuilt =>
        obtain ⟨same, returned⟩ := Outcome.guard_eq_ok.mp verified
        cases returned
        obtain ⟨event_eq, checksum_eq⟩ := not_or.mp same
        rw [← not_not.mp event_eq] at rebuilt checksum_eq
        exact ⟨rebuilt, not_not.mp checksum_eq⟩
  · rintro ⟨rebuilt, checksum⟩
    rw [rebuilt]
    dsimp only
    rw [if_neg]
    rintro (differs | differs)
    · exact differs rfl
    · exact differs checksum

theorem validateChain_cons {start : String} {index : ℕ} {row : AuthorRow}
    {rest : List AuthorRow} :
    validateChain world start index (row :: rest) = .ok () ↔
      (row.sequence = index ∧ row.event.sequence = index ∧
        row.event.previous = start ∧
        world.eventChecksum row.event = row.checksum) ∧
      validateChain world row.checksum (index + 1) rest = .ok () := by
  rw [validateChain, Outcome.guard_eq_ok]
  simp only [not_or, ne_eq, not_not]

/-- The check of a stored chain passes on one more row when the row is numbered,
names the tip of the chain and carries its own checksum. -/
theorem validateChain_append_singleton {start : String} {index : ℕ}
    {rows : List AuthorRow} {row : AuthorRow} :
    validateChain world start index (rows ++ [row]) = .ok () ↔
      validateChain world start index rows = .ok () ∧
        row.sequence = index + rows.length ∧
        row.event.sequence = index + rows.length ∧
        row.event.previous = Chain.tip (·.checksum) start rows ∧
        world.eventChecksum row.event = row.checksum := by
  induction rows generalizing start index with
  | nil =>
      rw [List.nil_append, validateChain_cons]
      simp [validateChain]
  | cons other rest induction =>
      rw [List.cons_append, validateChain_cons, validateChain_cons, induction,
        List.length_cons, Chain.tip_cons, Nat.add_right_comm index 1,
        ← Nat.add_assoc]
      exact and_assoc.symm

end Bars

/-- Rows that a pass read, and where it stands after them. -/
structure Verified (world : AuthorWorld) (first : ParsedInput)
    (settings : AuthorSettings) (started : JournalProgress)
    (rows : List AuthorRow) (progress : JournalProgress) : Prop where
  chain : validateChain world started.previous 0 rows = .ok ()
  replayed : replay (verifyRow world first settings) started rows = .ok progress

section Passes

variable {world : AuthorWorld} {first : ParsedInput} {settings : AuthorSettings}
variable {started progress reached : JournalProgress} {rows : List AuthorRow}

/-- Where a pass stands after the rows it replayed. -/
structure StandsAfter (world : AuthorWorld) (started : JournalProgress)
    (rows : List AuthorRow) (progress : JournalProgress) : Prop where
  processed : progress.processed = started.processed + rows.length
  previous : progress.previous = Chain.tip (·.checksum) started.previous rows
  sources : progress.sources = started.sources

theorem standsAfter_of_replay
    (replayed : replay (verifyRow world first settings) started rows =
      .ok progress) : StandsAfter world started rows progress := by
  induction rows using List.reverseRecOn generalizing progress with
  | nil =>
      cases replayed
      exact
        { processed := rfl
          previous := rfl
          sources := rfl }
  | append_singleton rows row induction =>
      obtain ⟨before, earlier, verified⟩ :=
        Replay.replay_snoc_eq_ok.mp replayed
      obtain ⟨rebuilt, checksum⟩ := verifyRow_eq_ok.mp verified
      have stands := induction earlier
      have closes := rebuildBar_spec rebuilt
      exact
        { processed := by
            rw [closes.processed, stands.processed, List.length_append]
            rfl
          previous := by
            rw [closes.checksum, Chain.tip_append_singleton, checksum]
          sources := closes.sources.trans stands.sources }

theorem Verified.append {event : AuthorEvent}
    (verified : Verified world first settings started rows progress)
    (begins : started.processed = 0)
    (rebuilt : rebuildBar world first settings progress event.turn =
      .ok (event, reached)) :
    Verified world first settings started
      (rows ++ [{ sequence := event.sequence
                  event := event
                  checksum := world.eventChecksum event }]) reached := by
  have stands := standsAfter_of_replay verified.replayed
  have closes := rebuildBar_spec rebuilt
  have numbered : event.sequence = 0 + rows.length := by
    rw [closes.sequence, stands.processed, begins]
  exact
    { chain := validateChain_append_singleton.mpr
        ⟨verified.chain, numbered, numbered,
          closes.previous.trans stands.previous, rfl⟩
      replayed := Replay.replay_snoc_eq_ok.mpr
        ⟨progress, verified.replayed, verifyRow_of_rebuilt rebuilt _⟩ }

end Passes

end GptTrader
