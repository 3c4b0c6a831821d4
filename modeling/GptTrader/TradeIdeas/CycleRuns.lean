import GptTrader.TradeIdeas.CycleExposure

/-!
# Histories of the paper cycle

A history is any sequence of proposer legs and of other operations; a turn of
the cycle is a part of it.  Over every history whose resubmissions keep the
instrument and never turn a reduction into an opening, at most one opening of
the proposers counts for each instrument, and every leg stores its whole batch
or nothing.
-/

namespace GptTrader

/-- A proposer's leg, or any other operation. -/
inductive CycleEvent where
  | leg (proposer : PaperCycle.Proposer)
      (snapshot : PaperCycle.MarketSnapshot) (reference : String) (moment : ℤ)
  | operation (call : Call)

/-- The service with the decisions the proposer legs stored, and those of them
they stored as openings. -/
structure CycleState where
  service : ServiceState
  proposed : List String
  openings : List String

def CycleState.start (service : ServiceState) : CycleState :=
  { service := service
    proposed := []
    openings := [] }

namespace CycleEvent

variable (cycle : PaperCycle)

/-- One event on the service. -/
def perform : CycleEvent → CycleState → CycleState
  | .leg proposer snapshot reference moment, state =>
      match cycle.runProposer proposer snapshot reference moment
          state.service with
      | (.ok turn, reached) =>
          { service := reached
            proposed := state.proposed ++ turn.proposedDecisionIds
            openings := state.openings ++
              turn.proposedDecisionIds.filter reached.store.opens }
      | (.error _, reached) => { state with service := reached }
  | .operation call, state =>
      { state with service := call.perform cycle.env state.service }

/-- The state after a list of events. -/
def run (events : List CycleEvent) (state : CycleState) : CycleState :=
  events.foldl (fun reached event => event.perform cycle reached) state

/-- Every event meets the condition at its state. -/
def RunMeets (condition : CycleEvent → CycleState → Prop) :
    List CycleEvent → CycleState → Prop
  | [], _ => True
  | event :: rest, state =>
      condition event state ∧ RunMeets condition rest (event.perform cycle state)

/-- The event resubmits an idea in this relation. -/
def Resubmits (relation : TradeIdea → TradeIdea → Prop) :
    CycleEvent → CycleState → Prop
  | .operation (.service (.resubmit idea _ _)), state =>
      ∀ prior, state.service.store.requireIdea cycle.env idea.decisionId =
        .ok prior → relation prior idea
  | _, _ => True

end CycleEvent

namespace PaperCycle

variable {cycle : PaperCycle}

/-- No instrument has two such ideas. -/
def OneEach (counts : TradeState → String → String → Prop)
    (decisions : List String) (store : TradeState) : Prop :=
  ∀ instrument, ∀ first ∈ decisions, ∀ second ∈ decisions,
    counts store instrument first → counts store instrument second →
      first = second

/-- The revision keeps its instrument. -/
def SameInstrument (cycle : PaperCycle) (prior revised : TradeIdea) : Prop :=
  cycle.casefold revised.instrument = cycle.casefold prior.instrument

def SameExposure (cycle : PaperCycle) (prior revised : TradeIdea) : Prop :=
  cycle.SameInstrument prior revised ∧
    (prior.reducing = true → revised.reducing = true)

section Legs

variable {proposer : Proposer} {snapshot : MarketSnapshot} {reference : String}
variable {moment : ℤ} {state reached : ServiceState}

/-- A leg stores nothing and reports nothing stored, or it stores all it
admitted. -/
inductive StoresWhole (cycle : PaperCycle) (proposer : Proposer)
    (snapshot : MarketSnapshot) (moment : ℤ) (before after : TradeState) :
    Except ServiceError ProposerTurn → Prop where
  | nothing {outcome : Except ServiceError ProposerTurn} (same : after = before)
      (unreported : ∀ turn, outcome = .ok turn → turn.proposedDecisionIds = []) :
      StoresWhole cycle proposer snapshot moment before after outcome
  | batch {candidates : List TradeIdea} {admission : Admission}
      {turn : ProposerTurn}
      (generated : generate proposer snapshot = .ok candidates)
      (admitted : cycle.admissionOf moment candidates before = .ok admission)
      (stored : ∀ idea ∈ admission.admitted,
        after.record? idea.decisionId = some idea ∧
          after.audit.currentState idea.decisionId = some .proposed)
      (proposes : ProposesAll cycle.env admission.admitted before after)
      (reported : turn.proposedDecisionIds =
        admission.admitted.map TradeIdea.decisionId) :
      StoresWhole cycle proposer snapshot moment before after (.ok turn)

theorem storeBatch_cases {batch : List TradeIdea}
    {outcome : Except ServiceError (List TradeIdeaView)}
    (returned : cycle.storeBatch proposer snapshot reference batch state =
      (outcome, reached)) :
    (reached.store = state.store ∧ ∃ error, outcome = .error error) ∨
      ∃ views, outcome = .ok views ∧
        ProposesAll cycle.env batch state.store reached.store ∧
        views.map (fun view => view.idea.decisionId) =
          batch.map TradeIdea.decisionId := by
  unfold storeBatch Tx.transaction at returned
  split at returned
  · next views last stored =>
      cases returned
      unfold ServiceTx.proposeBatch at stored
      obtain ⟨_, same, asked, each⟩ := Tx.bind_eq_ok.mp stored
      obtain ⟨_, rfl⟩ := ServiceTx.ask_eq_ok.mp asked
      exact .inr ⟨views, rfl, ServiceTx.proposeEach_proposes each⟩
  · cases returned
    exact .inl ⟨rfl, _, rfl⟩

theorem storesWhole_of_admission {candidates : List TradeIdea}
    {admission : Admission} {outcome : Except ServiceError ProposerTurn}
    (generated : generate proposer snapshot = .ok candidates)
    (admitted : cycle.admissionOf moment candidates state.store = .ok admission)
    (returned : (do
        ServiceTx.ask (ServiceTx.validateNewProposals [] admission.admitted)
        let views ← cycle.storeBatch proposer snapshot reference
          admission.admitted
        let proposed := views.map fun view => view.idea.decisionId
        pure
          { proposerId := proposer.proposerId
            proposalCount := proposed.length
            proposedDecisionIds := proposed
            skippedOpenInstruments := admission.skipped
            skippedClosedSessions := admission.skippedClosed
            error := none } : ServiceTx ProposerTurn) state =
      (outcome, reached)) :
    StoresWhole cycle proposer snapshot moment state.store reached.store
      outcome := by
  cases outcome with
  | error error =>
      refine .nothing ?_ nofun
      rcases Tx.bind_eq_error.mp returned with asked | ⟨_, _, asked, returned⟩
      · rw [(ServiceTx.ask_eq_error.mp asked).2]
      · obtain ⟨_, rfl⟩ := ServiceTx.ask_eq_ok.mp asked
        rcases Tx.bind_eq_error.mp returned with stored | ⟨_, _, _, returned⟩
        · rcases storeBatch_cases stored with ⟨same, _⟩ | ⟨_, failed, _⟩
          · exact same
          · cases failed
        · cases returned
  | ok turn =>
      obtain ⟨_, _, asked, returned⟩ := Tx.bind_eq_ok.mp returned
      obtain ⟨_, rfl⟩ := ServiceTx.ask_eq_ok.mp asked
      obtain ⟨views, _, stored, returned⟩ := Tx.bind_eq_ok.mp returned
      obtain ⟨rfl, rfl⟩ := Tx.pure_eq_ok.mp returned
      rcases storeBatch_cases stored with ⟨_, _, failed⟩ | ⟨_, same, all, ids⟩
      · cases failed
      · cases same
        obtain ⟨_, _, admits⟩ := admissionOf_admits admitted
        exact .batch generated admitted
          (fun idea member => all.member admits.distinct member) all ids

/-- A turn stores all its ideas or none. -/
theorem runProposer_storesWhole {outcome : Except ServiceError ProposerTurn}
    (returned : cycle.runProposer proposer snapshot reference moment state =
      (outcome, reached)) :
    StoresWhole cycle proposer snapshot moment state.store reached.store
      outcome := by
  unfold runProposer at returned
  cases generated : generate proposer snapshot with
  | error error =>
      rw [generated] at returned
      cases returned
      refine .nothing rfl ?_
      rintro turn ⟨⟩
      rfl
  | ok candidates =>
      rw [generated] at returned
      dsimp only at returned
      cases admitted : cycle.admissionOf moment candidates state.store with
      | error error =>
          rw [Tx.bind_apply, ServiceTx.ask, Tx.read_apply, admitted] at returned
          cases returned
          refine .nothing rfl ?_
          rintro turn ⟨⟩
      | ok admission =>
          rw [Tx.bind_apply, ServiceTx.ask, Tx.read_apply, admitted] at returned
          dsimp only at returned
          split at returned
          · cases returned
            refine .nothing rfl ?_
            rintro turn ⟨⟩
            rfl
          · cases lacking : admission.admitted.find? lacksExitPlan with
            | some idea =>
                rw [lacking] at returned
                cases returned
                refine .nothing rfl ?_
                rintro turn ⟨⟩
                rfl
            | none =>
                rw [lacking] at returned
                exact storesWhole_of_admission generated admitted returned

end Legs

section Operations

variable {state : ServiceState} {instrument decisionId : String}

theorem transaction_discard_cases {α : Type} (body : ServiceTx α)
    (state : ServiceState) :
    (Tx.transaction ServiceState.rollback (ServiceTx.discard body) state).2.store
        = state.store ∨
      ∃ value, body state = (.ok value,
        (Tx.transaction ServiceState.rollback (ServiceTx.discard body) state).2) := by
  unfold Tx.transaction ServiceTx.discard
  rw [Tx.bind_apply]
  match outcome : body state with
  | (.ok value, reached) => exact .inr ⟨value, rfl⟩
  | (.error error, reached) => exact .inl rfl

section Quiet

variable {before after : ServiceState}

theorem unsettled_of_quiet (steps : Follows cycle.env anyEvent before after)
    (recorded : (before.store.audit.currentState decisionId).isSome)
    (unsettled : after.store.Unsettled decisionId) :
    before.store.Unsettled decisionId := by
  obtain ⟨current, shown⟩ := Option.isSome_iff_exists.mp recorded
  cases terminal : current.terminal with
  | true =>
      have final := steps.terminal terminal shown
      rcases unsettled with ⟨state, reached, pending⟩ | ⟨filled, unattributed⟩
      · obtain rfl : current = state :=
          Option.some.inj (final.symm.trans reached)
        cases current <;> simp_all [TradeIdeaState.terminal,
          TradeIdeaState.inPipeline, TradeIdeaState.allowedTransitions]
      · obtain rfl : current = .filled :=
          Option.some.inj (final.symm.trans filled)
        exact .inr ⟨shown, fun record member =>
          unattributed record (steps.closeouts.subset member)⟩
  | false =>
      refine .inl ⟨current, shown, ?_⟩
      cases current <;> simp_all [TradeIdeaState.terminal,
        TradeIdeaState.inPipeline, TradeIdeaState.allowedTransitions]

theorem record_of_quiet (same : SameIdeas before.store after.store) :
    after.store.record? decisionId = before.store.record? decisionId := by
  unfold TradeState.record?
  rw [same.versions, same.latest]

section

variable (steps : Follows cycle.env anyEvent before after)
variable (same : SameIdeas before.store after.store)
variable (recorded : (before.store.audit.currentState decisionId).isSome)

include steps same recorded

theorem Counts.of_quiet (counts : cycle.Counts after.store instrument decisionId) :
    cycle.Counts before.store instrument decisionId :=
  ⟨record_of_quiet same ▸ counts.opening,
    unsettled_of_quiet steps recorded counts.unsettled⟩

theorem Holds.of_quiet (holds : cycle.Holds after.store instrument decisionId) :
    cycle.Holds before.store instrument decisionId := by
  refine ⟨?_, unsettled_of_quiet steps recorded holds.unsettled⟩
  obtain ⟨idea, stored, named, opening⟩ := holds.record
  rw [record_of_quiet same] at stored
  exact ⟨idea, stored, named, fun filled => opening (steps.terminal rfl filled)⟩

end

end Quiet

theorem validateNewProposals_fresh {ideas : List TradeIdea} {seen : List String}
    {store : TradeState}
    (valid : ServiceTx.validateNewProposals seen ideas store = .ok ()) :
    ∀ idea ∈ ideas, store.latest.get? idea.decisionId = none := by
  induction ideas generalizing seen with
  | nil => simp
  | cons idea rest induction =>
      obtain ⟨_, _, valid⟩ := Outcome.bind_eq_ok.mp valid
      obtain ⟨_, single, others⟩ := Outcome.bind_eq_ok.mp valid
      obtain ⟨_, _, fresh⟩ := Outcome.bind_eq_ok.mp single
      rw [List.forall_mem_cons]
      exact ⟨(ensure_eq_ok.mp fresh).1, induction others⟩

theorem perform_proposal {call : Call} (proposes : call.proposes = true)
    (unrevised : ∀ idea actorType attribution,
      call ≠ .service (.resubmit idea actorType attribution))
    (state : ServiceState) :
    (call.perform cycle.env state).store = state.store ∨
      ∃ ideas, ProposesAll cycle.env ideas state.store
          (call.perform cycle.env state).store ∧
        ∀ idea ∈ ideas, state.store.latest.get? idea.decisionId = none := by
  cases call with
  | kernel call => cases proposes
  | journal call => cases proposes
  | service call =>
      cases call with
      | propose idea actorType attribution evidence =>
          rcases transaction_discard_cases (ServiceTx.propose cycle.env idea
            actorType attribution evidence) state with same | ⟨view, returned⟩
          · exact .inl same
          · unfold ServiceTx.propose at returned
            obtain ⟨_, _, asked, recorded⟩ := Tx.bind_eq_ok.mp returned
            obtain ⟨valid, rfl⟩ := ServiceTx.ask_eq_ok.mp asked
            obtain ⟨_, _, fresh⟩ := Outcome.bind_eq_ok.mp valid
            refine .inr ⟨[idea], ⟨_,
              (ServiceTx.recordProposal_proposes recorded).1, rfl⟩, ?_⟩
            rw [List.forall_mem_singleton]
            exact (ensure_eq_ok.mp fresh).1
      | proposeBatch ideas actorType attribution evidence =>
          rcases transaction_discard_cases (ServiceTx.proposeBatch cycle.env
            ideas actorType attribution evidence) state with
            same | ⟨views, returned⟩
          · exact .inl same
          · unfold ServiceTx.proposeBatch at returned
            obtain ⟨_, _, asked, each⟩ := Tx.bind_eq_ok.mp returned
            obtain ⟨valid, rfl⟩ := ServiceTx.ask_eq_ok.mp asked
            exact .inr ⟨ideas, (ServiceTx.proposeEach_proposes each).1,
              validateNewProposals_fresh valid⟩
      | resubmit idea actorType attribution =>
          exact absurd rfl (unrevised idea actorType attribution)
      | _ => cases proposes

theorem perform_resubmit (idea : TradeIdea) (actorType : ActorType)
    (attribution : ServiceTx.Attribution) (state : ServiceState) :
    ((Call.service (.resubmit idea actorType attribution)).perform cycle.env
        state).store = state.store ∨
      ∃ prior, state.store.requireIdea cycle.env idea.decisionId = .ok prior ∧
        state.store.audit.currentState idea.decisionId = some .needsChanges ∧
        Proposes cycle.env idea state.store
          ((Call.service (.resubmit idea actorType attribution)).perform
            cycle.env state).store := by
  rcases transaction_discard_cases (ServiceTx.resubmit cycle.env idea actorType
    attribution) state with same | ⟨view, returned⟩
  · exact .inl same
  · unfold ServiceTx.resubmit at returned
    obtain ⟨_, _, asked, recorded⟩ := Tx.bind_eq_ok.mp returned
    obtain ⟨valid, rfl⟩ := ServiceTx.ask_eq_ok.mp asked
    obtain ⟨_, _, valid⟩ := Outcome.bind_eq_ok.mp valid
    obtain ⟨prior, required, valid⟩ := Outcome.bind_eq_ok.mp valid
    obtain ⟨_, current, _⟩ := Outcome.bind_eq_ok.mp valid
    exact .inr ⟨prior, required, ensure_eq_ok.mp current,
      (ServiceTx.recordProposal_proposes recorded).1⟩

end Operations

section Counting

/-- A way of counting that no operation starts but the storing of an opening,
when resubmissions respect the relation. -/
structure Counting (cycle : PaperCycle) (relation : TradeIdea → TradeIdea → Prop)
    (counts : TradeState → String → String → Prop) : Prop where
  holds : ∀ {store instrument decisionId}, counts store instrument decisionId →
    cycle.Holds store instrument decisionId
  quiet : ∀ {before after : ServiceState} {instrument decisionId},
    Follows cycle.env anyEvent before after →
      SameIdeas before.store after.store →
      (before.store.audit.currentState decisionId).isSome →
      counts after.store instrument decisionId →
        counts before.store instrument decisionId
  beside : ∀ {before after : TradeState} {instrument decisionId},
    SameDecision decisionId before after → counts after instrument decisionId →
      counts before instrument decisionId
  revised : ∀ {before after : TradeState} {instrument} {prior idea : TradeIdea},
    relation prior idea →
      before.requireIdea cycle.env idea.decisionId = .ok prior →
      before.audit.currentState idea.decisionId = some .needsChanges →
      Proposes cycle.env idea before after →
      counts after instrument idea.decisionId →
        counts before instrument idea.decisionId

theorem counting_openings :
    Counting cycle cycle.SameInstrument cycle.Holds where
  holds := id
  quiet := Holds.of_quiet
  beside := SameDecision.holds
  revised := by
    intro before after instrument prior idea same required current proposes holds
    obtain ⟨record, stored, named, _⟩ := holds.record
    obtain rfl : idea = record :=
      Option.some.inj (proposes.record.symm.trans stored)
    refine ⟨⟨prior, TradeState.record_of_required required,
      same.symm.trans named, ?_⟩, .inl ⟨_, current, rfl⟩⟩
    rw [current]
    exact nofun

theorem counting_all : Counting cycle cycle.SameExposure cycle.Counts where
  holds := Counts.holds
  quiet := Counts.of_quiet
  beside := SameDecision.counts
  revised := by
    intro before after instrument prior idea same required current proposes
      counts
    obtain ⟨record, stored, opening, named⟩ := counts.opening
    obtain rfl : idea = record :=
      Option.some.inj (proposes.record.symm.trans stored)
    refine ⟨⟨prior, TradeState.record_of_required required, ?_,
      same.1.symm.trans named⟩, .inl ⟨_, current, rfl⟩⟩
    have unreduced := mt same.2 (by simp [TradeIdea.reducing, opening])
    simpa [TradeIdea.reducing] using unreduced

end Counting

section Histories

/-- What a history keeps of the decisions it tracks: they are recorded, and one
counts for each instrument. -/
structure Held (counts : TradeState → String → String → Prop)
    (decisions : List String) (store : TradeState) : Prop where
  stored : ∀ decisionId ∈ decisions, (store.latest.get? decisionId).isSome
  recorded : ∀ decisionId ∈ decisions,
    (store.audit.currentState decisionId).isSome
  one : OneEach counts decisions store

variable {relation : TradeIdea → TradeIdea → Prop}
variable {counts : TradeState → String → String → Prop}
variable {decisions : List String} {state : CycleState}
variable {before after : TradeState}

theorem held_nil (store : TradeState) : Held counts [] store :=
  ⟨by simp, by simp, fun _ _ member => by cases member⟩

theorem Held.carried (held : Held counts decisions before)
    (stored : ∀ decisionId ∈ decisions, (after.latest.get? decisionId).isSome)
    (recorded : ∀ decisionId ∈ decisions,
      (after.audit.currentState decisionId).isSome)
    (counted : ∀ decisionId ∈ decisions, ∀ instrument,
      counts after instrument decisionId → counts before instrument decisionId) :
    Held counts decisions after where
  stored := stored
  recorded := recorded
  one := by
    intro instrument first member second other left right
    exact held.one instrument first member second other
      (counted first member instrument left)
      (counted second other instrument right)

theorem Held.beside {ideas : List TradeIdea}
    (held : Held counts decisions before)
    (proposes : ProposesAll cycle.env ideas before after)
    (fresh : ∀ idea ∈ ideas, before.latest.get? idea.decisionId = none) :
    ∀ decisionId ∈ decisions, SameDecision decisionId before after := by
  intro decisionId member
  apply proposes.other
  rintro idea proposed rfl
  have stored := held.stored _ member
  rw [fresh idea proposed] at stored
  cases stored

theorem Held.resubmission (counting : Counting cycle relation counts)
    {idea : TradeIdea} {actorType : ActorType}
    {attribution : ServiceTx.Attribution}
    (held : Held counts decisions state.service.store)
    (resubmits : CycleEvent.Resubmits cycle relation
      (.operation (.service (.resubmit idea actorType attribution))) state)
    (recorded : ∀ decisionId ∈ decisions,
      (((Call.service (.resubmit idea actorType attribution)).perform cycle.env
        state.service).store.audit.currentState decisionId).isSome) :
    Held counts decisions
      ((Call.service (.resubmit idea actorType attribution)).perform cycle.env
        state.service).store := by
  rcases perform_resubmit idea actorType attribution state.service with
    same | ⟨prior, required, current, proposes⟩
  · rw [same]
    exact held
  · have all : ProposesAll cycle.env [idea] state.service.store _ :=
      ⟨_, proposes, rfl⟩
    refine held.carried ?_ recorded ?_
    · exact fun decisionId member =>
        all.latest (.inl (held.stored decisionId member))
    · intro decisionId member instrument counted
      by_cases other : decisionId = idea.decisionId
      · subst other
        exact counting.revised (resubmits prior required) required current
          proposes counted
      · exact counting.beside (proposes.other other) counted

/-- A call adds no idea to an instrument that has one. -/
theorem Held.operation (counting : Counting cycle relation counts)
    (held : Held counts decisions state.service.store) (call : Call)
    (resubmits : CycleEvent.Resubmits cycle relation (.operation call) state) :
    Held counts decisions (call.perform cycle.env state.service).store := by
  have steps : Follows cycle.env anyEvent state.service
      (call.perform cycle.env state.service) :=
    call.perform_steps state.service
  have recorded := fun decisionId member =>
    steps.recorded (held.recorded decisionId member)
  cases quiet : call.proposes with
  | false =>
      have same : SameIdeas state.service.store
          (call.perform cycle.env state.service).store :=
        call.perform_sameIdeas quiet
      refine held.carried ?_ recorded ?_
      · rw [same.latest]
        exact held.stored
      · intro decisionId member instrument counted
        exact counting.quiet steps same (held.recorded decisionId member) counted
  | true =>
      by_cases revised : ∃ idea actorType attribution,
        call = .service (.resubmit idea actorType attribution)
      · obtain ⟨idea, actorType, attribution, rfl⟩ := revised
        exact held.resubmission counting resubmits recorded
      · rcases perform_proposal quiet (fun idea actorType attribution same =>
          revised ⟨idea, actorType, attribution, same⟩) state.service with
          same | ⟨ideas, all, fresh⟩
        · rw [same]
          exact held
        · have beside := held.beside all fresh
          refine held.carried ?_ recorded ?_
          · exact fun decisionId member =>
              all.latest (.inl (held.stored decisionId member))
          · exact fun decisionId member _ counted =>
              counting.beside (beside decisionId member) counted

/-- The new decisions of a stored batch count alone on their instruments, when
they count as openings only. -/
theorem Held.batch (counting : Counting cycle relation counts)
    (held : Held counts decisions before) {moment : ℤ}
    {candidates : List TradeIdea} {admission : Admission} {new : List String}
    (admitted : cycle.admissionOf moment candidates before = .ok admission)
    (stored : ∀ idea ∈ admission.admitted,
      after.record? idea.decisionId = some idea ∧
        after.audit.currentState idea.decisionId = some .proposed)
    (proposes : ProposesAll cycle.env admission.admitted before after)
    (reported : new ⊆ admission.admitted.map TradeIdea.decisionId)
    (opened : ∀ idea ∈ admission.admitted, idea.decisionId ∈ new →
      ∀ instrument, counts after instrument idea.decisionId →
        idea.positionOperation = none) :
    Held counts (decisions ++ new) after := by
  obtain ⟨views, listed, admits⟩ := admissionOf_admits admitted
  have beside : ∀ decisionId ∈ decisions,
      SameDecision decisionId before after := by
    intro decisionId member
    apply proposes.other
    rintro idea taken rfl
    obtain ⟨view, shown, _, named⟩ :=
      TradeState.view_of_listed listed (held.stored _ member)
    exact admits.fresh idea taken (List.mem_map.mpr ⟨view, shown, named⟩)
  have named : ∀ idea ∈ admission.admitted, ∀ instrument,
      counts after instrument idea.decisionId →
        cycle.casefold idea.instrument = instrument := by
    intro idea taken instrument counted
    obtain ⟨record, recorded, named, _⟩ := (counting.holds counted).record
    obtain rfl : idea = record :=
      Option.some.inj ((stored idea taken).1.symm.trans recorded)
    exact named
  -- A new opening is on an instrument on which no older decision counts.
  have apart : ∀ idea ∈ admission.admitted, idea.decisionId ∈ new →
      ∀ decisionId ∈ decisions, ∀ instrument,
        counts after instrument idea.decisionId →
          ¬ counts after instrument decisionId := by
    intro idea taken listed decisionId older instrument counted counter
    obtain rfl := named idea taken instrument counted
    exact not_holds_of_admitted admitted taken
      (opened idea taken listed _ counted) decisionId
      (counting.holds (counting.beside (beside decisionId older) counter))
  constructor
  · intro decisionId member
    exact proposes.latest ((List.mem_append.mp member).imp
      (held.stored decisionId) fun fresh => reported fresh)
  · intro decisionId member
    rcases List.mem_append.mp member with older | fresh
    · rw [(beside decisionId older).state]
      exact held.recorded decisionId older
    · obtain ⟨idea, taken, rfl⟩ := List.mem_map.mp (reported fresh)
      rw [(stored idea taken).2]
      rfl
  · intro instrument first left second right counted counter
    rcases List.mem_append.mp left with older | fresh
    · rcases List.mem_append.mp right with other | fresh
      · exact held.one instrument first older second other
          (counting.beside (beside first older) counted)
          (counting.beside (beside second other) counter)
      · obtain ⟨idea, taken, rfl⟩ := List.mem_map.mp (reported fresh)
        exact absurd counted
          (apart idea taken fresh first older instrument counter)
    · obtain ⟨idea, taken, rfl⟩ := List.mem_map.mp (reported fresh)
      rcases List.mem_append.mp right with older | also
      · exact absurd counter
          (apart idea taken fresh second older instrument counted)
      · obtain ⟨other, admittedOther, rfl⟩ := List.mem_map.mp (reported also)
        have same : cycle.casefold idea.instrument =
            cycle.casefold other.instrument :=
          (named idea taken instrument counted).trans
            (named other admittedOther instrument counter).symm
        rw [admits.alone idea taken other admittedOther
          (opened idea taken fresh instrument counted)
          (opened other admittedOther also instrument counter) same]

/-- The decisions of a state that a count tracks: a leg adds some it stored, and
those of them that count are openings. -/
structure Tracks (counts : TradeState → String → String → Prop)
    (tracked : CycleState → List String) : Prop where
  start : ∀ service, tracked (.start service) = []
  stays : ∀ state service, tracked { state with service := service } =
    tracked state
  adds : ∀ (state : CycleState) reached (turn : ProposerTurn),
    ∃ new, new ⊆ turn.proposedDecisionIds ∧
      tracked
        { service := reached
          proposed := state.proposed ++ turn.proposedDecisionIds
          openings := state.openings ++
            turn.proposedDecisionIds.filter reached.store.opens } =
        tracked state ++ new ∧
      ∀ idea : TradeIdea, reached.store.record? idea.decisionId = some idea →
        idea.decisionId ∈ new → ∀ instrument,
          counts reached.store instrument idea.decisionId →
            idea.positionOperation = none

theorem tracks_openings : Tracks cycle.Holds CycleState.openings where
  start := fun _ => rfl
  stays := fun _ _ => rfl
  adds := by
    intro state reached turn
    refine ⟨_, List.filter_subset_self _, rfl, ?_⟩
    intro idea recorded member _ _
    have opens := (List.mem_filter.mp member).2
    unfold TradeState.opens at opens
    rw [recorded] at opens
    simpa [TradeIdea.reducing] using opens

theorem tracks_proposed : Tracks cycle.Counts CycleState.proposed where
  start := fun _ => rfl
  stays := fun _ _ => rfl
  adds := by
    intro state reached turn
    refine ⟨_, List.Subset.refl _, rfl, ?_⟩
    intro idea recorded _ instrument counted
    obtain ⟨record, stored, opening, _⟩ := counted.opening
    obtain rfl : idea = record := Option.some.inj (recorded.symm.trans stored)
    exact opening

variable {tracked : CycleState → List String}

section

variable (counting : Counting cycle relation counts) (tracks : Tracks counts tracked)

include counting tracks

theorem Held.leg (held : Held counts (tracked state) state.service.store)
    (proposer : Proposer) (snapshot : MarketSnapshot) (reference : String) (moment : ℤ) :
    Held counts
      (tracked ((CycleEvent.leg proposer snapshot reference moment).perform
        cycle state))
      ((CycleEvent.leg proposer snapshot reference moment).perform cycle
        state).service.store := by
  match outcome : cycle.runProposer proposer snapshot reference moment
      state.service with
  | (.error error, reached) =>
      simp only [CycleEvent.perform, outcome]
      cases runProposer_storesWhole outcome with
      | nothing same _ =>
          rw [tracks.stays, same]
          exact held
  | (.ok turn, reached) =>
      simp only [CycleEvent.perform, outcome]
      obtain ⟨new, reported, grown, opened⟩ := tracks.adds state reached turn
      rw [grown]
      cases runProposer_storesWhole outcome with
      | nothing same unreported =>
          rw [unreported turn rfl] at reported
          rw [List.subset_nil.mp reported, List.append_nil, same]
          exact held
      | batch generated admitted stored proposes ids =>
          rw [ids] at reported
          exact held.batch counting admitted stored proposes reported
            fun idea taken => opened idea (stored idea taken).1

theorem Held.run (events : List CycleEvent)
    (held : Held counts (tracked state) state.service.store)
    (meets : CycleEvent.RunMeets cycle (CycleEvent.Resubmits cycle relation)
      events state) :
    Held counts (tracked (CycleEvent.run cycle events state))
      (CycleEvent.run cycle events state).service.store := by
  induction events generalizing state with
  | nil => exact held
  | cons event rest induction =>
      refine induction ?_ meets.2
      cases event with
      | leg proposer snapshot reference moment =>
          exact held.leg counting tracks proposer snapshot reference moment
      | operation call =>
          change Held counts (tracked { state with service := _ }) _
          rw [tracks.stays]
          exact held.operation counting call meets.1

theorem oneEach_of_run (start : ServiceState) (events : List CycleEvent)
    (meets : CycleEvent.RunMeets cycle (CycleEvent.Resubmits cycle relation)
      events (.start start)) :
    OneEach counts (tracked (CycleEvent.run cycle events (.start start)))
      (CycleEvent.run cycle events (.start start)).service.store := by
  refine (Held.run counting tracks events ?_ meets).one
  rw [tracks.start]
  exact held_nil _

end

end Histories

section Pyramids

/-- At every point of every history at most one of the openings that the legs
stored counts for each instrument, when resubmissions relate the records. -/
def OneOpening (cycle : PaperCycle) (relation : TradeIdea → TradeIdea → Prop) :
    Prop :=
  ∀ (start : ServiceState) (events : List CycleEvent),
    CycleEvent.RunMeets cycle (CycleEvent.Resubmits cycle relation) events
        (.start start) →
      OneEach cycle.Counts (CycleEvent.run cycle events (.start start)).proposed
        (CycleEvent.run cycle events (.start start)).service.store

/-- What the cycle keeps of its openings. -/
structure NeverPyramids (cycle : PaperCycle) : Prop where
  one : cycle.OneOpening cycle.SameExposure
  /-- Whatever resubmissions on the same instrument make of them, one of the
  ideas that were stored as openings holds it. -/
  oneStored : ∀ (start : ServiceState) (events : List CycleEvent),
    CycleEvent.RunMeets cycle (CycleEvent.Resubmits cycle cycle.SameInstrument)
        events (.start start) →
      OneEach cycle.Holds (CycleEvent.run cycle events (.start start)).openings
        (CycleEvent.run cycle events (.start start)).service.store
  whole : ∀ proposer snapshot reference moment (state : ServiceState),
    StoresWhole cycle proposer snapshot moment state.store
      (cycle.runProposer proposer snapshot reference moment state).2.store
      (cycle.runProposer proposer snapshot reference moment state).1

/-- No run of legs and calls proposes on a busy instrument. -/
theorem proposers_never_pyramid (cycle : PaperCycle) : cycle.NeverPyramids where
  one := oneEach_of_run counting_all tracks_proposed
  oneStored := oneEach_of_run counting_openings tracks_openings
  whole := fun _ _ _ _ _ => runProposer_storesWhole rfl

def traderHash (letter : Char) : String :=
  String.ofList (List.replicate 64 letter)

def paperCycle : PaperCycle :=
  { env :=
      { paperEnv with
        recordHash := fun idea =>
          if idea.decisionId = "entry-1" then traderHash 'a'
          else if idea.reducing then traderHash 'b'
          else traderHash 'c' }
    casefold := fun text => String.ofList (text.toList.map Char.toLower)
    sessionCalendar := fun _ => .ok openCalendar }

def plannedEntry (decisionId : String)
    (safe : isSafeDecisionId decisionId = true) : TradeIdea :=
  { paperIdea decisionId safe with
    exitPlan := some
      { stop := some 90
        target := some 120 } }

def reductionIdea : TradeIdea :=
  { plannedEntry "reduce-1" (by decide) with
    exitPlan := none
    positionOperation := some
      { action := .reduce
        targetDecisionId := "entry-1"
        targetRecordHash := traderHash 'a'
        resolution := .thesisTarget
        safeTarget := entry_safe
        hashTarget := by decide +kernel }
    targeted := by
      intro operation found
      obtain rfl := Option.some.inj found
      exact ⟨by decide, .inl rfl, fun _ => ⟨1, rfl, one_pos⟩⟩ }

def proposing (idea : TradeIdea) : CycleEvent :=
  .leg
    { proposerId := "ma-crossover"
      propose := fun _ => .ok [idea] }
    { source := "candles"
      asOf := 0
      series := [] }
    "snapshot.json" 0

def flippedRun : List CycleEvent :=
  [.operation (.service (.updateBudget attestedBudget .human "operator")),
    proposing (plannedEntry "entry-1" entry_safe),
    .operation (.service (.approve "entry-1" operator)),
    .operation (.service (.recordSubmission "entry-1" .system operator
      venueOrder [])),
    .operation (.service (.recordFill "entry-1" .venue operator venueOrder
      ["fill_price=100", "fill_quantity=1"])),
    proposing reductionIdea,
    .operation (.service (.requestChanges "reduce-1" operator)),
    .operation (.service (.resubmit (plannedEntry "reduce-1" (by decide)) .ai
      operator))]

def flippedState : CycleState :=
  CycleEvent.run paperCycle flippedRun (.start freshState)

def countingFacts (state : CycleState) (decisionId : String) :
    Option TradeIdea × Option TradeIdeaState × List CloseoutAttribution :=
  (state.service.store.record? decisionId,
    state.service.store.audit.currentState decisionId,
    state.service.store.closeouts)

theorem counts_of_facts {state : CycleState} {decisionId : String}
    {idea : TradeIdea} {current : TradeIdeaState}
    (facts : countingFacts state decisionId = (some idea, some current, []))
    (opening : idea.positionOperation = none)
    (pending : current.inPipeline = true ∨ current = .filled) :
    cycle.Counts state.service.store (cycle.casefold idea.instrument)
      decisionId := by
  unfold countingFacts at facts
  simp only [Prod.mk.injEq] at facts
  obtain ⟨recorded, shown, unattributed⟩ := facts
  refine ⟨⟨idea, recorded, opening, rfl⟩, ?_⟩
  rcases pending with pending | rfl
  · exact .inl ⟨current, shown, pending⟩
  · exact .inr ⟨shown, by simp [unattributed]⟩

theorem flipped_entry_facts : countingFacts flippedState "entry-1" =
    (some (plannedEntry "entry-1" (by decide)), some .filled, []) := by
  decide +kernel

theorem flipped_reduction_facts : countingFacts flippedState "reduce-1" =
    (some (plannedEntry "reduce-1" (by decide)), some .proposed, []) := by
  decide +kernel

theorem flipped_resubmits :
    ((CycleEvent.run paperCycle (flippedRun.take 7)
      (.start freshState)).service.store.requireIdea paperCycle.env
        "reduce-1").toOption = some reductionIdea := by
  decide +kernel

/-- A resubmission on the same instrument may turn a reduction into a second
opening. -/
theorem flipped_reduction_pyramids :
    ¬ paperCycle.OneOpening paperCycle.SameInstrument := by
  intro never
  have meets : CycleEvent.RunMeets paperCycle
      (CycleEvent.Resubmits paperCycle paperCycle.SameInstrument) flippedRun
      (.start freshState) := by
    refine ⟨trivial, trivial, trivial, trivial, trivial, trivial, trivial, ?_,
      trivial⟩
    intro prior required
    have found := congrArg Except.toOption required
    obtain rfl := Option.some.inj (flipped_resubmits.symm.trans found)
    rfl
  have one : OneEach paperCycle.Counts flippedState.proposed
      flippedState.service.store := never freshState flippedRun meets
  have proposed : flippedState.proposed = ["entry-1", "reduce-1"] := by
    decide +kernel
  have same : "entry-1" = "reduce-1" :=
    one (paperCycle.casefold "BTC-USD") _ (by rw [proposed]; exact .head _) _
      (by rw [proposed]; exact .tail _ (.head _))
      (counts_of_facts flipped_entry_facts rfl (.inr rfl))
      (counts_of_facts flipped_reduction_facts rfl (.inl rfl))
  exact absurd same (by decide)

end Pyramids

end PaperCycle

end GptTrader
