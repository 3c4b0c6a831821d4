import GptTrader.TradeIdeas.CycleProposals
import GptTrader.TradeIdeas.KeptRecords

/-!
# One open trade for each instrument

A trade counts against its instrument while its idea is open, and after its fill
until its closeout is attributed.  The proposer leg admits an opening only on an
instrument without such a trade, and no other operation starts one: so over every
history at most one opening of the proposers counts for each instrument.
-/

namespace GptTrader

namespace TradeState

def record? (store : TradeState) (decisionId : String) : Option TradeIdea :=
  (store.latest.get? decisionId).bind fun recordHash =>
    store.versions.get? (decisionId, recordHash)

/-- The idea opens a position. -/
def opens (store : TradeState) (decisionId : String) : Bool :=
  (store.record? decisionId).any fun idea => !idea.reducing

def Unsettled (store : TradeState) (decisionId : String) : Prop :=
  (∃ state ∈ store.audit.currentState decisionId, state.inPipeline = true) ∨
    (store.audit.currentState decisionId = some .filled ∧
      ∀ record ∈ store.closeouts, record.decisionId ≠ decisionId)

end TradeState

/-- The decision is an unsettled opening on the instrument. -/
structure PaperCycle.Counts (cycle : PaperCycle) (store : TradeState)
    (instrument : String) (decisionId : String) : Prop where
  opening : ∃ idea ∈ store.record? decisionId,
    idea.positionOperation = none ∧ cycle.casefold idea.instrument = instrument
  unsettled : store.Unsettled decisionId

/-- The decision keeps the instrument from new openings: it is open, or an
unsettled opening. -/
structure PaperCycle.Holds (cycle : PaperCycle) (store : TradeState)
    (instrument : String) (decisionId : String) : Prop where
  record : ∃ idea ∈ store.record? decisionId,
    cycle.casefold idea.instrument = instrument ∧
      (store.audit.currentState decisionId = some .filled →
        idea.positionOperation = none)
  unsettled : store.Unsettled decisionId

theorem PaperCycle.Counts.holds {cycle : PaperCycle} {store : TradeState}
    {instrument decisionId : String}
    (counts : cycle.Counts store instrument decisionId) :
    cycle.Holds store instrument decisionId := by
  obtain ⟨idea, recorded, opening, named⟩ := counts.opening
  exact ⟨⟨idea, recorded, named, fun _ => opening⟩, counts.unsettled⟩

section Proposals

/-- The store once an idea was proposed. -/
structure Proposes (env : TradeEnv) (idea : TradeIdea)
    (before after : TradeState) : Prop where
  latest : after.latest = before.latest.set idea.decisionId (env.recordHash idea)
  version : after.versions.get? (idea.decisionId, env.recordHash idea) = some idea
  versions : ∀ key, key.1 ≠ idea.decisionId →
    after.versions.get? key = before.versions.get? key
  states : ∀ decisionId, after.audit.currentState decisionId =
    if decisionId = idea.decisionId then some .proposed
    else before.audit.currentState decisionId
  closeouts : after.closeouts = before.closeouts

def ProposesAll (env : TradeEnv) :
    List TradeIdea → TradeState → TradeState → Prop
  | [], before, after => after = before
  | idea :: rest, before, after =>
      ∃ middle, Proposes env idea before middle ∧ ProposesAll env rest middle after

variable {env : TradeEnv} {idea : TradeIdea} {before after : TradeState}
variable {decisionId : String}

/-- What a proposal leaves of the other decisions. -/
structure SameDecision (decisionId : String) (before after : TradeState) :
    Prop where
  record : after.record? decisionId = before.record? decisionId
  state : after.audit.currentState decisionId =
    before.audit.currentState decisionId
  closeouts : after.closeouts = before.closeouts

theorem Proposes.other (proposes : Proposes env idea before after)
    (other : decisionId ≠ idea.decisionId) :
    SameDecision decisionId before after := by
  refine ⟨?_, ?_, proposes.closeouts⟩
  · unfold TradeState.record?
    rw [proposes.latest, Dict.get?_set, if_neg other]
    cases before.latest.get? decisionId with
    | none => rfl
    | some recordHash => exact proposes.versions (decisionId, recordHash) other
  · rw [proposes.states, if_neg other]

theorem Proposes.record (proposes : Proposes env idea before after) :
    after.record? idea.decisionId = some idea := by
  unfold TradeState.record?
  rw [proposes.latest, Dict.get?_set, if_pos rfl]
  exact proposes.version

theorem Proposes.state (proposes : Proposes env idea before after) :
    after.audit.currentState idea.decisionId = some .proposed := by
  rw [proposes.states, if_pos rfl]

theorem SameDecision.trans {middle : TradeState}
    (first : SameDecision decisionId before middle)
    (second : SameDecision decisionId middle after) :
    SameDecision decisionId before after :=
  ⟨second.record.trans first.record, second.state.trans first.state,
    second.closeouts.trans first.closeouts⟩

theorem SameDecision.unsettled (same : SameDecision decisionId before after) :
    after.Unsettled decisionId ↔ before.Unsettled decisionId := by
  unfold TradeState.Unsettled
  rw [same.state, same.closeouts]

theorem SameDecision.counts {cycle : PaperCycle} {instrument : String}
    (same : SameDecision decisionId before after)
    (counts : cycle.Counts after instrument decisionId) :
    cycle.Counts before instrument decisionId :=
  ⟨same.record ▸ counts.opening, same.unsettled.mp counts.unsettled⟩

theorem SameDecision.holds {cycle : PaperCycle} {instrument : String}
    (same : SameDecision decisionId before after)
    (holds : cycle.Holds after instrument decisionId) :
    cycle.Holds before instrument decisionId := by
  refine ⟨?_, same.unsettled.mp holds.unsettled⟩
  rw [← same.record, ← same.state]
  exact holds.record

variable {ideas : List TradeIdea}

section

variable (proposes : ProposesAll env ideas before after)

include proposes

theorem ProposesAll.other (other : ∀ idea ∈ ideas, decisionId ≠ idea.decisionId) :
    SameDecision decisionId before after := by
  induction ideas generalizing before with
  | nil =>
      rw [proposes]
      exact ⟨rfl, rfl, rfl⟩
  | cons idea rest induction =>
      obtain ⟨middle, first, others⟩ := proposes
      exact (first.other (other idea (by simp))).trans
        (induction others fun later member => other later (by simp [member]))

theorem ProposesAll.member (distinct : (ideas.map TradeIdea.decisionId).Nodup)
    (member : idea ∈ ideas) :
    after.record? idea.decisionId = some idea ∧
      after.audit.currentState idea.decisionId = some .proposed := by
  induction ideas generalizing before with
  | nil => cases member
  | cons first rest induction =>
      obtain ⟨middle, proposed, others⟩ := proposes
      obtain ⟨fresh, distinct⟩ := List.nodup_cons.mp distinct
      rcases List.mem_cons.mp member with rfl | member
      · have same : SameDecision idea.decisionId middle after :=
          others.other fun later member same =>
            fresh (List.mem_map.mpr ⟨later, member, same.symm⟩)
        exact ⟨same.record.trans proposed.record, same.state.trans proposed.state⟩
      · exact induction others distinct member

theorem ProposesAll.latest
    (stored : (before.latest.get? decisionId).isSome ∨
      decisionId ∈ ideas.map TradeIdea.decisionId) :
    (after.latest.get? decisionId).isSome := by
  induction ideas generalizing before with
  | nil =>
      rw [proposes]
      simpa using stored
  | cons idea rest induction =>
      obtain ⟨middle, first, others⟩ := proposes
      apply induction others
      rw [first.latest, Dict.get?_set]
      rw [List.map_cons, List.mem_cons] at stored
      split
      · exact .inl rfl
      · tauto

end

namespace ServiceTx

variable {state reached : ServiceState} {actorType : ActorType}
variable {attribution : Attribution} {evidence : List String}

theorem saveRecord_eq_ok {result : Unit}
    (returned : saveRecord env idea state = (.ok result, reached)) :
    reached = { state with store := state.store.saved env idea } ∧
      (state.store.saved env idea).versions.get?
        (idea.decisionId, env.recordHash idea) = some idea := by
  unfold saveRecord at returned
  rw [alter_apply] at returned
  have stored : (state.store.saved env idea).versions =
      if (state.store.versions.get? (idea.decisionId, env.recordHash idea)).isSome
      then state.store.versions
      else state.store.versions.set (idea.decisionId, env.recordHash idea) idea :=
    rfl
  cases found : state.store.versions.get?
      (idea.decisionId, env.recordHash idea) with
  | none =>
      rw [found] at returned stored
      cases returned
      refine ⟨rfl, ?_⟩
      rw [stored, Option.isSome_none, if_neg Bool.false_ne_true, Dict.get?_set,
        if_pos rfl]
  | some prior =>
      rw [found] at returned stored
      dsimp only at returned
      by_cases same : prior = idea
      · rw [if_pos same] at returned
        cases returned
        refine ⟨rfl, ?_⟩
        rw [stored, Option.isSome_some, if_pos rfl, found, same]
      · rw [if_neg same] at returned
        cases returned

theorem recordProposal_proposes {view : TradeIdeaView}
    (returned : recordProposal env idea actorType attribution evidence state =
      (.ok view, reached)) :
    Proposes env idea state.store reached.store ∧
      view.idea.decisionId = idea.decisionId := by
  unfold recordProposal at returned
  obtain ⟨_, saved, stored, returned⟩ := Tx.bind_eq_ok.mp returned
  obtain ⟨_, appended, recorded, returned⟩ := Tx.bind_eq_ok.mp returned
  obtain ⟨viewed, rfl⟩ := ask_eq_ok.mp returned
  obtain ⟨rfl, version⟩ := saveRecord_eq_ok stored
  obtain ⟨fits, rfl⟩ := appendAudit_eq_ok recorded
  refine ⟨?_, (TradeState.requireIdea_eq_ok
    (TradeState.view_eq_ok viewed).1).1⟩
  exact
    { latest := rfl
      version := version
      versions := by
        intro key other
        change (if (state.store.versions.get? (idea.decisionId,
            env.recordHash idea)).isSome then state.store.versions
          else state.store.versions.set (idea.decisionId, env.recordHash idea)
            idea).get? key = _
        split
        · rfl
        · rw [Dict.get?_set, if_neg]
          exact fun same => other (congrArg Prod.fst same)
      states := by
        intro decisionId
        change AuditLog.currentState (state.store.audit ++ [_]) decisionId = _
        rw [AuditLog.currentState_snoc]
        exact if_congr eq_comm rfl rfl
      closeouts := rfl }

theorem proposeEach_proposes {views : List TradeIdeaView}
    (returned : Tx.forEach ideas (fun idea =>
        propose env idea actorType attribution evidence) state =
      (.ok views, reached)) :
    ProposesAll env ideas state.store reached.store ∧
      views.map (fun view => view.idea.decisionId) =
        ideas.map TradeIdea.decisionId := by
  induction ideas generalizing state views with
  | nil =>
      cases returned
      exact ⟨rfl, rfl⟩
  | cons idea rest induction =>
      unfold Tx.forEach at returned
      obtain ⟨view, middle, proposed, returned⟩ := Tx.bind_eq_ok.mp returned
      obtain ⟨others, last, each, returned⟩ := Tx.bind_eq_ok.mp returned
      obtain ⟨rfl, rfl⟩ := Tx.pure_eq_ok.mp returned
      unfold propose at proposed
      obtain ⟨_, same, asked, recorded⟩ := Tx.bind_eq_ok.mp proposed
      obtain ⟨_, rfl⟩ := ask_eq_ok.mp asked
      obtain ⟨proposes, named⟩ := recordProposal_proposes recorded
      obtain ⟨all, ids⟩ := induction each
      refine ⟨⟨_, proposes, all⟩, ?_⟩
      rw [List.map_cons, List.map_cons, named, ids]

end ServiceTx

end Proposals

section Views

variable {env : TradeEnv} {store : TradeState} {decisionId : String}

theorem CloseoutAttributionLog.mem_of_get {log : CloseoutAttributionLog}
    {record : CloseoutAttribution} (read : log.get decisionId = .ok (some record)) :
    record ∈ log ∧ record.decisionId = decisionId := by
  unfold get at read
  obtain ⟨read, replayed, found⟩ := Outcome.bind_eq_ok.mp read
  have lines := Replay.replay_induction
    (fun lines (read : ℕ × Dict String CloseoutAttribution) =>
      ∀ id record, read.2.get? id = some record →
        record ∈ lines ∧ record.decisionId = id)
    (by simp) ?_ replayed
  · exact lines decisionId record (Except.ok.inj found)
  · intro lines earlier line next _ held accepted id record located
    unfold readRecord at accepted
    split at accepted
    · cases accepted
      rw [Dict.get?_set] at located
      split at located
      · next same =>
          cases located
          exact ⟨by simp, same.symm⟩
      · obtain ⟨member, named⟩ := held id record located
        exact ⟨by simp [member], named⟩
    · obtain ⟨_, returned⟩ := Outcome.branch_eq_ok.mp accepted
      cases returned
      obtain ⟨member, named⟩ := held id record located
      exact ⟨by simp [member], named⟩

theorem TradeState.record_of_required {idea : TradeIdea}
    (required : store.requireIdea env decisionId = .ok idea) :
    store.record? decisionId = some idea := by
  unfold requireIdea at required
  split at required
  · cases required
  · next recordHash latest =>
      obtain ⟨found, loaded, required⟩ := Outcome.bind_eq_ok.mp required
      obtain ⟨_, _, returned⟩ := Outcome.bind_eq_ok.mp required
      cases returned
      unfold record?
      rw [latest]
      exact (loadRecordVersion_eq_ok loaded).1

theorem TradeState.closeout_of_validated {idea : TradeIdea} {current : AuditEvent}
    {closeout : CloseoutAttribution}
    (validated : store.validatedCloseoutAttribution idea current =
      .ok (some closeout)) :
    store.closeouts.get idea.decisionId = .ok (some closeout) := by
  unfold validatedCloseoutAttribution at validated
  obtain ⟨found, read, validated⟩ := Outcome.bind_eq_ok.mp validated
  split at validated
  · cases validated
  · obtain ⟨_, validated⟩ := Outcome.branch_eq_ok.mp validated
    split at validated
    · cases validated
      exact read
    · cases validated

def TradeIdeaView.blocks (view : TradeIdeaView) : Prop :=
  view.state.inPipeline = true ∨
    (view.state = .filled ∧ view.idea.positionOperation = none ∧
      view.closeoutAttribution = none)

theorem PaperCycle.Holds.blocks {cycle : PaperCycle} {instrument : String}
    (holds : cycle.Holds store instrument decisionId) {view : TradeIdeaView}
    (viewed : store.view env decisionId = .ok view) :
    view.blocks ∧ cycle.casefold view.idea.instrument = instrument := by
  obtain ⟨required, _, last, found, state, validated⟩ :=
    TradeState.view_eq_ok viewed
  have record := TradeState.record_of_required required
  obtain ⟨idea, stored, named, opening⟩ := holds.record
  obtain rfl : view.idea = idea := Option.some.inj (record.symm.trans stored)
  have current : store.audit.currentState decisionId = some view.state := by
    unfold AuditLog.currentState
    rw [found, state]
    rfl
  refine ⟨?_, named⟩
  rcases holds.unsettled with ⟨state, shown, pending⟩ | ⟨filled, unattributed⟩
  · obtain rfl : view.state = state := Option.some.inj (current.symm.trans shown)
    exact .inl pending
  · refine .inr ⟨Option.some.inj (current.symm.trans filled), opening filled, ?_⟩
    cases closeout : view.closeoutAttribution with
    | none => rfl
    | some closeout =>
        rw [‹view.closeoutAttribution = _›] at validated
        obtain ⟨member, named⟩ := CloseoutAttributionLog.mem_of_get
          (TradeState.closeout_of_validated validated)
        rw [(TradeState.requireIdea_eq_ok required).1] at named
        exact absurd named (unattributed _ member)

theorem TradeState.view_of_listed {views : List TradeIdeaView}
    (listed : store.listViews env = .ok views)
    (stored : (store.latest.get? decisionId).isSome) :
    ∃ view ∈ views, store.view env decisionId = .ok view ∧
      view.idea.decisionId = decisionId := by
  have member : decisionId ∈ store.decisionIds :=
    (List.perm_insertionSort _ _).mem_iff.mpr (Dict.get?_isSome_iff.mp stored)
  obtain ⟨view, listed, viewed⟩ := Outcome.result_mem_mapM listed member
  exact ⟨view, listed, viewed,
    (requireIdea_eq_ok (view_eq_ok viewed).1).1⟩

end Views

namespace PaperCycle

variable {cycle : PaperCycle}

section Busy

theorem noteBusy_isSome {busy : Dict String BusyInstrument}
    {view : TradeIdeaView} {instrument : String} :
    ((cycle.noteBusy busy view).get? instrument).isSome ↔
      (busy.get? instrument).isSome ∨
        (view.blocks ∧ cycle.casefold view.idea.instrument = instrument) := by
  unfold noteBusy TradeIdeaView.blocks
  dsimp only
  split
  · next pending =>
      rw [Dict.get?_set]
      split
      · next same => simp [pending, same]
      · next other => simp [Ne.symm other]
  · next settled =>
      split
      · next awaiting =>
          split
          · next busy =>
              constructor
              · exact .inl
              · rintro (found | ⟨_, rfl⟩)
                · exact found
                · exact busy
          · rw [Dict.get?_set]
            split
            · next same => simp [awaiting, same]
            · next other => simp [Ne.symm other]
      · next resolved => simp [settled, resolved]

theorem busy_of_blocks {views : List TradeIdeaView}
    {busy : Dict String BusyInstrument} {instrument : String} :
    ((views.foldl cycle.noteBusy busy).get? instrument).isSome ↔
      (busy.get? instrument).isSome ∨ ∃ view ∈ views, view.blocks ∧
        cycle.casefold view.idea.instrument = instrument := by
  induction views generalizing busy with
  | nil => simp
  | cons view rest induction =>
      rw [List.foldl_cons, induction, noteBusy_isSome]
      simp only [List.mem_cons, exists_eq_or_imp, or_assoc]

end Busy

section Candidates

/-- What the candidate loop has admitted: new decisions, and openings on
instruments that were free, one for each. -/
structure Admits (cycle : PaperCycle) (known : List String)
    (busy : Dict String BusyInstrument) (admission : Admission) : Prop where
  knows : ∀ decisionId, decisionId ∈ admission.known ↔
    decisionId ∈ known ∨
      decisionId ∈ admission.admitted.map TradeIdea.decisionId
  fresh : ∀ idea ∈ admission.admitted, idea.decisionId ∉ known
  distinct : (admission.admitted.map TradeIdea.decisionId).Nodup
  occupied : ∀ instrument, (admission.busy.get? instrument).isSome ↔
    (busy.get? instrument).isSome ∨ ∃ idea ∈ admission.admitted,
      idea.positionOperation = none ∧ cycle.casefold idea.instrument = instrument
  free : ∀ idea ∈ admission.admitted, idea.positionOperation = none →
    busy.get? (cycle.casefold idea.instrument) = none
  alone : ∀ first ∈ admission.admitted, ∀ second ∈ admission.admitted,
    first.positionOperation = none → second.positionOperation = none →
      cycle.casefold first.instrument = cycle.casefold second.instrument →
        first = second

variable {known : List String} {busy : Dict String BusyInstrument}
variable {admission next : Admission} {idea : TradeIdea}

theorem Admits.start (known : List String)
    (busy : Dict String BusyInstrument) :
    Admits cycle known busy
      { known := known
        busy := busy
        admitted := []
        skipped := []
        skippedClosed := [] } where
  knows := by simp
  fresh := by simp
  distinct := by simp
  occupied := by simp
  free := by simp
  alone := by simp

theorem Admits.skipped (admits : Admits cycle known busy admission)
    (skipped : List OpenSkip) (closed : List ClosedSkip) :
    Admits cycle known busy
      { admission with
        skipped := skipped
        skippedClosed := closed } :=
  ⟨admits.knows, admits.fresh, admits.distinct, admits.occupied, admits.free,
    admits.alone⟩

/-- An idea on a free instrument may be admitted. -/
theorem Admits.admitIdea (admits : Admits cycle known busy admission)
    (unknown : idea.decisionId ∉ admission.known)
    (free : idea.positionOperation = none →
      admission.busy.get? (cycle.casefold idea.instrument) = none) :
    Admits cycle known busy (cycle.admitIdea admission idea) := by
  have fresh := mt (admits.knows idea.decisionId).mpr unknown
  obtain ⟨new, unadmitted⟩ := not_or.mp fresh
  -- A free instrument was free at the start and no admitted opening is on it.
  have clear : idea.positionOperation = none →
      busy.get? (cycle.casefold idea.instrument) = none ∧
        ∀ other ∈ admission.admitted, other.positionOperation = none →
          cycle.casefold other.instrument ≠ cycle.casefold idea.instrument := by
    intro opening
    have idle := mt (admits.occupied (cycle.casefold idea.instrument)).mpr
      (by simp [free opening])
    obtain ⟨first, others⟩ := not_or.mp idle
    refine ⟨by simpa using first, ?_⟩
    intro other member operation same
    exact others ⟨other, member, operation, same⟩
  constructor
  · intro decisionId
    change decisionId ∈ idea.decisionId :: admission.known ↔ decisionId ∈ known ∨
      decisionId ∈ (admission.admitted ++ [idea]).map TradeIdea.decisionId
    rw [List.mem_cons, admits.knows, List.map_append, List.mem_append,
      List.map_singleton, List.mem_singleton]
    tauto
  · intro other member
    rcases List.mem_append.mp member with earlier | last
    · exact admits.fresh other earlier
    · rw [List.mem_singleton.mp last]
      exact new
  · change ((admission.admitted ++ [idea]).map TradeIdea.decisionId).Nodup
    rw [List.map_append, List.map_singleton, ← List.concat_eq_append,
      List.nodup_concat]
    exact ⟨unadmitted, admits.distinct⟩
  · intro instrument
    change (Dict.get? (if idea.reducing then admission.busy
      else admission.busy.set _ _) instrument).isSome ↔ _ ∨
        ∃ other ∈ admission.admitted ++ [idea], _
    unfold TradeIdea.reducing
    cases operation : idea.positionOperation with
    | some target =>
        rw [Option.isSome_some, if_pos rfl, admits.occupied]
        simp [or_and_right, exists_or, operation]
    | none =>
        rw [Option.isSome_none, if_neg Bool.false_ne_true, Dict.get?_set]
        split
        · next same => simp [or_and_right, exists_or, operation, same]
        · next other =>
            rw [admits.occupied]
            simp [or_and_right, exists_or, operation, Ne.symm other]
  · intro other member opening
    rcases List.mem_append.mp member with earlier | last
    · exact admits.free other earlier opening
    · rw [List.mem_singleton.mp last] at opening ⊢
      exact (clear opening).1
  · intro first left second right opening counter same
    rcases List.mem_append.mp left with earlier | last
    · rcases List.mem_append.mp right with later | last
      · exact admits.alone first earlier second later opening counter same
      · obtain rfl := List.mem_singleton.mp last
        exact absurd same ((clear counter).2 first earlier opening)
    · obtain rfl := List.mem_singleton.mp last
      rcases List.mem_append.mp right with earlier | last
      · exact absurd same.symm ((clear opening).2 second earlier counter)
      · exact (List.mem_singleton.mp last).symm

theorem Admits.consider {store : TradeState} {moment : ℤ}
    (admits : Admits cycle known busy admission)
    (considered : cycle.consider store moment admission idea = .ok next) :
    Admits cycle known busy next := by
  unfold PaperCycle.consider at considered
  split at considered
  · cases considered
    exact admits.skipped _ _
  · next unknown =>
      split at considered
      · cases considered
        exact admits.skipped _ _
      · split at considered
        · next operation targeted =>
            obtain ⟨violations, _, considered⟩ :=
              Outcome.bind_eq_ok.mp considered
            split at considered
            · cases considered
              exact admits.admitIdea unknown fun opening => by
                rw [targeted] at opening
                cases opening
            · cases considered
              exact admits.skipped _ _
        · split at considered
          · cases considered
            exact admits.skipped _ _
          · next free =>
              cases considered
              exact admits.admitIdea unknown fun _ => free

section

variable {store : TradeState} {moment : ℤ} {candidates : List TradeIdea}
variable (found : cycle.admissionOf moment candidates store = .ok admission)

include store moment candidates found

theorem admissionOf_admits :
    ∃ views, store.listViews cycle.env = .ok views ∧
      Admits cycle (views.map fun view => view.idea.decisionId)
        (views.foldl cycle.noteBusy Dict.empty) admission := by
  unfold admissionOf busyInstruments at found
  obtain ⟨busy, mapped, found⟩ := Outcome.bind_eq_ok.mp found
  obtain ⟨views, listed, returned⟩ := Outcome.bind_eq_ok.mp mapped
  cases returned
  obtain ⟨again, relisted, folded⟩ := Outcome.bind_eq_ok.mp found
  obtain rfl : views = again := Except.ok.inj (listed.symm.trans relisted)
  refine ⟨views, listed, Outcome.foldlM_induction (Admits cycle _ _)
    (Admits.start _ _) ?_ folded⟩
  intro admission idea next admits considered
  exact admits.consider considered

theorem not_holds_of_admitted (admitted : idea ∈ admission.admitted)
    (opening : idea.positionOperation = none) (decisionId : String) :
    ¬ cycle.Holds store (cycle.casefold idea.instrument) decisionId := by
  intro holds
  obtain ⟨views, listed, admits⟩ := admissionOf_admits found
  have stored : (store.latest.get? decisionId).isSome := by
    obtain ⟨record, recorded, _⟩ := holds.record
    unfold TradeState.record? at recorded
    obtain ⟨recordHash, latest, _⟩ := Option.bind_eq_some_iff.mp recorded
    rw [latest]
    rfl
  obtain ⟨view, member, viewed, _⟩ := TradeState.view_of_listed listed stored
  have busy : ((views.foldl cycle.noteBusy Dict.empty).get?
      (cycle.casefold idea.instrument)).isSome :=
    busy_of_blocks.mpr (.inr ⟨view, member, holds.blocks viewed⟩)
  rw [admits.free idea admitted opening] at busy
  cases busy

end

end Candidates

end PaperCycle

end GptTrader
