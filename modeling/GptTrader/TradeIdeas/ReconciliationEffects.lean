import GptTrader.Library.AlignedDicts
import GptTrader.TradeIdeas.PaperReconciliation
import GptTrader.TradeIdeas.CycleExposure

/-!
# What recording a matched fill does

A submission and a fill append one event each.  The view of their decision gets
the event and its state, every other view stays as it is.  For an opening the
service never refuses them; a reduction needs its admitted intent and a filled
receipt that the event repeats.
-/

namespace GptTrader

def TradeState.appending (store : TradeState) (event : AuditEvent) : TradeState :=
  { store with audit := store.audit ++ [event] }

def TradeIdeaView.appending (view : TradeIdeaView) (event : AuditEvent) :
    TradeIdeaView :=
  { view with
    state := event.afterState
    events := view.events ++ [event] }

section Views

variable {env : TradeEnv} {store : TradeState} {event : AuditEvent}
variable {decisionId : String} {view : TradeIdeaView}

theorem loadRecordVersion_appending (recordHash : String) :
    (store.appending event).loadRecordVersion env decisionId recordHash =
      store.loadRecordVersion env decisionId recordHash :=
  rfl

theorem closeout_appending (idea : TradeIdea) (current : AuditEvent) :
    (store.appending event).validatedCloseoutAttribution idea current =
      store.validatedCloseoutAttribution idea current :=
  rfl

theorem view_appending_of_ne (other : event.decisionId ≠ decisionId) :
    (store.appending event).view env decisionId = store.view env decisionId := by
  have last : ∀ id, event.decisionId ≠ id →
      (store.appending event).audit.lastEvent id = store.audit.lastEvent id := by
    intro id apart
    exact (AuditLog.lastEvent_snoc).trans (if_neg apart)
  have events : (store.appending event).audit.eventsOf decisionId =
      store.audit.eventsOf decisionId :=
    AuditLog.eventsOf_snoc.trans (if_neg other)
  have required : (store.appending event).requireIdea env decisionId =
      store.requireIdea env decisionId := by
    unfold TradeState.requireIdea
    have recorded : (store.appending event).latest = store.latest := rfl
    rw [recorded]
    cases store.latest.get? decisionId with
    | none => rfl
    | some recordHash =>
        dsimp only
        rw [loadRecordVersion_appending]
        cases loaded : store.loadRecordVersion env decisionId recordHash with
        | error error => rfl
        | ok idea =>
            have named := (TradeState.loadRecordVersion_eq_ok loaded).2.1
            dsimp only [bind, Except.bind]
            unfold TradeState.verifyLatestRecordIsAudited
            rw [last idea.decisionId (by rw [named]; exact other)]
  unfold TradeState.view
  rw [required, last decisionId other, events]
  rfl

theorem view_appending_self
    (viewed : store.view env decisionId = .ok view)
    (waiting : view.state.terminal = false)
    (named : event.decisionId = decisionId)
    (hashed : event.recordHash = env.recordHash view.idea) :
    (store.appending event).view env decisionId = .ok (view.appending event) := by
  obtain ⟨required, events, last, found, state, validated⟩ :=
    TradeState.view_eq_ok viewed
  have same := (TradeState.requireIdea_eq_ok required).1
  have latest : (store.appending event).audit.lastEvent decisionId = some event :=
    AuditLog.lastEvent_snoc.trans (if_pos named)
  -- An open idea has no closeout, so its next view has none either.
  have unattributed : store.closeouts.get view.idea.decisionId = .ok none ∧
      view.closeoutAttribution = none := by
    unfold TradeState.validatedCloseoutAttribution at validated
    obtain ⟨closeout, read, validated⟩ := Outcome.bind_eq_ok.mp validated
    cases closeout with
    | none => exact ⟨read, (Except.ok.inj validated).symm⟩
    | some closeout =>
        rw [state] at waiting
        dsimp only at validated
        rw [waiting, if_neg Bool.false_ne_true] at validated
        cases validated
  have again : (store.appending event).requireIdea env decisionId =
      .ok view.idea := by
    unfold TradeState.requireIdea at required ⊢
    have recorded : (store.appending event).latest = store.latest := rfl
    rw [recorded]
    cases latestHash : store.latest.get? decisionId with
    | none =>
        rw [latestHash] at required
        cases required
    | some recordHash =>
        rw [latestHash] at required
        obtain ⟨idea, loaded, required⟩ := Outcome.bind_eq_ok.mp required
        obtain ⟨_, _, returned⟩ := Outcome.bind_eq_ok.mp required
        cases returned
        dsimp only
        rw [loadRecordVersion_appending, loaded]
        dsimp only [bind, Except.bind]
        unfold TradeState.verifyLatestRecordIsAudited
        rw [same, latest]
        dsimp only
        rw [if_pos hashed.symm]
  unfold TradeState.view
  rw [again, latest]
  dsimp only [bind, Except.bind]
  rw [closeout_appending]
  unfold TradeState.validatedCloseoutAttribution
  rw [unattributed.1]
  dsimp only [bind, Except.bind]
  have extended : (store.appending event).audit.eventsOf decisionId =
      view.events ++ [event] := by
    rw [events]
    exact AuditLog.eventsOf_snoc.trans (if_pos named)
  rw [extended]
  unfold TradeIdeaView.appending
  rw [unattributed.2]

end Views

/-- A view and its store once one event was recorded on the decision. -/
structure Extends (env : TradeEnv) (decisionId : String)
    (view later : TradeIdeaView) (before after : TradeState)
    (event : AuditEvent) : Prop where
  named : event.decisionId = decisionId
  stored : after = before.appending event
  appended : later = view.appending event
  viewed : after.view env decisionId = .ok later

namespace ServiceTx

variable {env : TradeEnv} {state reached : ServiceState} {decisionId : String}
variable {view later : TradeIdeaView} {actorType : ActorType}
variable {attribution : Attribution} {order : VenueOrder}
variable {evidence : List String}

def venueEvent (env : TradeEnv) (state : ServiceState) (view : TradeIdeaView)
    (action : AuditAction) (actorType : ActorType) (attribution : Attribution)
    (order : VenueOrder) (evidence : List String) : AuditEvent :=
  auditEvent env state view.idea action actorType attribution.actorId
    attribution.reason evidence order.venue order.externalOrderId

theorem extends_of_allowed (action : AuditAction) (actorType : ActorType)
    (attribution : Attribution) (order : VenueOrder) (evidence : List String)
    (viewed : state.store.view env decisionId = .ok view)
    (allowed : action.afterState ∈ view.state.allowedTransitions) :
    let event := venueEvent env state view action actorType attribution order
      evidence
    appendAudit env view.idea action actorType attribution.actorId
        attribution.reason evidence order.venue order.externalOrderId state =
      (.ok (), withAudit state (state.store.audit ++ [event])) ∧
    Extends env decisionId view (view.appending event) state.store
      (withAudit state (state.store.audit ++ [event])).store event := by
  intro event
  obtain ⟨required, _, last, found, shown, _⟩ := TradeState.view_eq_ok viewed
  have named := (TradeState.requireIdea_eq_ok required).1
  have waiting : view.state.terminal = false := by
    unfold TradeIdeaState.terminal
    cases transitions : view.state.allowedTransitions with
    | nil =>
        rw [transitions] at allowed
        cases allowed
    | cons next rest => rfl
  have fits : AuditLog.Fits state.store.audit event := by
    refine ⟨rfl, rfl, ?_⟩
    change Allowed (state.store.audit.currentState view.idea.decisionId)
      action.afterState
    unfold AuditLog.currentState
    rw [named, found, Option.map_some, ← shown]
    exact allowed
  have hashed : event.recordHash = env.recordHash view.idea := rfl
  refine ⟨?_, named, rfl, rfl, view_appending_self viewed waiting named hashed⟩
  have appended : state.store.audit.append (auditEvent env state view.idea action
      actorType attribution.actorId attribution.reason evidence order.venue
      order.externalOrderId) = .ok (state.store.audit ++ [event]) :=
    AuditLog.append_eq_ok.mpr ⟨fits, rfl⟩
  rw [appendAudit_apply, appended]

section

variable (viewed : state.store.view env decisionId = .ok view)

include viewed

theorem recordSubmission_eq_ok (approved : view.state = .approved)
    (returned : recordSubmission env decisionId actorType attribution order
      evidence state = (.ok later, reached)) :
    Extends env decisionId view later state.store reached.store
      (venueEvent env state view .submitted actorType attribution order
        evidence) := by
  have required := (TradeState.view_eq_ok viewed).1
  unfold recordSubmission at returned
  obtain ⟨_, _, lifted, returned⟩ := Tx.bind_eq_ok.mp returned
  obtain ⟨_, rfl⟩ := lift_eq_ok.mp lifted
  obtain ⟨idea, _, asked, returned⟩ := Tx.bind_eq_ok.mp returned
  obtain ⟨again, rfl⟩ := ask_eq_ok.mp asked
  obtain rfl : view.idea = idea := Except.ok.inj (required.symm.trans again)
  obtain ⟨_, _, asked, returned⟩ := Tx.bind_eq_ok.mp returned
  obtain ⟨_, rfl⟩ := ask_eq_ok.mp asked
  obtain ⟨recorded, extended⟩ := extends_of_allowed .submitted actorType
    attribution order evidence viewed (by rw [approved]; decide)
  obtain ⟨_, _, appended, returned⟩ := Tx.bind_eq_ok.mp returned
  rw [recorded] at appended
  cases appended
  obtain ⟨shown, rfl⟩ := ask_eq_ok.mp returned
  rw [extended.viewed] at shown
  rw [← Except.ok.inj shown]
  exact extended

theorem recordFill_eq_ok (submitted : view.state = .submitted)
    (returned : recordFill env decisionId actorType attribution order
      evidence state = (.ok later, reached)) :
    Extends env decisionId view later state.store reached.store
      (venueEvent env state view .filled actorType attribution order
        evidence) := by
  have required := (TradeState.view_eq_ok viewed).1
  unfold recordFill at returned
  obtain ⟨_, _, lifted, returned⟩ := Tx.bind_eq_ok.mp returned
  obtain ⟨_, rfl⟩ := lift_eq_ok.mp lifted
  obtain ⟨idea, _, asked, returned⟩ := Tx.bind_eq_ok.mp returned
  obtain ⟨again, rfl⟩ := ask_eq_ok.mp asked
  obtain rfl : view.idea = idea := Except.ok.inj (required.symm.trans again)
  obtain ⟨_, _, asked, returned⟩ := Tx.bind_eq_ok.mp returned
  obtain ⟨_, rfl⟩ := ask_eq_ok.mp asked
  obtain ⟨recorded, extended⟩ := extends_of_allowed .filled actorType
    attribution order evidence viewed (by rw [submitted]; decide)
  obtain ⟨_, _, appended, returned⟩ := Tx.bind_eq_ok.mp returned
  rw [recorded] at appended
  cases appended
  obtain ⟨shown, _, asked, returned⟩ := Tx.bind_eq_ok.mp returned
  obtain ⟨reread, rfl⟩ := ask_eq_ok.mp asked
  obtain ⟨_, _, lifted, returned⟩ := Tx.bind_eq_ok.mp returned
  obtain ⟨_, rfl⟩ := lift_eq_ok.mp lifted
  obtain ⟨rfl, rfl⟩ := Tx.pure_eq_ok.mp returned
  rw [extended.viewed] at reread
  rw [← Except.ok.inj reread]
  exact extended

theorem recordSubmission_returns (approved : view.state = .approved)
    (valid : validateAuditVenue order.venue = .ok ())
    (intent : view.idea.reducing = true →
      requirePaperIntent env view.idea order.venue state.store = .ok ()) :
    let event := venueEvent env state view .submitted actorType attribution
      order evidence
    recordSubmission env decisionId actorType attribution order evidence state =
      (.ok (view.appending event),
        withAudit state (state.store.audit ++ [event])) := by
  intro event
  have required := (TradeState.view_eq_ok viewed).1
  obtain ⟨recorded, extended⟩ := extends_of_allowed .submitted actorType
    attribution order evidence viewed (by rw [approved]; decide)
  have admitted : (if view.idea.reducing then
      requirePaperIntent env view.idea order.venue state.store
    else .ok ()) = .ok () := by
    split
    · next reducing => exact intent reducing
    · rfl
  unfold recordSubmission
  rw [Tx.bind_eq_ok]
  refine ⟨(), state, lift_eq_ok.mpr ⟨valid, rfl⟩, ?_⟩
  rw [Tx.bind_eq_ok]
  refine ⟨view.idea, state, ask_eq_ok.mpr ⟨required, rfl⟩, ?_⟩
  rw [Tx.bind_eq_ok]
  refine ⟨(), state, ask_eq_ok.mpr ⟨admitted, rfl⟩, ?_⟩
  rw [Tx.bind_eq_ok]
  exact ⟨(), _, recorded, ask_eq_ok.mpr ⟨extended.viewed, rfl⟩⟩

theorem recordFill_returns (submitted : view.state = .submitted)
    (valid : validateAuditVenue order.venue = .ok ())
    (receipt : view.idea.reducing = true → ∃ receipt,
      requirePaperReceipt env view.idea order.venue state.store = .ok receipt ∧
        requireFillMatches env (view.appending (venueEvent env state view .filled
          actorType attribution order evidence)) receipt = .ok ()) :
    let event := venueEvent env state view .filled actorType attribution order
      evidence
    recordFill env decisionId actorType attribution order evidence state =
      (.ok (view.appending event),
        withAudit state (state.store.audit ++ [event])) := by
  intro event
  have required := (TradeState.view_eq_ok viewed).1
  obtain ⟨recorded, extended⟩ := extends_of_allowed .filled actorType
    attribution order evidence viewed (by rw [submitted]; decide)
  have admitted : ∃ receipt, (if view.idea.reducing then
        (requirePaperReceipt env view.idea order.venue state.store).map some
      else .ok none) = .ok receipt ∧
      ∀ found ∈ receipt, requireFillMatches env (view.appending (venueEvent env
        state view .filled actorType attribution order evidence)) found = .ok () := by
    split
    · next reducing =>
        obtain ⟨found, read, confirmed⟩ := receipt reducing
        refine ⟨some found, by rw [read]; rfl, ?_⟩
        rintro _ ⟨⟩
        exact confirmed
    · exact ⟨none, rfl, by simp⟩
  obtain ⟨found, asked, confirmed⟩ := admitted
  unfold recordFill
  rw [Tx.bind_eq_ok]
  refine ⟨(), state, lift_eq_ok.mpr ⟨valid, rfl⟩, ?_⟩
  rw [Tx.bind_eq_ok]
  refine ⟨view.idea, state, ask_eq_ok.mpr ⟨required, rfl⟩, ?_⟩
  rw [Tx.bind_eq_ok]
  refine ⟨found, state, ask_eq_ok.mpr ⟨asked, rfl⟩, ?_⟩
  rw [Tx.bind_eq_ok]
  refine ⟨(), _, recorded, ?_⟩
  rw [Tx.bind_eq_ok]
  refine ⟨_, _, ask_eq_ok.mpr ⟨extended.viewed, rfl⟩, ?_⟩
  rw [Tx.bind_eq_ok]
  refine ⟨(), _, lift_eq_ok.mpr ⟨?_, rfl⟩, Tx.pure_eq_ok.mpr ⟨rfl, rfl⟩⟩
  cases found with
  | none => rfl
  | some receipt => exact confirmed receipt rfl

end

end ServiceTx

/-- A view that only grew, in a store where nothing else did. -/
structure Grown (env : TradeEnv) (decisionId : String)
    (view later : TradeIdeaView) (before after : TradeState) : Prop where
  idea : later.idea = view.idea
  events : view.events <+: later.events
  viewed : after.view env decisionId = .ok later
  others : ∀ other, decisionId ≠ other →
    after.view env other = before.view env other
  decisions : after.decisionIds = before.decisionIds
  journal : after.journal = before.journal

section Growth

variable {env : TradeEnv} {decisionId : String}
variable {view middle later : TradeIdeaView}
variable {before between after : TradeState}

theorem Grown.refl (viewed : before.view env decisionId = .ok view) :
    Grown env decisionId view view before before :=
  ⟨rfl, List.prefix_refl _, viewed, fun _ _ => rfl, rfl, rfl⟩

theorem Grown.trans (first : Grown env decisionId view middle before between)
    (second : Grown env decisionId middle later between after) :
    Grown env decisionId view later before after where
  idea := second.idea.trans first.idea
  events := first.events.trans second.events
  viewed := second.viewed
  others := fun other apart =>
    (second.others other apart).trans (first.others other apart)
  decisions := second.decisions.trans first.decisions
  journal := second.journal.trans first.journal

theorem Extends.grown {event : AuditEvent}
    (extended : Extends env decisionId view later before after event) :
    Grown env decisionId view later before after := by
  obtain ⟨rfl, rfl, rfl, viewed⟩ := extended
  exact
    { idea := rfl
      events := List.prefix_append _ _
      viewed := viewed
      others := fun _ apart => view_appending_of_ne apart
      decisions := rfl
      journal := rfl }

end Growth

namespace PaperReconciliation

variable {env : TradeEnv} {reconciler : Reconciler} {event : PaperFillEvent}
variable {decisionId : String} {view : TradeIdeaView} {method : MatchMethod}
variable {state reached : ServiceState} {pass next : Pass} {entry : Entry}

theorem transaction_eq_ok {α : Type} {body : ServiceTx α} {value : α} :
    Tx.transaction ServiceState.rollback body state = (.ok value, reached) ↔
      body state = (.ok value, reached) := by
  unfold Tx.transaction
  match body state with
  | (.ok result, last) => rfl
  | (.error error, last) => simp

theorem submitApproved_eq_ok
    (viewed : state.store.view env decisionId = .ok view)
    (waiting : recordable view = true)
    (returned : submitApproved env reconciler event decisionId view state =
      (.ok (), reached)) :
    ∃ middle, Grown env decisionId view middle state.store reached.store ∧
      middle.state = .submitted := by
  unfold submitApproved at returned
  split at returned
  · next approved =>
      obtain ⟨later, _, submitted, returned⟩ := Tx.bind_eq_ok.mp returned
      obtain ⟨_, rfl⟩ := Tx.pure_eq_ok.mp returned
      have extended := ServiceTx.recordSubmission_eq_ok viewed approved
        (transaction_eq_ok.mp submitted)
      refine ⟨later, extended.grown, ?_⟩
      rw [extended.appended]
      rfl
  · next unapproved =>
      obtain ⟨_, rfl⟩ := Tx.pure_eq_ok.mp returned
      refine ⟨view, .refl viewed, ?_⟩
      unfold recordable at waiting
      exact (of_decide_eq_true waiting).resolve_left unapproved

/-- What an applied match leaves. -/
structure Fills (env : TradeEnv) (event : PaperFillEvent) (decisionId : String)
    (view filled : TradeIdeaView) (before after : TradeState) : Prop where
  grown : Grown env decisionId view filled before after
  state : filled.state = .filled
  audited : ∃ audited ∈ filled.events, audited.action = .filled ∧
    audited.externalOrderId = event.externalOrderId

def Pass.filling (pass : Pass) (event : PaperFillEvent) (decisionId : String)
    (filled : TradeIdeaView) : Pass :=
  ({ pass with views := pass.views.set decisionId filled } : Pass).noted event

theorem recordMatch_eq_ok
    (viewed : state.store.view env decisionId = .ok view)
    (waiting : recordable view = true)
    (returned : recordMatch env reconciler true pass event decisionId method view
      state = (.ok (next, entry), reached)) :
    ∃ filled, Fills env event decisionId view filled state.store reached.store ∧
      next = pass.filling event decisionId filled ∧
      entry = matchedEntry event decisionId method
        (decide (view.state = .approved)) true .filled := by
  unfold recordMatch at returned
  rw [if_pos rfl] at returned
  obtain ⟨_, between, submitted, returned⟩ := Tx.bind_eq_ok.mp returned
  obtain ⟨middle, submission, sent⟩ :=
    submitApproved_eq_ok viewed waiting submitted
  obtain ⟨filled, _, confirmed, returned⟩ := Tx.bind_eq_ok.mp returned
  obtain ⟨same, rfl⟩ := Tx.pure_eq_ok.mp returned
  have extended := ServiceTx.recordFill_eq_ok submission.viewed sent
    (transaction_eq_ok.mp confirmed)
  have ended : filled.state = .filled := by
    rw [extended.appended]
    rfl
  obtain ⟨rfl, rfl⟩ := Prod.mk.inj same
  refine ⟨filled, ⟨submission.trans extended.grown, ended, ?_⟩, rfl, ?_⟩
  · have member : ∀ audited, filled = middle.appending audited →
        audited ∈ filled.events := by
      rintro audited rfl
      exact List.mem_append_right _ (List.mem_singleton_self _)
    exact ⟨_, member _ extended.appended, rfl, rfl⟩
  · rw [ended]

end PaperReconciliation

end GptTrader
