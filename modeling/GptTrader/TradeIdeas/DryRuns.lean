import GptTrader.TradeIdeas.CycleRuns
import GptTrader.TradeIdeas.ReconciliationRuns

/-!
# What a dry run says of the applied run

A dry pass keeps the views it started with and remembers the ideas it would
fill; the applied pass shows those ideas filled and the others unchanged.  Every
event is matched alike in both, so an applied run can only stop where the
service refuses to record a matched reduction.
-/

namespace GptTrader

namespace PaperReconciliation

/-- A view in a dry pass and in the applied one. -/
structure Mirrors (previewed : List String) (dry applied : TradeIdeaView) :
    Prop where
  idea : applied.idea = dry.idea
  same : dry.idea.decisionId ∉ previewed → applied = dry
  filled : dry.idea.decisionId ∈ previewed → applied.state = .filled

/-- A dry pass and the applied pass over the same events. -/
structure Rehearses (dry applied : Pass) : Prop where
  views : Dict.Aligned (Mirrors dry.previewFilled) dry.views applied.views
  named : ∀ decisionId view, dry.views.get? decisionId = some view →
    view.idea.decisionId = decisionId
  audited : applied.auditedOrderIds = dry.auditedOrderIds
  unpreviewed : applied.previewFilled = []

/-- The same classification.  The final state of a payload conflict is compared
unless the list matched its idea before. -/
structure SameVerdict (previewed : List String) (dry applied : Entry) : Prop where
  event : applied.event = dry.event
  status : applied.status = dry.status
  decisionId : applied.decisionId = dry.decisionId
  matchMethod : applied.matchMethod = dry.matchMethod
  finalState :
    (dry.context = [] ∨ ∀ decisionId, dry.decisionId = some decisionId →
      decisionId ∉ previewed) →
    applied.finalState = dry.finalState

/-- The decisions a dry run says it would fill. -/
def Entry.previews (entry : Entry) (previewed : List String) : List String :=
  match entry.status, entry.decisionId with
  | .matched, some decisionId => decisionId :: previewed
  | _, _ => previewed

theorem previews_of_unmatched {entry : Entry} {previewed : List String}
    (unmatched : entry.status ≠ .matched) : entry.previews previewed = previewed := by
  unfold Entry.previews
  split
  · next matched _ => exact absurd matched unmatched
  · rfl

/-- The entries of a dry run and of an applied run, event by event. -/
inductive Agrees : List String → List Entry → List Entry → Prop where
  | nil {previewed : List String} : Agrees previewed [] []
  | cons {previewed : List String} {dry applied : Entry}
      {dries others : List Entry}
      (verdict : SameVerdict previewed dry applied)
      (rest : Agrees (dry.previews previewed) dries others) :
      Agrees previewed (dry :: dries) (applied :: others)

section Matching

variable {env : TradeEnv} {dry applied : Pass} {event : PaperFillEvent}
variable {previewed : List String} {first second : TradeIdeaView}
variable {decisionId : String} {method : MatchMethod}

theorem Mirrors.conflict (env : TradeEnv) (event : PaperFillEvent)
    (mirrors : Mirrors previewed first second) :
    matchedPayloadConflict env second event =
      matchedPayloadConflict env first event := by
  unfold matchedPayloadConflict symbolMatches sideMatches expectedSide
  rw [mirrors.idea]

theorem context_of_conflict {reason : String}
    {context : List (String × Option String)}
    (conflict : matchedPayloadConflict env first event = some (reason, context)) :
    context ≠ [] := by
  unfold matchedPayloadConflict at conflict
  split_ifs at conflict
  · cases conflict
    exact List.cons_ne_nil _ _
  · cases conflict
    exact List.cons_ne_nil _ _

theorem Rehearses.candidates (rehearses : Rehearses dry applied) :
    symbolSideMatches env applied event = symbolSideMatches env dry event := by
  unfold symbolSideMatches recordableViews
  rw [rehearses.unpreviewed]
  congr 1
  refine filter_eq_of_forall₂ rehearses.views.values ?_
  intro first second mirrors
  by_cases previewed : first.idea.decisionId ∈ dry.previewFilled
  · have ended := recordable_of_filled (mirrors.filled previewed)
    simp [ended, previewed]
  · obtain rfl := mirrors.same previewed
    simp [previewed]

theorem Rehearses.matched_alike (env : TradeEnv) (event : PaperFillEvent)
    (rehearses : Rehearses dry applied) :
    matchEvent env applied event = matchEvent env dry event := by
  rcases matchEvent_cases env dry event with keyed | legacy
  · exact (keyed applied rehearses.views.keys).1
  · rw [legacy, legacy, rehearses.candidates]

theorem Rehearses.settle_fresh (env : TradeEnv) (event : PaperFillEvent)
    (method : MatchMethod) (view : TradeIdeaView)
    (rehearses : Rehearses dry applied)
    (fresh : decisionId ∉ dry.previewFilled) :
    settle env applied event decisionId method view =
      settle env dry event decisionId method view := by
  have unlisted : decisionId ∉ applied.previewFilled := by
    rw [rehearses.unpreviewed]
    exact List.not_mem_nil
  have recorded : alreadyReconciled applied view event method =
      alreadyReconciled dry view event method := by
    unfold alreadyReconciled
    rw [rehearses.audited]
  unfold settle
  rw [recorded]
  simp only [if_neg unlisted, if_neg fresh]

theorem sameVerdict_settled {status : EntryStatus} {before after : String}
    {shown reached : TradeIdeaState} {context : List (String × Option String)}
    (states : context = [] ∨ decisionId ∉ previewed → reached = shown) :
    SameVerdict previewed
      (.settled event status before decisionId method shown context)
      (.settled event status after decisionId method reached context) := by
  refine ⟨rfl, rfl, rfl, rfl, ?_⟩
  intro comparable
  refine congrArg some (states ?_)
  exact comparable.imp id fun unmatched => unmatched decisionId rfl

theorem SameVerdict.refl (entry : Entry) : SameVerdict previewed entry entry :=
  ⟨rfl, rfl, rfl, rfl, fun _ => rfl⟩

theorem Rehearses.settle_again (env : TradeEnv) (event : PaperFillEvent)
    (method : MatchMethod) (rehearses : Rehearses dry applied)
    (again : decisionId ∈ dry.previewFilled)
    (mirrors : Mirrors dry.previewFilled first second)
    (ended : second.state = .filled) :
    ∃ dryEntry entry,
      settle env dry event decisionId method first = some dryEntry ∧
        settle env applied event decisionId method second = some entry ∧
        SameVerdict dry.previewFilled dryEntry entry := by
  have unlisted : decisionId ∉ applied.previewFilled := by
    rw [rehearses.unpreviewed]
    exact List.not_mem_nil
  have conflicts := mirrors.conflict env event
  have alike : (if method = .symbolSide then none
      else matchedPayloadConflict env second event) =
      if method = .symbolSide then none
      else matchedPayloadConflict env first event := by
    rw [conflicts]
  unfold settle
  dsimp only
  rw [alike]
  cases found : (if method = .symbolSide then none
      else matchedPayloadConflict env first event) with
  | some conflict =>
      obtain ⟨reason, context⟩ := conflict
      refine ⟨_, _, rfl, rfl, sameVerdict_settled ?_⟩
      split at found
      · cases found
      · intro comparable
        rcases comparable with blank | fresh
        · exact absurd blank (context_of_conflict found)
        · exact absurd again fresh
  | none =>
      dsimp only
      rw [if_pos again, if_neg unlisted, ended]
      split
      · exact ⟨_, _, rfl, rfl, sameVerdict_settled fun _ => rfl⟩
      · rw [if_pos rfl]
        exact ⟨_, _, rfl, rfl, sameVerdict_settled fun _ => rfl⟩

end Matching

section Events

variable {env : TradeEnv} {reconciler : Reconciler} {event : PaperFillEvent}
variable {dry applied next : Pass} {entry : Entry}
variable {state reached : ServiceState}

/-- How both passes judge an event. -/
inductive Rehearsal (env : TradeEnv) (dry applied : Pass)
    (event : PaperFillEvent) : Prop where
  | missing {reason : String}
      (rehearsed : matchEvent env dry event = .missing reason)
      (matched : matchEvent env applied event = .missing reason)
  | settled {decisionId : String} {method : MatchMethod} {reason : String}
      {first second : TradeIdeaView} {dryEntry entry : Entry}
      (rehearsed : matchEvent env dry event = .found decisionId method reason)
      (matched : matchEvent env applied event = .found decisionId method reason)
      (shown : dry.views.get? decisionId = some first)
      (found : applied.views.get? decisionId = some second)
      (settledDry : settle env dry event decisionId method first = some dryEntry)
      (settled : settle env applied event decisionId method second = some entry)
      (verdict : SameVerdict dry.previewFilled dryEntry entry)
  | fresh {decisionId : String} {method : MatchMethod} {reason : String}
      {view : TradeIdeaView}
      (rehearsed : matchEvent env dry event = .found decisionId method reason)
      (matched : matchEvent env applied event = .found decisionId method reason)
      (shown : dry.views.get? decisionId = some view)
      (found : applied.views.get? decisionId = some view)
      (openDry : settle env dry event decisionId method view = none)
      (unsettled : settle env applied event decisionId method view = none)

theorem Rehearses.rehearsal (event : PaperFillEvent)
    (rehearses : Rehearses dry applied)
    (tracks : Tracks env applied state.store) : Rehearsal env dry applied event := by
  have alike := rehearses.matched_alike env event
  cases matched : matchEvent env applied event with
  | missing reason => exact .missing (alike.symm.trans matched) matched
  | found decisionId method reason =>
      have rehearsed := alike.symm.trans matched
      obtain ⟨second, found, _⟩ := tracks.found matched
      obtain ⟨first, shown, mirrors⟩ := rehearses.views.get? found
      have named := rehearses.named _ _ shown
      by_cases previewed : decisionId ∈ dry.previewFilled
      · have ended := mirrors.filled (by rw [named]; exact previewed)
        obtain ⟨dryEntry, entry, settledDry, settled, verdict⟩ :=
          rehearses.settle_again env event method previewed mirrors ended
        exact .settled rehearsed matched shown found settledDry settled verdict
      · obtain rfl := mirrors.same (by rw [named]; exact previewed)
        have same := rehearses.settle_fresh env event method second previewed
        cases settled : settle env applied event decisionId method second with
        | some entry =>
            exact .settled rehearsed matched shown found (same.symm.trans settled)
              settled (.refl entry)
        | none =>
            exact .fresh rehearsed matched shown found (same.symm.trans settled)
              settled

theorem Rehearses.filling {decisionId : String} {view filled : TradeIdeaView}
    {before after : TradeState} (rehearses : Rehearses dry applied)
    (shown : dry.views.get? decisionId = some view)
    (fills : Fills env event decisionId view filled before after) :
    Rehearses (({ dry with
        previewFilled := decisionId :: dry.previewFilled } : Pass).noted event)
      (applied.filling event decisionId filled) where
  views := by
    refine rehearses.views.set_right shown ?_ ?_
    · refine ⟨fills.grown.idea, ?_, fun _ => fills.state⟩
      intro fresh
      rw [rehearses.named _ _ shown] at fresh
      exact absurd (List.mem_cons_self ..) fresh
    · intro other first second entered apart mirrors
      have named := rehearses.named _ _ (Dict.get?_eq_some_iff.mpr entered)
      refine ⟨mirrors.idea, ?_, ?_⟩
      · exact fun fresh => mirrors.same fun member => fresh (.tail _ member)
      · intro member
        rcases List.mem_cons.mp member with same | earlier
        · exact absurd (named.symm.trans same) apart
        · exact mirrors.filled earlier
  named := rehearses.named
  audited := by
    unfold Pass.filling Pass.noted
    rw [rehearses.audited]
  unpreviewed := rehearses.unpreviewed

section Openings

variable {decisionId : String} {method : MatchMethod} {view : TradeIdeaView}

/-- The fill of an event as the service reads it back from the audit log.  A
submission before it takes two readings of the clock. -/
def auditedFill (env : TradeEnv) (reconciler : Reconciler) (event : PaperFillEvent)
    (view : TradeIdeaView) (state : ServiceState) : RecordedFill :=
  let readings := if view.state = .approved then state.readings + 2 else state.readings
  recordedFill env (ServiceTx.venueEvent env { state with readings := readings } view
    .filled .venue { actorId := reconciler.actorId, reason := "" }
    { venue := reconciler.venue, externalOrderId := event.externalOrderId }
    (encodeFillEvidence env event.price event.quantity event.filledAt))

/-- What the service looks for before it records the match of a reduction: an
admitted intent if it is yet to be submitted, and a filled receipt of the same
fill. -/
structure Admits (env : TradeEnv) (reconciler : Reconciler) (event : PaperFillEvent)
    (view : TradeIdeaView) (state : ServiceState) : Prop where
  intent : view.state = .approved →
    ServiceTx.requirePaperIntent env view.idea reconciler.venue state.store = .ok ()
  receipt : ∃ receipt,
    ServiceTx.requirePaperReceipt env view.idea reconciler.venue state.store =
      .ok receipt ∧
    ExecutionSnapshot.FillMatches (auditedFill env reconciler event view state) receipt

theorem recordedFill_appending {filled : AuditEvent} (action : filled.action = .filled) :
    recordedFillFromView env (view.appending filled) = some (recordedFill env filled) := by
  unfold recordedFillFromView filledEvent TradeIdeaView.appending
  rw [List.reverse_append, List.reverse_singleton, List.singleton_append]
  simp [action]

/-- A submission keeps what the service looks for: it only adds to the audit log. -/
theorem Admits.submitted {later : TradeIdeaView} (audit : AuditLog)
    (admits : Admits env reconciler event view state)
    (approved : view.state = .approved) (ready : later.state = .submitted)
    (same : later.idea = view.idea) :
    Admits env reconciler event later (ServiceTx.withAudit state audit) where
  intent := fun again => absurd (ready.symm.trans again) (by decide)
  receipt := by
    obtain ⟨receipt, read, agrees⟩ := admits.receipt
    refine ⟨receipt, by rw [same]; exact read, ?_⟩
    have shown : auditedFill env reconciler event later
        (ServiceTx.withAudit state audit) =
        auditedFill env reconciler event view state := by
      unfold auditedFill
      rw [if_pos approved, if_neg (by rw [ready]; decide)]
      rfl
    rw [shown]
    exact agrees

theorem submitFor_returns (event : PaperFillEvent)
    (viewed : state.store.view env decisionId = .ok view)
    (approved : view.state = .approved)
    (valid : ServiceTx.validateAuditVenue reconciler.venue = .ok ())
    (admits : view.idea.reducing = true → Admits env reconciler event view state) :
    ∃ later audit, submitFor env reconciler event decisionId state =
        (.ok later, ServiceTx.withAudit state audit) ∧
      (ServiceTx.withAudit state audit).store.view env decisionId = .ok later ∧
      later.state = .submitted ∧ later.idea = view.idea := by
  obtain ⟨later, audit, returned, submitted, same⟩ : ∃ later audit,
      ServiceTx.recordSubmission env decisionId .system
        { actorId := reconciler.actorId
          reason := "Paper/mock order submitted during reconciliation (" ++
            event.externalOrderId ++ ")" }
        { venue := reconciler.venue
          externalOrderId := event.externalOrderId } [] state =
        (.ok later, ServiceTx.withAudit state audit) ∧
      later.state = .submitted ∧ later.idea = view.idea :=
    ⟨_, _, ServiceTx.recordSubmission_returns viewed approved valid
      fun reducing => (admits reducing).intent approved, rfl, rfl⟩
  have extended := ServiceTx.recordSubmission_eq_ok viewed approved returned
  exact ⟨later, audit, transaction_eq_ok.mpr returned, extended.viewed, submitted,
    same⟩

theorem fillFor_returns (event : PaperFillEvent)
    (viewed : state.store.view env decisionId = .ok view)
    (submitted : view.state = .submitted)
    (valid : ServiceTx.validateAuditVenue reconciler.venue = .ok ())
    (admits : view.idea.reducing = true → Admits env reconciler event view state) :
    ∃ later last, fillFor env reconciler event decisionId state =
      (.ok later, last) := by
  refine ⟨_, _, transaction_eq_ok.mpr
    (ServiceTx.recordFill_returns viewed submitted valid fun reducing => ?_)⟩
  obtain ⟨receipt, read, agrees⟩ := (admits reducing).receipt
  refine ⟨receipt, read, ?_⟩
  unfold auditedFill at agrees
  rw [if_neg (by rw [submitted]; decide)] at agrees
  unfold ServiceTx.requireFillMatches
  rw [recordedFill_appending rfl]
  exact if_pos (decide_eq_true agrees)

theorem recordMatch_returns
    (viewed : state.store.view env decisionId = .ok view)
    (waiting : recordable view = true)
    (valid : ServiceTx.validateAuditVenue reconciler.venue = .ok ())
    (admits : view.idea.reducing = true → Admits env reconciler event view state) :
    ∃ result last, recordMatch env reconciler true applied event decisionId method
      view state = (.ok result, last) := by
  have sent : ∃ middle last,
      submitApproved env reconciler event decisionId view state = (.ok (), last) ∧
        last.store.view env decisionId = .ok middle ∧
        middle.state = .submitted ∧
        (middle.idea.reducing = true → Admits env reconciler event middle last) := by
    unfold submitApproved
    split
    · next approved =>
        obtain ⟨later, audit, returned, shown, ready, same⟩ :=
          submitFor_returns event viewed approved valid admits
        refine ⟨later, _, ?_, shown, ready, ?_⟩
        · rw [Tx.bind_eq_ok]
          exact ⟨later, _, returned, Tx.pure_eq_ok.mpr ⟨rfl, rfl⟩⟩
        · intro reducing
          rw [same] at reducing
          exact (admits reducing).submitted audit approved ready same
    · next unapproved =>
        unfold recordable at waiting
        exact ⟨view, state, Tx.pure_eq_ok.mpr ⟨rfl, rfl⟩, viewed,
          (of_decide_eq_true waiting).resolve_left unapproved, admits⟩
  obtain ⟨middle, between, submitted, shown, ready, stillAdmits⟩ := sent
  obtain ⟨filled, last, confirmed⟩ := fillFor_returns event shown ready valid
    stillAdmits
  unfold recordMatch
  rw [if_pos rfl]
  simp only [Tx.bind_eq_ok]
  exact ⟨_, last, (), between, submitted, filled, last, confirmed,
    Tx.pure_eq_ok.mpr ⟨rfl, rfl⟩⟩

end Openings

/-- The applied pass finds a matched reduction that the service does not admit. -/
def Refuses (env : TradeEnv) (reconciler : Reconciler) (applied : Pass)
    (event : PaperFillEvent) (decisionId : String) (state : ServiceState) : Prop :=
  ∃ view, applied.views.get? decisionId = some view ∧
    view.idea.reducing = true ∧ ¬Admits env reconciler event view state

/-- What an applied pass does with an event that the dry pass went over. -/
inductive Applies (env : TradeEnv) (reconciler : Reconciler)
    (dry applied dryNext : Pass) (event : PaperFillEvent) (dryEntry : Entry)
    (state : ServiceState) : Prop where
  | returns {next : Pass} {entry : Entry} {reached : ServiceState}
      (returned : reconcileEvent env reconciler true applied event state =
        (.ok (next, entry), reached))
      (rehearses : Rehearses dryNext next)
      (tracks : Tracks env next reached.store)
      (verdict : SameVerdict dry.previewFilled dryEntry entry)
  | stops {decisionId : String} {method : MatchMethod} {error : ServiceError}
      {last : ServiceState}
      (stopped : reconcileEvent env reconciler true applied event state =
        (.error error, last))
      (matched : dryEntry =
        matchedEntry event decisionId method false false .filled)
      (refuses : Refuses env reconciler applied event decisionId state)

/-- One event of a dry run, against the applied run. -/
theorem Rehearses.step {dryNext : Pass} {dryEntry : Entry}
    {start ended : ServiceState} (rehearses : Rehearses dry applied)
    (tracks : Tracks env applied state.store)
    (valid : ServiceTx.validateAuditVenue reconciler.venue = .ok ())
    (returned : reconcileEvent env reconciler false dry event start =
      (.ok (dryNext, dryEntry), ended)) :
    dryEntry.event = event ∧
      dryNext.previewFilled = dryEntry.previews dry.previewFilled ∧
      Applies env reconciler dry applied dryNext event dryEntry state := by
  unfold reconcileEvent at returned
  cases rehearses.rehearsal event tracks with
  | missing rehearsed matched =>
      rw [rehearsed] at returned
      cases returned
      refine ⟨rfl, rfl, .returns ?_ rehearses tracks (.refl _)⟩
      unfold reconcileEvent
      rw [matched]
      rfl
  | settled rehearsed matched shown found settledDry settled verdict =>
      rw [rehearsed] at returned
      dsimp only at returned
      rw [shown] at returned
      dsimp only at returned
      rw [settledDry] at returned
      cases returned
      obtain ⟨_, _, _, _, shape, unmatched⟩ := settle_eq_some settledDry
      refine ⟨by rw [shape]; rfl, ?_, .returns ?_ rehearses tracks verdict⟩
      · rw [shape, previews_of_unmatched unmatched]
      · unfold reconcileEvent
        rw [matched]
        dsimp only
        rw [found]
        dsimp only
        rw [settled]
        rfl
  | @fresh decisionId method reason view rehearsed matched shown found openDry
      unsettled =>
      rw [rehearsed] at returned
      dsimp only at returned
      rw [shown] at returned
      dsimp only at returned
      rw [openDry] at returned
      dsimp only at returned
      unfold recordMatch at returned
      rw [if_neg Bool.false_ne_true] at returned
      cases returned
      have waiting := (settle_eq_none.mp unsettled).2.2.2
      have viewed := tracks.viewed _ _ found
      have stepped : reconcileEvent env reconciler true applied event state =
          recordMatch env reconciler true applied event decisionId method view
            state := by
        unfold reconcileEvent
        rw [matched]
        dsimp only
        rw [found]
        dsimp only
        rw [unsettled]
      refine ⟨rfl, rfl, ?_⟩
      cases recorded : recordMatch env reconciler true applied event decisionId
          method view state with
      | mk outcome last =>
          cases outcome with
          | ok result =>
              obtain ⟨next, entry⟩ := result
              obtain ⟨filled, fills, rfl, rfl⟩ :=
                recordMatch_eq_ok viewed waiting recorded
              refine .returns (stepped.trans recorded)
                (rehearses.filling shown fills)
                (tracks.filling found waiting fills).1
                ⟨rfl, rfl, rfl, rfl, fun _ => rfl⟩
          | error error =>
              have unadmitted : ¬(view.idea.reducing = true →
                  Admits env reconciler event view state) := by
                intro admits
                obtain ⟨result, final, returns⟩ := recordMatch_returns viewed
                  waiting valid admits
                rw [recorded] at returns
                cases returns
              obtain ⟨reducing, lacks⟩ := Classical.not_imp.mp unadmitted
              exact .stops (stepped.trans recorded) rfl ⟨view, found, reducing, lacks⟩

end Events

section Runs

variable {env : TradeEnv} {reconciler : Reconciler} {fills : List PaperFillEvent}
variable {dry applied dryLast last : Pass} {dryEntries entries : List Entry}
variable {start ended state reached : ServiceState}

theorem reconcileEvent_dry {event : PaperFillEvent} {result : Pass × Entry}
    (returned : reconcileEvent env reconciler false dry event start =
      (.ok result, ended)) : ended = start := by
  unfold reconcileEvent at returned
  cases matched : matchEvent env dry event with
  | missing reason =>
      rw [matched] at returned
      cases returned
      rfl
  | found decisionId method reason =>
      rw [matched] at returned
      dsimp only at returned
      cases shown : dry.views.get? decisionId with
      | none =>
          rw [shown] at returned
          cases returned
      | some view =>
          rw [shown] at returned
          dsimp only at returned
          cases settled : settle env dry event decisionId method view with
          | some entry =>
              rw [settled] at returned
              cases returned
              rfl
          | none =>
              rw [settled] at returned
              dsimp only at returned
              unfold recordMatch at returned
              rw [if_neg Bool.false_ne_true] at returned
              cases returned
              rfl

theorem reconcileEach_dry
    (returned : reconcileEach env reconciler false dry fills start =
      (.ok (dryLast, dryEntries), ended)) : ended = start := by
  induction fills generalizing dry start dryEntries with
  | nil =>
      cases returned
      rfl
  | cons event rest induction =>
      obtain ⟨_, _, _, _, step, followed, _⟩ :=
        reconcileEach_cons_eq_ok.mp returned
      rw [induction followed, reconcileEvent_dry step]

section

variable (rehearses : Rehearses dry applied) (tracks : Tracks env applied state.store)
variable (valid : ServiceTx.validateAuditVenue reconciler.venue = .ok ())
variable (rehearsed : reconcileEach env reconciler false dry fills start = (.ok (dryLast, dryEntries), ended))

include rehearses tracks valid rehearsed

theorem Rehearses.run
    (returned : reconcileEach env reconciler true applied fills state =
      (.ok (last, entries), reached)) :
    dryEntries.map Entry.event = fills ∧
      Agrees dry.previewFilled dryEntries entries := by
  induction fills generalizing dry applied start state dryEntries entries with
  | nil =>
      cases rehearsed
      cases returned
      exact ⟨rfl, .nil⟩
  | cons event rest induction =>
      obtain ⟨dryNext, dryEntry, _, dries, dryStep, dryRest, rfl⟩ :=
        reconcileEach_cons_eq_ok.mp rehearsed
      obtain ⟨next, entry, between, others, step, followed, rfl⟩ :=
        reconcileEach_cons_eq_ok.mp returned
      obtain ⟨shown, previews, applies⟩ :=
        rehearses.step tracks valid dryStep
      cases applies with
      | returns again rehearsesNext tracksNext verdict =>
          rw [step] at again
          cases again
          obtain ⟨events, agrees⟩ :=
            induction rehearsesNext tracksNext dryRest followed
          rw [previews] at agrees
          refine ⟨?_, .cons verdict agrees⟩
          rw [List.map_cons, shown, events]
      | stops stopped _ _ =>
          rw [step] at stopped
          cases stopped

theorem Rehearses.returns :
    (∃ last entries reached,
      reconcileEach env reconciler true applied fills state =
        (.ok (last, entries), reached)) ∨
    ∃ earlier event later pass entries between decisionId method,
      fills = earlier ++ event :: later ∧
      reconcileEach env reconciler true applied earlier state =
        (.ok (pass, entries), between) ∧
      matchedEntry event decisionId method false false .filled ∈ dryEntries ∧
      Refuses env reconciler pass event decisionId between ∧
      ∃ error last, reconcileEvent env reconciler true pass event between =
        (.error error, last) := by
  induction fills generalizing dry applied start state dryEntries with
  | nil =>
      cases rehearsed
      exact .inl ⟨applied, [], state, rfl⟩
  | cons event rest induction =>
      obtain ⟨dryNext, dryEntry, middle, dries, dryStep, dryRest, rfl⟩ :=
        reconcileEach_cons_eq_ok.mp rehearsed
      obtain ⟨_, _, applies⟩ := rehearses.step tracks valid dryStep
      cases applies with
      | @returns next entry between step rehearsesNext tracksNext _ =>
          rcases induction rehearsesNext tracksNext dryRest with
            ⟨final, others, ended, followed⟩ | stops
          · exact .inl ⟨final, entry :: others, ended,
              reconcileEach_cons_eq_ok.mpr
                ⟨next, entry, between, others, step, followed, rfl⟩⟩
          · obtain ⟨earlier, refused, later, pass, others, reached, decisionId,
              method, rfl, followed, matched, refuses⟩ := stops
            exact .inr ⟨event :: earlier, refused, later, pass, entry :: others,
              reached, decisionId, method, rfl,
              reconcileEach_cons_eq_ok.mpr
                ⟨next, entry, between, others, step, followed, rfl⟩,
              .tail _ matched, refuses⟩
      | @stops decisionId method _ _ stopped matched refuses =>
          exact .inr ⟨[], event, rest, applied, [], state, decisionId, method, rfl,
            rfl, by rw [matched]; exact .head _, refuses, _, _, stopped⟩

end

end Runs

theorem rehearses_start {env : TradeEnv} {store : TradeState}
    {views : List TradeIdeaView} (listed : store.listViews env = .ok views) :
    Rehearses (startPass views) (startPass views) where
  views := Dict.Aligned.refl
    (fun _ => ⟨rfl, fun _ => rfl, fun member => absurd member List.not_mem_nil⟩) _
  named := fun _ _ => (tracks_start listed).named
  audited := rfl
  unpreviewed := rfl

/-- What a dry run says of the applied run on the same state: unless the applied run
finds a matched reduction that the service does not admit, every event comes out the
same. -/
structure DryRunPredicts (env : TradeEnv) (reconciler : Reconciler) : Prop where
  unchanged : ∀ fills rehearsed state ended,
    reconcileFills env reconciler false fills state = (.ok rehearsed, ended) →
    ended = state
  returns : ∀ fills rehearsed state ended,
    ServiceTx.validateAuditVenue reconciler.venue = .ok () →
    reconcileFills env reconciler false fills state = (.ok rehearsed, ended) →
    (∃ report reached,
      reconcileFills env reconciler true fills state = (.ok report, reached)) ∨
    ∃ earlier event later pass between decisionId method,
      fills = earlier ++ event :: later ∧
      passAfter env reconciler earlier state = (.ok pass, between) ∧
      matchedEntry event decisionId method false false .filled ∈
        rehearsed.matched ∧
      Refuses env reconciler pass event decisionId between ∧
      ∃ error last, reconcileEvent env reconciler true pass event between =
        (.error error, last)
  agrees : ∀ fills rehearsed report state ended reached,
    ServiceTx.validateAuditVenue reconciler.venue = .ok () →
    reconcileFills env reconciler false fills state = (.ok rehearsed, ended) →
    reconcileFills env reconciler true fills state = (.ok report, reached) →
    ∃ dryEntries entries, dryEntries.map Entry.event = fills ∧
      rehearsed = reportOf false dryEntries ∧ report = reportOf true entries ∧
      Agrees [] dryEntries entries

/-- What a dry run reports, and where applying differs. -/
theorem dry_run_predicts (env : TradeEnv) (reconciler : Reconciler) :
    DryRunPredicts env reconciler where
  unchanged := by
    intro fills rehearsed state ended returned
    obtain ⟨_, _, _, _, followed, _⟩ := reconcileFills_eq_ok.mp returned
    exact reconcileEach_dry followed
  returns := by
    intro fills rehearsed state ended valid returned
    obtain ⟨views, _, dryEntries, listed, followed, rfl⟩ :=
      reconcileFills_eq_ok.mp returned
    rcases (rehearses_start listed).returns (tracks_start listed) valid followed
      with ⟨last, entries, reached, applied⟩ | stops
    · exact .inl ⟨reportOf true entries, reached,
        reconcileFills_eq_ok.mpr ⟨views, last, entries, listed, applied, rfl⟩⟩
    · obtain ⟨earlier, event, later, pass, entries, between, decisionId, method,
        rfl, applied, matched, refuses⟩ := stops
      refine .inr ⟨earlier, event, later, pass, between, decisionId, method, rfl,
        passAfter_eq_ok.mpr ⟨views, entries, listed, applied⟩, ?_, refuses⟩
      exact List.mem_filter.mpr ⟨matched, rfl⟩
  agrees := by
    intro fills rehearsed report state ended reached valid returned applied
    obtain ⟨views, _, dryEntries, listed, followed, rfl⟩ :=
      reconcileFills_eq_ok.mp returned
    obtain ⟨_, _, entries, again, recorded, rfl⟩ := reconcileFills_eq_ok.mp applied
    rw [listed] at again
    cases again
    obtain ⟨events, agrees⟩ := (rehearses_start listed).run (tracks_start listed)
      valid followed recorded
    exact ⟨dryEntries, entries, events, rfl, rfl, agrees⟩

def AlwaysReturns (env : TradeEnv) (reconciler : Reconciler) : Prop :=
  ∀ fills rehearsed state ended,
    ServiceTx.validateAuditVenue reconciler.venue = .ok () →
    reconcileFills env reconciler false fills state = (.ok rehearsed, ended) →
    ∃ report reached,
      reconcileFills env reconciler true fills state = (.ok report, reached)

def SameUnmatched (env : TradeEnv) (reconciler : Reconciler) : Prop :=
  ∀ fills rehearsed report state ended reached,
    ServiceTx.validateAuditVenue reconciler.venue = .ok () →
    reconcileFills env reconciler false fills state = (.ok rehearsed, ended) →
    reconcileFills env reconciler true fills state = (.ok report, reached) →
    rehearsed.unmatched.map Entry.finalState = report.unmatched.map Entry.finalState

section Misled

def approvedReduction : ServiceState :=
  Call.run PaperCycle.paperCycle.env
    [.service (.updateBudget attestedBudget .human "operator"),
      .service (.propose (PaperCycle.plannedEntry "entry-1" entry_safe) .ai
        operator []),
      .service (.approve "entry-1" operator),
      .service (.recordSubmission "entry-1" .system operator venueOrder []),
      .service (.recordFill "entry-1" .venue operator venueOrder
        ["fill_price=100", "fill_quantity=1"]),
      .service (.propose PaperCycle.reductionIdea .ai operator []),
      .service (.approve "reduce-1" operator)] freshState

def reductionFills : List PaperFillEvent :=
  [{ legacyFill "order-3" with
      side := "sell"
      decisionId := some "reduce-1" }]

def conflictingFills : List PaperFillEvent :=
  [{ legacyFill "order-1" with decisionId := some "entry-1" },
    { legacyFill "order-2" with
      side := "sell"
      decisionId := some "entry-1" }]

def unmatchedStates (apply : Bool) : Option (List (Option TradeIdeaState)) :=
  (reconcileFills paperEnv mockReconciler apply conflictingFills
    twoApproved).1.toOption.map fun report =>
      report.unmatched.map Entry.finalState

theorem reduction_runs :
    (reconcileFills PaperCycle.paperCycle.env mockReconciler false reductionFills
        approvedReduction).1.toOption.isSome ∧
      (reconcileFills PaperCycle.paperCycle.env mockReconciler true reductionFills
        approvedReduction).1.toOption = none := by
  decide +kernel

theorem conflicting_runs :
    unmatchedStates false = some [some .approved] ∧
      unmatchedStates true = some [some .filled] := by
  decide +kernel

/-- The service may refuse a matched reduction, and a payload conflict shows the
state before the match. -/
theorem dry_run_misleads :
    ¬ AlwaysReturns PaperCycle.paperCycle.env mockReconciler ∧
      ¬ SameUnmatched paperEnv mockReconciler := by
  constructor
  · intro always
    obtain ⟨rehearsed, refused⟩ := reduction_runs
    obtain ⟨dryReport, ended⟩ := Option.isSome_iff_exists.mp rehearsed
    have ended := returned_of_toOption ended
    obtain ⟨report, reached, applied⟩ :=
      always reductionFills dryReport _ _ rfl ended
    rw [applied] at refused
    cases refused
  · intro same
    obtain ⟨before, after⟩ := conflicting_runs
    obtain ⟨rehearsed, dryReturned, shown⟩ := Option.map_eq_some_iff.mp before
    obtain ⟨report, returned, reached⟩ := Option.map_eq_some_iff.mp after
    have dryReturned := returned_of_toOption dryReturned
    have returned := returned_of_toOption returned
    have alike := same conflictingFills rehearsed report _ _ _ rfl dryReturned
      returned
    rw [shown, reached] at alike
    cases alike

end Misled

end PaperReconciliation

end GptTrader
