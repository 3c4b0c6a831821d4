import GptTrader.TradeIdeas.RepeatedReconciliation

/-!
# Two runs over the same fills

A run that returned leaves a store from which the next one starts with the same
views and no fewer order ids.  Every event that was not left open between
several ideas is then found unmatched or already recorded, wherever the second
run meets it.
-/

namespace GptTrader

namespace PaperReconciliation

section Starting

variable {env : TradeEnv} {store : TradeState} {pass : Pass}
variable {views : List TradeIdeaView}

theorem listed_named (listed : store.listViews env = .ok views) :
    views.map (fun view => view.idea.decisionId) = store.decisionIds := by
  refine Outcome.map_mapM listed ?_
  intro decisionId view viewed
  exact (TradeState.requireIdea_eq_ok (TradeState.view_eq_ok viewed).1).1

theorem startPass_entries (listed : store.listViews env = .ok views) :
    (startPass views).views.entries =
      views.map fun view => (view.idea.decisionId, view) := by
  refine Dict.entries_ofList ?_
  have named : (views.map fun view => (view.idea.decisionId, view)).map Prod.fst =
      store.decisionIds := by
    rw [List.map_map]
    exact listed_named listed
  rw [named]
  exact (List.perm_insertionSort _ _).nodup_iff.mpr store.latest.nodup

theorem startPass_values (listed : store.listViews env = .ok views) :
    (startPass views).views.values = views := by
  unfold Dict.values
  rw [startPass_entries listed, List.map_map]
  exact List.map_id views

theorem mem_auditedFillOrderIds {orderId : String} :
    orderId ∈ auditedFillOrderIds views ↔ ∃ view ∈ views,
      ∃ audited ∈ view.events, audited.action = .filled ∧
        audited.externalOrderId = orderId ∧ orderId ≠ "" := by
  unfold auditedFillOrderIds
  simp only [List.mem_flatMap, List.mem_map, List.mem_filter,
    decide_eq_true_eq]
  constructor
  · rintro ⟨view, listed, audited, ⟨recorded, filled, named⟩, rfl⟩
    exact ⟨view, listed, audited, recorded, filled, rfl, named⟩
  · rintro ⟨view, listed, audited, recorded, filled, rfl, named⟩
    exact ⟨view, listed, audited, ⟨recorded, filled, named⟩, rfl⟩

theorem tracks_start (listed : store.listViews env = .ok views) :
    Tracks env (startPass views) store where
  keys := by
    unfold Dict.keys
    rw [startPass_entries listed, List.map_map]
    exact listed_named listed
  viewed := by
    intro decisionId view found
    have member := Dict.get?_eq_some_iff.mp found
    rw [startPass_entries listed] at member
    obtain ⟨shown, present, same⟩ := List.mem_map.mp member
    cases same
    obtain ⟨_, _, viewed⟩ := Outcome.mem_mapM listed present
    rw [(TradeState.requireIdea_eq_ok (TradeState.view_eq_ok viewed).1).1]
    exact viewed
  audited := by
    rw [startPass_values listed]
    exact fun orderId member => mem_auditedFillOrderIds.mp member
  unpreviewed := rfl

theorem Tracks.restart (tracks : Tracks env pass store) :
    ∃ views, store.listViews env = .ok views ∧
      Tracks env (startPass views) store ∧ Advances pass (startPass views) := by
  have listed : store.listViews env = .ok pass.views.values := by
    unfold TradeState.listViews
    rw [Outcome.mapM_eq_ok, ← tracks.keys]
    unfold Dict.keys Dict.values
    rw [List.forall₂_map_left_iff, List.forall₂_map_right_iff, List.forall₂_same]
    intro entry member
    exact tracks.viewed _ _ (Dict.get?_eq_some_iff.mpr member)
  refine ⟨_, listed, tracks_start listed, ?_, ?_⟩
  · have same : (startPass pass.views.values).views.entries =
        pass.views.entries := by
      rw [startPass_entries listed]
      unfold Dict.values
      rw [List.map_map]
      refine (List.map_congr_left ?_).trans (List.map_id _)
      intro entry member
      have named := tracks.named (Dict.get?_eq_some_iff.mpr member)
      exact Prod.ext named rfl
    unfold Dict.Aligned
    rw [same]
    exact Dict.Aligned.refl Later.refl _
  · intro orderId member
    exact mem_auditedFillOrderIds.mpr (tracks.audited orderId member)

end Starting

section Runs

variable {env : TradeEnv} {reconciler : Reconciler} {fills : List PaperFillEvent}
variable {pass last : Pass} {entries : List Entry}
variable {state reached : ServiceState}

theorem reconcileEach_cons_eq_ok {apply : Bool} {event : PaperFillEvent}
    {rest : List PaperFillEvent} :
    reconcileEach env reconciler apply pass (event :: rest) state =
        (.ok (last, entries), reached) ↔
      ∃ next entry between others,
        reconcileEvent env reconciler apply pass event state =
          (.ok (next, entry), between) ∧
        reconcileEach env reconciler apply next rest between =
          (.ok (last, others), reached) ∧ entries = entry :: others := by
  rw [reconcileEach, Tx.bind_eq_ok]
  constructor
  · rintro ⟨⟨next, entry⟩, between, recorded, returned⟩
    obtain ⟨⟨final, others⟩, _, followed, returned⟩ := Tx.bind_eq_ok.mp returned
    obtain ⟨same, rfl⟩ := Tx.pure_eq_ok.mp returned
    obtain ⟨rfl, rfl⟩ := Prod.mk.inj same
    exact ⟨next, entry, between, others, recorded, followed, rfl⟩
  · rintro ⟨next, entry, between, others, recorded, followed, rfl⟩
    refine ⟨(next, entry), between, recorded, Tx.bind_eq_ok.mpr ?_⟩
    exact ⟨(last, others), reached, followed, Tx.pure_eq_ok.mpr ⟨rfl, rfl⟩⟩

theorem reconcileEach_append {apply : Bool} {earlier later : List PaperFillEvent}
    (returned : reconcileEach env reconciler apply pass (earlier ++ later) state =
      (.ok (last, entries), reached)) :
    ∃ middle first between second,
      reconcileEach env reconciler apply pass earlier state =
        (.ok (middle, first), between) ∧
      reconcileEach env reconciler apply middle later between =
        (.ok (last, second), reached) ∧ entries = first ++ second := by
  induction earlier generalizing pass state entries with
  | nil => exact ⟨pass, [], state, entries, rfl, returned, rfl⟩
  | cons event rest induction =>
      obtain ⟨next, entry, between, others, recorded, followed, rfl⟩ :=
        reconcileEach_cons_eq_ok.mp returned
      obtain ⟨middle, first, met, second, before, after, rfl⟩ :=
        induction followed
      exact ⟨middle, entry :: first, met, second,
        reconcileEach_cons_eq_ok.mpr
          ⟨next, entry, between, first, recorded, before, rfl⟩, after, rfl⟩

theorem reconcileEach_advances (tracks : Tracks env pass state.store)
    (returned : reconcileEach env reconciler true pass fills state =
      (.ok (last, entries), reached)) :
    Tracks env last reached.store ∧ Advances pass last := by
  induction fills generalizing pass state entries with
  | nil =>
      obtain ⟨same, rfl⟩ := Tx.pure_eq_ok.mp returned
      obtain ⟨rfl, _⟩ := Prod.mk.inj same
      exact ⟨tracks, .refl pass⟩
  | cons event rest induction =>
      obtain ⟨next, entry, between, others, recorded, followed, _⟩ :=
        reconcileEach_cons_eq_ok.mp returned
      obtain ⟨onwards, moved⟩ :=
        (reconcileEvent_outcome tracks recorded).advances tracks
      obtain ⟨ended, further⟩ := induction onwards followed
      exact ⟨ended, moved.trans further⟩

theorem EventOutcome.ambiguous {event : PaperFillEvent} {next : Pass}
    {entry : Entry}
    (outcome : EventOutcome env pass event state next entry reached)
    (ambiguous : matchEvent env pass event = .missing ambiguousReason) :
    entry = .missing event ambiguousReason := by
  cases outcome with
  | missing unmatched =>
      rw [ambiguous] at unmatched
      cases unmatched
      rfl
  | settled matched _ _ =>
      rw [ambiguous] at matched
      cases matched
  | recorded matched _ _ _ =>
      rw [ambiguous] at matched
      cases matched

/-- A later pass matches nothing again. -/
theorem reconcileEach_again {again : Pass} {other : ServiceState}
    (tracks : Tracks env pass state.store)
    (returned : reconcileEach env reconciler true pass fills state =
      (.ok (last, entries), reached))
    (unambiguous : ∀ event, Entry.missing event ambiguousReason ∉ entries)
    (advances : Advances last again)
    (tracksAgain : Tracks env again other.store) :
    ∃ repeated, reconcileEach env reconciler true again fills other =
        (.ok (again, repeated), other) ∧
      ∀ entry ∈ repeated, entry.status ≠ .matched := by
  induction fills generalizing pass state entries with
  | nil => exact ⟨[], rfl, fun _ member => absurd member List.not_mem_nil⟩
  | cons event rest induction =>
      obtain ⟨next, entry, between, others, recorded, followed, rfl⟩ :=
        reconcileEach_cons_eq_ok.mp returned
      have outcome := reconcileEvent_outcome tracks recorded
      obtain ⟨onwards, _⟩ := outcome.advances tracks
      have further := (reconcileEach_advances onwards followed).2
      have clear : matchEvent env pass event ≠ .missing ambiguousReason := by
        intro ambiguous
        have shown := outcome.ambiguous ambiguous
        exact unambiguous event (List.mem_cons.mpr (.inl shown.symm))
      obtain ⟨shown, unchanged, unmatched⟩ := outcome.again reconciler tracks
        clear (further.trans advances) tracksAgain
      obtain ⟨repeated, followed, quiet⟩ := induction onwards followed
        (fun event member => unambiguous event (.tail _ member))
      refine ⟨shown :: repeated, reconcileEach_cons_eq_ok.mpr
        ⟨again, shown, other, repeated, unchanged, followed, rfl⟩, ?_⟩
      intro entry member
      rcases List.mem_cons.mp member with rfl | later
      · exact unmatched
      · exact quiet entry later

end Runs

def passAfter (env : TradeEnv) (reconciler : Reconciler)
    (earlier : List PaperFillEvent) : ServiceTx Pass := do
  let views ← ServiceTx.ask (TradeState.listViews env)
  let (pass, _) ← reconcileEach env reconciler true (startPass views) earlier
  pure pass

section Twice

variable {env : TradeEnv} {reconciler : Reconciler} {fills : List PaperFillEvent}
variable {pass : Pass} {report : Report} {state reached : ServiceState}

theorem passAfter_eq_ok {earlier : List PaperFillEvent} :
    passAfter env reconciler earlier state = (.ok pass, reached) ↔
      ∃ views entries, state.store.listViews env = .ok views ∧
        reconcileEach env reconciler true (startPass views) earlier state =
          (.ok (pass, entries), reached) := by
  unfold passAfter
  rw [Tx.bind_eq_ok]
  constructor
  · rintro ⟨views, _, asked, returned⟩
    obtain ⟨listed, rfl⟩ := ServiceTx.ask_eq_ok.mp asked
    obtain ⟨⟨_, entries⟩, _, followed, returned⟩ := Tx.bind_eq_ok.mp returned
    obtain ⟨rfl, rfl⟩ := Tx.pure_eq_ok.mp returned
    exact ⟨views, entries, listed, followed⟩
  · rintro ⟨views, entries, listed, followed⟩
    refine ⟨views, state, ServiceTx.ask_eq_ok.mpr ⟨listed, rfl⟩,
      Tx.bind_eq_ok.mpr ?_⟩
    exact ⟨(pass, entries), reached, followed, Tx.pure_eq_ok.mpr ⟨rfl, rfl⟩⟩

theorem reconcileFills_eq_ok {apply : Bool} :
    reconcileFills env reconciler apply fills state = (.ok report, reached) ↔
      ∃ views pass entries, state.store.listViews env = .ok views ∧
        reconcileEach env reconciler apply (startPass views) fills state =
          (.ok (pass, entries), reached) ∧ report = reportOf apply entries := by
  unfold reconcileFills
  rw [Tx.bind_eq_ok]
  constructor
  · rintro ⟨views, _, asked, returned⟩
    obtain ⟨listed, rfl⟩ := ServiceTx.ask_eq_ok.mp asked
    obtain ⟨⟨pass, entries⟩, _, followed, returned⟩ := Tx.bind_eq_ok.mp returned
    obtain ⟨rfl, rfl⟩ := Tx.pure_eq_ok.mp returned
    exact ⟨views, pass, entries, listed, followed, rfl⟩
  · rintro ⟨views, pass, entries, listed, followed, rfl⟩
    refine ⟨views, state, ServiceTx.ask_eq_ok.mpr ⟨listed, rfl⟩,
      Tx.bind_eq_ok.mpr ?_⟩
    exact ⟨(pass, entries), reached, followed, Tx.pure_eq_ok.mpr ⟨rfl, rfl⟩⟩

end Twice

/-- A second run over the same fills records nothing for an event that the first
run did not leave open between several ideas. -/
structure RecordsOnce (env : TradeEnv) (reconciler : Reconciler) : Prop where
  each : ∀ fills report state reached,
    reconcileFills env reconciler true fills state = (.ok report, reached) →
    ∀ earlier event later, fills = earlier ++ event :: later →
    ∀ pass between, passAfter env reconciler earlier state = (.ok pass, between) →
      matchEvent env pass event ≠ .missing ambiguousReason →
    ∀ again other,
      passAfter env reconciler earlier reached = (.ok again, other) →
      ∃ entry, reconcileEvent env reconciler true again event other =
          (.ok (again, entry), other) ∧ entry.status ≠ .matched
  whole : ∀ fills report state reached,
    reconcileFills env reconciler true fills state = (.ok report, reached) →
    (∀ event, Entry.missing event ambiguousReason ∉ report.unmatched) →
    ∃ again, reconcileFills env reconciler true fills reached =
        (.ok again, reached) ∧ again.matched = []

/-- Every pass records a fill at most once. -/
theorem reconciliation_records_once (env : TradeEnv) (reconciler : Reconciler) :
    RecordsOnce env reconciler where
  each := by
    rintro fills report state reached returned earlier event later rfl pass between
      passed unambiguous again other passedAgain
    obtain ⟨views, last, entries, listed, followed, _⟩ :=
      reconcileFills_eq_ok.mp returned
    have tracks := tracks_start listed
    obtain ⟨middle, first, met, second, before, after, _⟩ :=
      reconcileEach_append followed
    obtain ⟨_, _, listedAgain, sameRun⟩ := passAfter_eq_ok.mp passed
    rw [listed] at listedAgain
    cases listedAgain
    rw [before] at sameRun
    cases sameRun
    have tracksMiddle := (reconcileEach_advances tracks before).1
    obtain ⟨next, entry, _, _, recorded, rest, _⟩ :=
      reconcileEach_cons_eq_ok.mp after
    have outcome := reconcileEvent_outcome tracksMiddle recorded
    have tracksNext := (outcome.advances tracksMiddle).1
    obtain ⟨tracksLast, onwards⟩ := reconcileEach_advances tracksNext rest
    -- The second run starts from the last pass and only advances.
    obtain ⟨restarted, relisted, tracksStart, restart⟩ := tracksLast.restart
    obtain ⟨_, _, listedAgain, rerun⟩ := passAfter_eq_ok.mp passedAgain
    rw [relisted] at listedAgain
    cases listedAgain
    obtain ⟨tracksAgain, further⟩ := reconcileEach_advances tracksStart rerun
    exact outcome.again reconciler tracksMiddle unambiguous
      (onwards.trans (restart.trans further)) tracksAgain
  whole := by
    intro fills report state reached returned unambiguous
    obtain ⟨views, last, entries, listed, followed, rfl⟩ :=
      reconcileFills_eq_ok.mp returned
    have tracks := tracks_start listed
    have tracksLast := (reconcileEach_advances tracks followed).1
    obtain ⟨restarted, relisted, tracksStart, restart⟩ := tracksLast.restart
    have clear : ∀ event, Entry.missing event ambiguousReason ∉ entries := by
      intro event member
      exact unambiguous event (List.mem_filter.mpr ⟨member, rfl⟩)
    obtain ⟨repeated, rerun, quiet⟩ :=
      reconcileEach_again tracks followed clear restart tracksStart
    refine ⟨reportOf true repeated, reconcileFills_eq_ok.mpr
      ⟨restarted, _, repeated, relisted, rerun, rfl⟩, ?_⟩
    refine List.filter_eq_nil_iff.mpr ?_
    intro entry member
    rw [decide_eq_true_eq]
    exact quiet entry member

/-- A second pass over the fills leaves the audit alone. -/
def Idempotent (env : TradeEnv) (reconciler : Reconciler) : Prop :=
  ∀ fills report state reached,
    reconcileFills env reconciler true fills state = (.ok report, reached) →
    ∀ again last,
      reconcileFills env reconciler true fills reached = (.ok again, last) →
      last.store.audit = reached.store.audit

section Freed

theorem returned_of_toOption {outcome : Except ServiceError Report × ServiceState}
    {report : Report} (shown : outcome.1.toOption = some report) :
    outcome = (.ok report, outcome.2) := by
  obtain ⟨result, reached⟩ := outcome
  cases result with
  | ok found =>
      cases shown
      rfl
  | error error => cases shown

def mockReconciler : Reconciler :=
  { actorId := "paper-reconciler"
    venue := "paper" }

def legacyFill (orderId : String) : PaperFillEvent :=
  { orderId := orderId
    clientOrderId := ""
    symbol := "BTC-USD"
    side := "buy"
    quantity := some 1
    price := some 100
    status := "filled"
    decisionId := none
    sourceIndex := none
    filledAt := none }

def twoApproved : ServiceState :=
  Call.run paperEnv
    [.service (.updateBudget attestedBudget .human "operator"),
      .service (.propose (paperIdea "entry-1" entry_safe) .ai operator []),
      .service (.propose (paperIdea "entry-2" (by decide)) .ai operator []),
      .service (.approve "entry-1" operator),
      .service (.approve "entry-2" operator)] freshState

def freeingFills : List PaperFillEvent :=
  [legacyFill "order-1",
    { legacyFill "order-2" with decisionId := some "entry-1" }]

def freeingRun (state : ServiceState) : Except ServiceError Report × ServiceState :=
  reconcileFills paperEnv mockReconciler true freeingFills state

theorem freeing_runs :
    (freeingRun twoApproved).1.toOption.isSome ∧
      (freeingRun (freeingRun twoApproved).2).1.toOption.isSome ∧
      (freeingRun (freeingRun twoApproved).2).2.store.audit.length ≠
        (freeingRun twoApproved).2.store.audit.length := by
  decide +kernel

/-- Once the named idea is filled, the other is the only one left for the fill
without ids. -/
theorem freed_fill_is_recorded : ¬ Idempotent paperEnv mockReconciler := by
  intro idempotent
  obtain ⟨first, second, grown⟩ := freeing_runs
  obtain ⟨report, first⟩ := Option.isSome_iff_exists.mp first
  obtain ⟨again, second⟩ := Option.isSome_iff_exists.mp second
  have first := returned_of_toOption first
  have second := returned_of_toOption second
  exact grown (congrArg List.length
    (idempotent freeingFills report _ _ first again _ second))

end Freed

end PaperReconciliation

end GptTrader
