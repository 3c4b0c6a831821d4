import GptTrader.TradeIdeas.EquityLedger
import GptTrader.TradeIdeas.RealizedTotals

/-!
# Final closeouts of reduced positions

`finalize_position` of `trade_ideas/position_operations.py`.  The aggregate
closeout of a fully reduced entry states what its reduction facts already
realized, so appending it changes no position and no accounting total.
-/

namespace GptTrader

open KeyedLists

namespace ServiceTx

variable (env : TradeEnv)

/-- The closeout of a whole position. -/
def aggregateOf (projected : PaperPosition) (resolution : CloseoutResolution)
    (evidence : List String) (resolvedAt : ℤ) : Resolved :=
  { resolution := resolution
    amount := some projected.realizedTotal
    percent := none
    unavailableReason := ""
    evidence := evidence ++ projected.reductions.map fun fact =>
      "position_reduction:" ++ fact.operationId
    resolvedAt := some resolvedAt }

/-- A closed position gets its closeout. -/
def finalizePosition (targetId actorId : String)
    (resolution : CloseoutResolution) (evidence : List String) :
    ServiceTx (Option CloseoutAttribution) := do
  let projected ← ask (TradeState.position env targetId)
  if projected.remaining ≠ 0 ∨ projected.reserved ≠ 0 then pure none
  else do
    let view ← get env targetId
    match view.closeoutAttribution, projected.lastReduction with
    | some existing, _ =>
        if existing.realizedProfitLossAmount = some projected.realizedTotal then
          pure (some existing)
        else Tx.raise (.integrity "Final closeout conflicts with reduction facts")
    | none, none =>
        Tx.raise (.plain (.python .valueError)
          "max() iterable argument is empty")
    | none, some resolvedAt => do
        let record ← recordCloseoutAttribution env targetId .system actorId
          (aggregateOf projected resolution evidence resolvedAt)
        pure (some record)

end ServiceTx

section Appended

variable {log : CloseoutAttributionLog} {record : CloseoutAttribution}

theorem CloseoutAttributionLog.get_append
    (fresh : log.get record.decisionId = .ok none) (decisionId : String) :
    CloseoutAttributionLog.get (log ++ [record]) decisionId =
      if decisionId = record.decisionId then .ok (some record)
      else log.get decisionId := by
  unfold get at fresh ⊢
  obtain ⟨read, replayed, none⟩ := Outcome.bind_eq_ok.mp fresh
  have absent : read.2.get? record.decisionId = Option.none := by
    simpa using none
  have step : readRecord read record =
      .ok (read.1 + 1, read.2.set record.decisionId record) := by
    unfold readRecord
    rw [absent]
  rw [replayed, Replay.replay_snoc_eq_ok.mpr ⟨read, replayed, step⟩]
  change Except.ok ((read.2.set record.decisionId record).get? decisionId) = _
  rw [Dict.get?_set]
  split <;> rfl

end Appended

def TradeIdeaView.closedBy (record : CloseoutAttribution)
    (view : TradeIdeaView) : TradeIdeaView :=
  if view.idea.decisionId = record.decisionId then
    { view with closeoutAttribution := some record }
  else view

section ClosedBy

variable (env : TradeEnv) (record : CloseoutAttribution) (view : TradeIdeaView)

theorem closedBy_frame :
    (view.closedBy record).idea = view.idea ∧
      (view.closedBy record).state = view.state ∧
      (view.closedBy record).events = view.events := by
  unfold TradeIdeaView.closedBy
  split <;> exact ⟨rfl, rfl, rfl⟩

theorem recordedFillFromView_closedBy :
    recordedFillFromView env (view.closedBy record) =
      recordedFillFromView env view := by
  unfold recordedFillFromView
  rw [(closedBy_frame record view).2.2]

theorem confirmedEntry_closedBy :
    ExecutionSnapshot.confirmedEntry env (view.closedBy record) =
      ExecutionSnapshot.confirmedEntry env view := by
  obtain ⟨idea, state, events⟩ := closedBy_frame record view
  unfold ExecutionSnapshot.confirmedEntry
  rw [idea, state, recordedFillFromView_closedBy]

theorem validateView_closedBy (entries : List PaperEntry) :
    ExecutionSnapshot.validateView env entries (view.closedBy record) =
      ExecutionSnapshot.validateView env entries view := by
  obtain ⟨idea, state, events⟩ := closedBy_frame record view
  unfold ExecutionSnapshot.validateView ExecutionSnapshot.validateAdmitted
    ExecutionSnapshot.receiptConfirms
  simp only [idea, state, events, recordedFillFromView_closedBy]

end ClosedBy

def TradeState.closing (store : TradeState) (record : CloseoutAttribution) :
    TradeState :=
  { store with closeouts := store.closeouts ++ [record] }

/-- The record is a new closeout of a terminal decision. -/
structure Closes (env : TradeEnv) (store : TradeState)
    (record : CloseoutAttribution) (last : AuditEvent) : Prop where
  fresh : store.closeouts.get record.decisionId = .ok none
  ended : store.audit.lastEvent record.decisionId = some last
  terminal : last.afterState.terminal = true
  event : record.terminalEventId = last.eventId
  hash : record.recordHash = last.recordHash
  snapshot : ∀ idea, store.requireIdea env record.decisionId = .ok idea →
    record.maxLoss = idea.maxLoss.snapshot

section Closing

variable {env : TradeEnv} {store : TradeState} {record : CloseoutAttribution}
  {last : AuditEvent}

theorem Closes.validated (closes : Closes env store record last)
    {idea : TradeIdea} {event : AuditEvent}
    (required : store.requireIdea env idea.decisionId = .ok idea)
    (latest : store.audit.lastEvent idea.decisionId = some event) :
    (store.closing record).validatedCloseoutAttribution idea event =
      if idea.decisionId = record.decisionId then .ok (some record)
      else store.validatedCloseoutAttribution idea event := by
  unfold TradeState.validatedCloseoutAttribution TradeState.closing
  dsimp only
  rw [CloseoutAttributionLog.get_append closes.fresh]
  split
  · next same =>
      rw [same] at latest required
      obtain rfl := Option.some.inj (latest.symm.trans closes.ended)
      have snapshot := closes.snapshot idea required
      change (if event.afterState.terminal then _ else _) = _
      rw [if_pos closes.terminal]
      unfold TradeState.closeoutMismatch
      simp [closes.event, closes.hash, snapshot]
  · rfl

theorem Closes.unattributed (closes : Closes env store record last)
    {idea : TradeIdea} (event : AuditEvent)
    (same : idea.decisionId = record.decisionId) :
    store.validatedCloseoutAttribution idea event = .ok none := by
  unfold TradeState.validatedCloseoutAttribution
  rw [same, closes.fresh]
  rfl

theorem Closes.view (closes : Closes env store record last)
    (decisionId : String) :
    (store.closing record).view env decisionId =
      (store.view env decisionId).map (TradeIdeaView.closedBy record) := by
  have sameIdea : (store.closing record).requireIdea env decisionId =
      store.requireIdea env decisionId := rfl
  have sameAudit : (store.closing record).audit = store.audit := rfl
  unfold TradeState.view
  rw [sameIdea, sameAudit]
  cases required : store.requireIdea env decisionId with
  | error error => rfl
  | ok idea =>
      have named := (TradeState.requireIdea_eq_ok required).1
      subst named
      cases latest : store.audit.lastEvent idea.decisionId with
      | none => rfl
      | some event =>
          dsimp only [bind, Except.bind]
          rw [closes.validated required latest]
          unfold TradeIdeaView.closedBy
          by_cases same : idea.decisionId = record.decisionId
          · rw [if_pos same, closes.unattributed event same]
            exact congrArg Except.ok (if_pos same).symm
          · rw [if_neg same]
            cases store.validatedCloseoutAttribution idea event with
            | error error => rfl
            | ok closeout => exact congrArg Except.ok (if_neg same).symm

end Closing

def ExecutionSnapshot.closedBy (record : CloseoutAttribution)
    (snapshot : ExecutionSnapshot) : ExecutionSnapshot :=
  { snapshot with
    views := mapValues (TradeIdeaView.closedBy record) snapshot.views }

namespace ExecutionSnapshot

variable (env : TradeEnv)

def openPosition (snapshot : ExecutionSnapshot) (view : TradeIdeaView) :
    Except ServiceError PaperPosition := do
  let fill ← confirmedEntry env view
  let shares ← snapshot.entries.mapM (targetShare env snapshot view.idea)
  let simulated ← snapshot.resolutions.mapM (simulatedFact env view.idea)
  let shares := shares.reduceOption
  let reductions := shares.filterMap Share.fact? ++ simulated.reduceOption
  let reserved := (shares.map Share.quantity).sum
  ensure (∀ fact ∈ reductions, fill.filledAt ≤ fact.timestamp)
    (.integrity "Reduction precedes its target entry fill")
  let remaining := fill.quantity - (reductions.map ReductionFact.quantity).sum
  ensure (0 ≤ remaining ∧ 0 ≤ reserved ∧ reserved ≤ remaining)
    (.integrity "Paper reductions exceed the target quantity")
  .ok
    { idea := view.idea
      entryQuantity := fill.quantity
      entryPrice := fill.price
      remaining := remaining
      reserved := reserved
      reductions := reductions }

def settled (projected : PaperPosition) :
    Option CloseoutAttribution → Except ServiceError PaperPosition
  | none => .ok projected
  | some closeout =>
      if projected.reductions.isEmpty && decide (projected.reserved = 0) then
        .ok { projected with remaining := 0 }
      else if agreesWithCloseout projected closeout then .ok projected
      else .error (.integrity "Final attribution conflicts with position facts")

variable {env} {snapshot : ExecutionSnapshot} {targetId : String}
  {view : TradeIdeaView} {record : CloseoutAttribution}

theorem position_of_view (viewed : snapshot.views.get? targetId = some view) :
    snapshot.position env targetId =
      openPosition env snapshot view >>= fun projected =>
        settled projected view.closeoutAttribution := by
  unfold position openPosition
  rw [viewed]
  simp only [bind_assoc]
  rfl

theorem targetShare_closedBy (target : TradeIdea) (entry : PaperEntry) :
    targetShare env (snapshot.closedBy record) target entry =
      targetShare env snapshot target entry := by
  unfold targetShare closedBy
  dsimp only
  rw [get?_mapValues]
  cases snapshot.views.get? entry.decisionId with
  | none => rfl
  | some view =>
      dsimp only [Option.map_some]
      rw [(closedBy_frame record view).1]

theorem openPosition_closedBy :
    openPosition env (snapshot.closedBy record) (view.closedBy record) =
      openPosition env snapshot view := by
  have shares : targetShare env (snapshot.closedBy record) view.idea =
      targetShare env snapshot view.idea :=
    funext fun entry => targetShare_closedBy view.idea entry
  unfold openPosition
  rw [confirmedEntry_closedBy, (closedBy_frame record view).1, shares]
  rfl

theorem position_closedBy {projected : PaperPosition}
    (viewed : snapshot.views.get? targetId = some view)
    (found : snapshot.position env targetId = .ok projected)
    (named : view.idea.decisionId = targetId)
    (fresh : targetId = record.decisionId → view.closeoutAttribution = none ∧
      projected.reductions ≠ [] ∧ agreesWithCloseout projected record = true) :
    (snapshot.closedBy record).position env targetId = .ok projected := by
  have after : (snapshot.closedBy record).views.get? targetId =
      some (view.closedBy record) := by
    unfold closedBy
    rw [get?_mapValues, viewed]
    rfl
  rw [position_of_view viewed] at found
  rw [position_of_view after, openPosition_closedBy]
  unfold TradeIdeaView.closedBy
  by_cases same : targetId = record.decisionId
  · obtain ⟨unattributed, reduced, agrees⟩ := fresh same
    rw [unattributed] at found
    obtain ⟨opened, open_eq, returned⟩ := Outcome.bind_eq_ok.mp found
    cases returned
    rw [open_eq, if_pos (named.trans same)]
    change settled projected (some record) = _
    have some : projected.reductions.isEmpty = false := by simpa using reduced
    unfold settled
    dsimp only
    rw [some, Bool.false_and, if_neg Bool.false_ne_true, if_pos agrees]
  · rw [if_neg (by rw [named]; exact same)]
    exact found

end ExecutionSnapshot

section Closing

variable {env : TradeEnv} {store : TradeState} {record : CloseoutAttribution}
  {last : AuditEvent}

theorem Closes.addView (closes : Closes env store record last)
    (entries : List PaperEntry) (targets : List String)
    (views : Dict String TradeIdeaView) (latest : String × AuditEvent) :
    ExecutionSnapshot.addView env (store.closing record) entries targets
        (mapValues (TradeIdeaView.closedBy record) views) latest =
      (ExecutionSnapshot.addView env store entries targets views latest).map
        (mapValues (TradeIdeaView.closedBy record)) := by
  have sameVersion : (store.closing record).loadRecordVersion env latest.1
      latest.2.recordHash =
    store.loadRecordVersion env latest.1 latest.2.recordHash := rfl
  have sameAudit : (store.closing record).audit = store.audit := rfl
  unfold ExecutionSnapshot.addView
  rw [sameVersion, sameAudit, closes.view]
  cases store.loadRecordVersion env latest.1 latest.2.recordHash with
  | error error => rfl
  | ok idea =>
      dsimp only [bind, Except.bind]
      split
      · cases store.view env latest.1 with
        | error error => rfl
        | ok view =>
            exact congrArg Except.ok
              (mapValues_set (TradeIdeaView.closedBy record) views latest.1
                view).symm
      · rfl

theorem Closes.take (closes : Closes env store record last)
    (requested : Option String) :
    ExecutionSnapshot.take env requested (store.closing record) =
      (ExecutionSnapshot.take env requested store).map
        (ExecutionSnapshot.closedBy record) := by
  have sameEntries : (store.closing record).paperEntries env =
      store.paperEntries env := rfl
  have sameCloses : (store.closing record).simulatedCloses env =
      store.simulatedCloses env := rfl
  have sameLatest : (store.closing record).latestAuditEvents =
      store.latestAuditEvents := rfl
  unfold ExecutionSnapshot.take
  dsimp only
  rw [sameEntries, sameCloses, sameLatest]
  cases store.paperEntries env with
  | error error => rfl
  | ok entries =>
      cases store.simulatedCloses env with
      | error error => rfl
      | ok resolutions =>
          dsimp only [bind, Except.bind]
          have folded := Outcome.foldlM_map
            (closes.addView entries
              (ExecutionSnapshot.targets entries resolutions ++ requested.toList))
            store.latestAuditEvents.entries Dict.empty
          have start : mapValues (TradeIdeaView.closedBy record) Dict.empty =
              (Dict.empty : Dict String TradeIdeaView) := rfl
          rw [start] at folded
          rw [folded]
          cases store.latestAuditEvents.entries.foldlM
              (ExecutionSnapshot.addView env store entries
                (ExecutionSnapshot.targets entries resolutions ++
                  requested.toList)) Dict.empty with
          | error error => rfl
          | ok views =>
              have validated : (mapValues (TradeIdeaView.closedBy record)
                    views).values.forM (ExecutionSnapshot.validateView env
                      entries) =
                  views.values.forM (ExecutionSnapshot.validateView env
                    entries) := by
                rw [values_mapValues, List.forM_eq_forM, List.forM_map]
                simp only [validateView_closedBy]
              have audited : ∀ entry : PaperEntry,
                  ((mapValues (TradeIdeaView.closedBy record) views).get?
                    entry.decisionId).isSome =
                    (views.get? entry.decisionId).isSome := by
                intro entry
                rw [get?_mapValues, Option.isSome_map]
              dsimp only [Except.map]
              simp only [validated, audited]
              cases views.values.forM
                  (ExecutionSnapshot.validateView env entries) with
              | error error => rfl
              | ok checked =>
                  dsimp only
                  unfold ensure
                  split <;> rfl

theorem positions_position {found : Dict String PaperPosition}
    {projected : PaperPosition} {targetId : String}
    (projections : store.positions env = .ok found)
    (held : found.get? targetId = some projected) :
    ∃ snapshot, ExecutionSnapshot.take env none store = .ok snapshot ∧
      snapshot.position env targetId = .ok projected := by
  unfold TradeState.positions at projections
  obtain ⟨snapshot, taken, built⟩ := Outcome.bind_eq_ok.mp projections
  exact ⟨snapshot, taken, find_of_get?_foldlM built
    (fun key value absent => by cases absent) held⟩

theorem Closes.positions (closes : Closes env store record last)
    {found : Dict String PaperPosition} {projected : PaperPosition}
    (before : store.positions env = .ok found)
    (held : found.get? record.decisionId = some projected)
    (reduced : projected.reductions ≠ [])
    (agrees : ExecutionSnapshot.agreesWithCloseout projected record = true) :
    (store.closing record).positions env = .ok found := by
  unfold TradeState.positions at before ⊢
  obtain ⟨snapshot, taken, before⟩ := Outcome.bind_eq_ok.mp before
  have viewed := (take_eq_ok taken).2.2
  rw [closes.take, taken]
  refine Eq.trans ?_ before
  apply foldlM_congr
  intro target member start
  obtain ⟨position, present⟩ := get?_foldlM_isSome before (.inl member)
  have position_eq := find_of_get?_foldlM before
    (fun key value absent => by cases absent) present
  obtain ⟨view, inside, _⟩ := position_eq_ok position_eq
  have view_eq := viewed target view inside
  have named : view.idea.decisionId = target :=
    (TradeState.requireIdea_eq_ok (TradeState.view_eq_ok view_eq).1).1
  rw [position_eq, ExecutionSnapshot.position_closedBy inside position_eq named]
  rintro rfl
  obtain rfl := Option.some.inj (present.symm.trans held)
  obtain ⟨_, _, event, _, _, validated⟩ := TradeState.view_eq_ok view_eq
  rw [closes.unattributed event named] at validated
  exact ⟨(Except.ok.inj validated).symm, reduced, agrees⟩

theorem Closes.listViews (closes : Closes env store record last) :
    (store.closing record).listViews env =
      (store.listViews env).map fun views =>
        views.map (TradeIdeaView.closedBy record) :=
  Outcome.mapM_map fun decisionId _ => closes.view decisionId

/-- The order of `query_closeout_records`. -/
def closeoutOrder (left right : CloseoutAttribution) : Prop :=
  left.timestamp < right.timestamp ∨
    (left.timestamp = right.timestamp ∧ left.decisionId ≤ right.decisionId)

instance : DecidableRel closeoutOrder :=
  fun _ _ => inferInstanceAs (Decidable (_ ∨ _))

instance : Std.Total closeoutOrder where
  total left right := by
    unfold closeoutOrder
    rcases lt_trichotomy left.timestamp right.timestamp with less | same | more
    · exact .inl (.inl less)
    · rcases String.le_total left.decisionId right.decisionId with le | le
      · exact .inl (.inr ⟨same, le⟩)
      · exact .inr (.inr ⟨same.symm, le⟩)
    · exact .inr (.inl more)

instance : IsTrans CloseoutAttribution closeoutOrder where
  trans first second third := by
    unfold closeoutOrder
    rintro (before | ⟨same, le⟩) (later | ⟨equal, further⟩)
    · exact .inl (before.trans later)
    · exact .inl (before.trans_eq equal)
    · exact .inl (same.trans_lt later)
    · exact .inr ⟨same.trans equal, String.le_trans le further⟩

theorem filter_closeouts (keep : CloseoutAttribution → Bool)
    (views : List TradeIdeaView) :
    (((views.filterMap TradeIdeaView.closeoutAttribution).insertionSort
        closeoutOrder).filter keep) =
      (views.filterMap fun view =>
        view.closeoutAttribution.filter keep).insertionSort closeoutOrder := by
  rw [filter_insertionSort, List.filter_filterMap]

theorem Closes.accountingCloseouts (closes : Closes env store record last)
    {closeouts : List CloseoutAttribution}
    {found : Dict String PaperPosition} {projected : PaperPosition}
    (before : store.accountingCloseouts env = .ok closeouts)
    (projections : store.positions env = .ok found)
    (held : found.get? record.decisionId = some projected)
    (reduced : projected.reductions ≠ [])
    (agrees : ExecutionSnapshot.agreesWithCloseout projected record = true) :
    (store.closing record).accountingCloseouts env = .ok closeouts ∧
      ∃ records, (store.closing record).queryCloseoutRecords env = .ok records := by
  have after := closes.positions projections held reduced agrees
  unfold TradeState.accountingCloseouts TradeState.reductionRecords
    TradeState.queryCloseoutRecords at before ⊢
  rw [projections] at before
  rw [after, closes.listViews]
  obtain ⟨reductions, recorded, before⟩ := Outcome.bind_eq_ok.mp before
  cases recorded
  obtain ⟨records, queried, before⟩ := Outcome.bind_eq_ok.mp before
  obtain ⟨views, listed, returned⟩ := Outcome.bind_eq_ok.mp queried
  cases returned
  rw [← before, listed]
  refine ⟨?_, _, rfl⟩
  change Except.ok _ = Except.ok _
  congr 2
  change List.filter _ (List.insertionSort closeoutOrder _) =
    List.filter _ (List.insertionSort closeoutOrder _)
  rw [filter_closeouts, filter_closeouts, List.filterMap_map]
  congr 1
  apply List.filterMap_congr
  intro view member
  obtain ⟨decisionId, _, view_eq⟩ := Outcome.mem_mapM listed member
  have required := (TradeState.view_eq_ok view_eq).1
  have named := (TradeState.requireIdea_eq_ok required).1
  change ((view.closedBy record).closeoutAttribution.filter _) = _
  unfold TradeIdeaView.closedBy
  by_cases same : view.idea.decisionId = record.decisionId
  · -- The new record is left out, as is its decision before.
    obtain ⟨snapshot, taken, position_eq⟩ := positions_position projections held
    obtain ⟨fact, present⟩ := List.exists_mem_of_ne_nil _ reduced
    have target := (holdsRecorded taken position_eq).named
    obtain ⟨_, _, event, _, _, validated⟩ := TradeState.view_eq_ok view_eq
    rw [closes.unattributed event same] at validated
    rw [if_pos same, ← Except.ok.inj validated, Option.filter_none]
    apply Option.filter_eq_none_iff.mpr
    rintro _ ⟨⟩
    rw [Bool.not_eq_true, decide_eq_false_iff_not, not_not, List.map_map]
    apply List.mem_map.mpr
    refine ⟨projected.reductionRecord env fact, ?_, target⟩
    apply List.mem_flatMap.mpr
    exact ⟨projected,
      List.mem_map.mpr ⟨_, Dict.get?_eq_some_iff.mp held, rfl⟩,
      List.mem_map.mpr ⟨fact, present, rfl⟩⟩
  · rw [if_neg same]

theorem Closes.paperAccounting (closes : Closes env store record last)
    {summary : PaperAccountingSummary}
    {found : Dict String PaperPosition} {projected : PaperPosition}
    (before : store.paperAccounting env = .ok summary)
    (projections : store.positions env = .ok found)
    (held : found.get? record.decisionId = some projected)
    (reduced : projected.reductions ≠ [])
    (agrees : ExecutionSnapshot.agreesWithCloseout projected record = true) :
    ∃ count, (store.closing record).paperAccounting env =
      .ok { summary with closeoutCount := count } := by
  unfold TradeState.paperAccounting at before ⊢
  obtain ⟨entries, history, before⟩ := Outcome.bind_eq_ok.mp before
  obtain ⟨closeouts, collected, before⟩ := Outcome.bind_eq_ok.mp before
  obtain ⟨records, _, returned⟩ := Outcome.bind_eq_ok.mp before
  cases returned
  obtain ⟨same, others, queried⟩ :=
    closes.accountingCloseouts collected projections held reduced agrees
  have sameBudget : (store.closing record).budget = store.budget := rfl
  rw [same, queried, sameBudget, history]
  exact ⟨others.length, rfl⟩

end Closing

namespace ServiceTx

variable {env : TradeEnv} {state reached : ServiceState} {decisionId : String}
  {resolved : Resolved}

/-- What a closeout of a decision with reductions has to repeat. -/
structure Repeats (projected : PaperPosition) (resolved : Resolved)
    (time : Option ℤ) : Prop where
  reduced : projected.reductions ≠ []
  closed : projected.remaining = 0 ∧ projected.reserved = 0
  amount : resolved.amount = some projected.realizedTotal
  last : time = projected.lastReduction
  timed : time.isSome = true

theorem resolutionTime_eq_ok {projected : Option PaperPosition}
    {time : Option ℤ}
    (allowed : resolutionTime projected resolved = .ok time) :
    (∃ position, projected = some position ∧ Repeats position resolved time) ∨
      (resolved.resolvedAt = none ∧
        ∀ position, projected = some position → position.reductions = []) := by
  unfold resolutionTime at allowed
  obtain ⟨_, unreserved, allowed⟩ := Outcome.bind_eq_ok.mp allowed
  have unreserved := ensure_eq_ok.mp unreserved
  cases projected with
  | none =>
      obtain ⟨_, unresolved, _⟩ := Outcome.bind_eq_ok.mp allowed
      exact .inr ⟨ensure_eq_ok.mp unresolved, by simp⟩
  | some position =>
      rw [Option.bind_some] at allowed
      cases last : position.lastReduction with
      | none =>
          right
          rw [last] at allowed
          obtain ⟨_, unresolved, _⟩ := Outcome.bind_eq_ok.mp allowed
          refine ⟨ensure_eq_ok.mp unresolved, ?_⟩
          rintro _ ⟨⟩
          unfold PaperPosition.lastReduction at last
          simpa using last
      | some factTime =>
          left
          rw [last] at allowed
          obtain ⟨_, _, allowed⟩ := Outcome.bind_eq_ok.mp allowed
          obtain ⟨_, final, returned⟩ := Outcome.bind_eq_ok.mp allowed
          cases returned
          obtain ⟨remaining, amount⟩ := ensure_eq_ok.mp final
          refine ⟨position, rfl, ?_, ⟨remaining, by simpa using unreserved⟩,
            amount, last.symm, rfl⟩
          intro none
          rw [PaperPosition.lastReduction, none] at last
          cases last

/-- What a recorded closeout was checked against and appended to. -/
structure RecordsCloseout (env : TradeEnv) (state reached : ServiceState)
    (decisionId : String) (resolved : Resolved) (record : CloseoutAttribution)
    (found : Dict String PaperPosition) (last : AuditEvent) (time : Option ℤ) :
    Prop where
  named : record.decisionId = decisionId
  projections : state.store.positions env = .ok found
  resolution : resolutionTime (found.get? decisionId) resolved = .ok time
  ended : state.store.audit.lastEvent decisionId = some last
  terminal : last.afterState.terminal = true
  event : record.terminalEventId = last.eventId
  hash : record.recordHash = last.recordHash
  snapshot : ∀ idea, state.store.requireIdea env decisionId = .ok idea →
    record.maxLoss = idea.maxLoss.snapshot
  amount : record.realizedProfitLossAmount = resolved.amount
  timestamp : ∀ moment ∈ time, record.timestamp = moment
  appended : (state.store.closeouts.get record.decisionId = .ok (some record) ∧
      reached.store = state.store) ∨
    (state.store.closeouts.get record.decisionId = .ok none ∧
      reached.store = state.store.closing record)

theorem closeoutOf_eq_ok {view : TradeIdeaView} {terminal : AuditEvent}
    {timestamp : ℤ} {actorType : ActorType} {actorId : String}
    {record : CloseoutAttribution}
    (made : closeoutOf view terminal timestamp actorType actorId resolved =
      .ok record) :
    record.decisionId = view.idea.decisionId ∧ record.timestamp = timestamp ∧
      record.terminalEventId = terminal.eventId ∧
      record.recordHash = terminal.recordHash ∧
      record.maxLoss = view.idea.maxLoss.snapshot ∧
      record.realizedProfitLossAmount = resolved.amount := by
  unfold closeoutOf at made
  split at made
  · cases made
    exact ⟨rfl, rfl, rfl, rfl, rfl, rfl⟩
  · cases made

theorem recordCloseoutAttribution_eq_ok {actorType : ActorType}
    {actorId : String} {record : CloseoutAttribution}
    (returned : recordCloseoutAttribution env decisionId actorType actorId
      resolved state = (.ok record, reached)) :
    ∃ found last time, RecordsCloseout env state reached decisionId resolved
      record found last time := by
  unfold recordCloseoutAttribution at returned
  obtain ⟨⟨view, terminal, time⟩, _, asked, returned⟩ :=
    Tx.bind_eq_ok.mp returned
  obtain ⟨basis, rfl⟩ := ask_eq_ok.mp asked
  dsimp only at returned
  obtain ⟨timestamp, timed, given, returned⟩ := Tx.bind_eq_ok.mp returned
  obtain ⟨made, _, lifted, returned⟩ := Tx.bind_eq_ok.mp returned
  obtain ⟨made_eq, rfl⟩ := lift_eq_ok.mp lifted
  obtain ⟨_, after, appending, returned⟩ := Tx.bind_eq_ok.mp returned
  obtain ⟨rfl, rfl⟩ := Tx.pure_eq_ok.mp returned
  have kept : timed.store = state.store ∧
      ∀ moment ∈ time, timestamp = moment := by
    cases time with
    | none =>
        change now env state = _ at given
        rw [now_apply] at given
        cases given
        exact ⟨rfl, by simp⟩
    | some moment =>
        obtain ⟨rfl, rfl⟩ := Tx.pure_eq_ok.mp given
        refine ⟨rfl, ?_⟩
        rintro _ ⟨⟩
        rfl
  unfold closeoutBasis at basis
  obtain ⟨viewed, view_eq, basis⟩ := Outcome.bind_eq_ok.mp basis
  obtain ⟨_, ends, basis⟩ := Outcome.bind_eq_ok.mp basis
  obtain ⟨_, _, basis⟩ := Outcome.bind_eq_ok.mp basis
  obtain ⟨found, projections, basis⟩ := Outcome.bind_eq_ok.mp basis
  obtain ⟨resolvedTime, resolution, basis⟩ := Outcome.bind_eq_ok.mp basis
  split at basis
  · cases basis
  · next terminal' ended =>
      cases basis
      obtain ⟨required, events, last, latest, after_eq, _⟩ :=
        TradeState.view_eq_ok view_eq
      have named := (TradeState.requireIdea_eq_ok required).1
      obtain ⟨decision, stamped, event, hash, snapshot, amount⟩ :=
        closeoutOf_eq_ok made_eq
      have last_eq : state.store.audit.lastEvent decisionId = some terminal := by
        unfold AuditLog.lastEvent
        rw [← events]
        exact ended
      obtain rfl := Option.some.inj (last_eq.symm.trans latest)
      refine ⟨found, terminal, time,
        { named := decision.trans named
          projections := projections
          resolution := resolution
          ended := last_eq
          terminal := by
            rw [← after_eq]
            exact ensure_eq_ok.mp ends
          event := event
          hash := hash
          snapshot := fun idea again => by
            obtain rfl := Except.ok.inj (required.symm.trans again)
            exact snapshot
          amount := amount
          timestamp := fun moment member =>
            stamped.trans (kept.2 moment member)
          appended := ?_ }⟩
      unfold appendCloseout at appending
      rw [alter_apply, kept.1] at appending
      split at appending
      · next store changed =>
          obtain ⟨closeouts, appended, rfl⟩ := Outcome.map_eq_ok.mp changed
          cases appending
          rcases CloseoutAttributionLog.append_eq_ok appended with
            ⟨present, rfl⟩ | ⟨absent, rfl⟩
          · exact .inl ⟨present, rfl⟩
          · exact .inr ⟨absent, rfl⟩
      · cases appending

theorem recordCloseoutAttribution_paperAccounting {actorType : ActorType}
    {actorId : String} {record : CloseoutAttribution}
    {found : Dict String PaperPosition} {projected : PaperPosition}
    {summary : PaperAccountingSummary}
    (projections : state.store.positions env = .ok found)
    (held : found.get? decisionId = some projected)
    (reduced : projected.reductions ≠ [])
    (returned : recordCloseoutAttribution env decisionId actorType actorId
      resolved state = (.ok record, reached))
    (before : state.store.paperAccounting env = .ok summary) :
    ∃ count, reached.store.paperAccounting env =
      .ok { summary with closeoutCount := count } := by
  obtain ⟨found', last, time, records⟩ :=
    recordCloseoutAttribution_eq_ok returned
  obtain rfl := Except.ok.inj (projections.symm.trans records.projections)
  rcases resolutionTime_eq_ok records.resolution with
    ⟨position, held', repeated⟩ | ⟨_, unreduced⟩
  · obtain rfl := Option.some.inj (held.symm.trans held')
    rcases records.appended with ⟨_, same⟩ | ⟨absent, closing⟩
    · rw [same]
      exact ⟨summary.closeoutCount, before⟩
    · have named := records.named
      have closes : Closes env state.store record last :=
        { fresh := absent
          ended := named ▸ records.ended
          terminal := records.terminal
          event := records.event
          hash := records.hash
          snapshot := named ▸ records.snapshot }
      have agrees :
          ExecutionSnapshot.agreesWithCloseout projected record = true := by
        obtain ⟨moment, timed⟩ := Option.isSome_iff_exists.mp repeated.timed
        apply decide_eq_true
        refine ⟨repeated.closed.1, repeated.closed.2,
          records.amount.trans repeated.amount, ?_⟩
        rw [records.timestamp moment (by simp [timed]), ← timed]
        exact repeated.last
      rw [closing]
      exact closes.paperAccounting before projections (named ▸ held) reduced
        agrees
  · exact absurd (unreduced projected held) reduced

theorem finalizePosition_paperAccounting {actorId : String}
    {resolution : CloseoutResolution} {evidence : List String}
    {record : Option CloseoutAttribution} {summary : PaperAccountingSummary}
    (returned : finalizePosition env decisionId actorId resolution evidence
      state = (.ok record, reached))
    (before : state.store.paperAccounting env = .ok summary) :
    ∃ count, reached.store.paperAccounting env =
      .ok { summary with closeoutCount := count } := by
  unfold finalizePosition at returned
  obtain ⟨projected, _, asked, returned⟩ := Tx.bind_eq_ok.mp returned
  obtain ⟨_, rfl⟩ := ask_eq_ok.mp asked
  split at returned
  · obtain ⟨_, rfl⟩ := Tx.pure_eq_ok.mp returned
    exact ⟨summary.closeoutCount, before⟩
  obtain ⟨view, _, got, returned⟩ := Tx.bind_eq_ok.mp returned
  obtain ⟨_, rfl⟩ := ask_eq_ok.mp got
  cases attributed : view.closeoutAttribution with
  | some existing =>
      rw [attributed] at returned
      dsimp only at returned
      split at returned
      · obtain ⟨_, rfl⟩ := Tx.pure_eq_ok.mp returned
        exact ⟨summary.closeoutCount, before⟩
      · cases returned
  | none =>
      cases last : projected.lastReduction with
      | none =>
          rw [attributed, last] at returned
          cases returned
      | some resolvedAt =>
          rw [attributed, last] at returned
          dsimp only at returned
          obtain ⟨record, final, recorded, returned⟩ :=
            Tx.bind_eq_ok.mp returned
          obtain ⟨_, rfl⟩ := Tx.pure_eq_ok.mp returned
          obtain ⟨found, _, _, records⟩ :=
            recordCloseoutAttribution_eq_ok recorded
          rcases resolutionTime_eq_ok records.resolution with
            ⟨position, held, repeated⟩ | ⟨unresolved, _⟩
          · exact recordCloseoutAttribution_paperAccounting records.projections
              held repeated.reduced recorded before
          · cases unresolved

/-- Realized amounts count once, before and after a final closeout. -/
structure CountsRealizedOnce (env : TradeEnv) (state : ServiceState) : Prop where
  total : ∀ summary, state.store.paperAccounting env = .ok summary →
    RealizedOnce env state.store summary.realizedProfitLossTotal
  recorded : ∀ decisionId actorType actorId resolved record reached found
    projected summary, state.store.positions env = .ok found →
    found.get? decisionId = some projected → projected.reductions ≠ [] →
    recordCloseoutAttribution env decisionId actorType actorId resolved state =
      (.ok record, reached) →
    state.store.paperAccounting env = .ok summary →
    ∃ count, reached.store.paperAccounting env =
      .ok { summary with closeoutCount := count }
  finalized : ∀ targetId actorId resolution evidence record reached summary,
    finalizePosition env targetId actorId resolution evidence state =
      (.ok record, reached) →
    state.store.paperAccounting env = .ok summary →
    ∃ count, reached.store.paperAccounting env =
      .ok { summary with closeoutCount := count }

def gain (decisionId : String) (amount : ℚ) : CloseoutAttribution :=
  { PaperAccounting.tinyGain decisionId with
    realizedProfitLossAmount := some amount
    realized := .inl rfl }

end ServiceTx

end GptTrader
