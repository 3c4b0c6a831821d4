import Mathlib.Data.List.Dedup
import Mathlib.Data.List.ReduceOption
import GptTrader.Library.KeyedLists
import GptTrader.TradeIdeas.EquityLedger
import GptTrader.TradeIdeas.ServiceSteps

/-!
# Realized paper profit and loss

Where the realized total of `paper_accounting` comes from: every reduction fact
of the journal counts once, against the fill of the entry it reduces, and so does
every closeout of an entry without reductions.
-/

namespace GptTrader

open ExecutionSnapshot KeyedLists

section Facts

def filledReduction (entry : PaperEntry) : Option (String × ReductionFact) := do
  let operation ← entry.intent.positionOperation
  let fact ← (share entry operation).fact?
  some (operation.targetDecisionId, fact)

def SimulatedClose.reduction (close : SimulatedClose) : String × ReductionFact :=
  (close.targetDecisionId,
    { operationId := close.operationId
      quantity := close.quantity
      price := close.price
      timestamp := close.resolvedAt
      source := "simulated_candle_resolution"
      resolution := close.resolution })

/-- The reductions the journal records. -/
def recordedReductions (entries : List PaperEntry)
    (closes : List SimulatedClose) : List (String × ReductionFact) :=
  entries.filterMap filledReduction ++ closes.map SimulatedClose.reduction

def realizedAgainst (env : TradeEnv) (view : TradeIdeaView)
    (fact : ReductionFact) : Option ℚ :=
  if view.state = .filled ∧ view.idea.positionOperation = none then do
    let fill ← recordedFillFromView env view
    let price ← fill.price
    let move := fact.price - price
    some (fact.quantity * if view.idea.direction = .long then move else -move)
  else none

def recordedAmount (env : TradeEnv) (store : TradeState)
    (reduction : String × ReductionFact) : Option ℚ :=
  match store.view env reduction.1 with
  | .ok view => realizedAgainst env view reduction.2
  | .error _ => none

/-- Each recorded amount is counted once. -/
def RealizedOnce (env : TradeEnv) (store : TradeState) (total : ℚ) : Prop :=
  ∃ entries closes records, ∃ amounts : List ℚ,
    store.paperEntries env = .ok entries ∧
      store.simulatedCloses env = .ok closes ∧
      store.queryCloseoutRecords env = .ok records ∧
      (recordedReductions entries closes).map (recordedAmount env store) =
        amounts.map some ∧
      total = amounts.sum +
        sumKnown ((records.filter fun record => decide (record.decisionId ∉
          (recordedReductions entries closes).map Prod.fst)).map
            CloseoutAttribution.realizedProfitLossAmount)

end Facts

section Totals

namespace PaperAccounting

def LedgerEvent.amount : LedgerEvent → ℚ
  | .attestation _ => 0
  | .closeout record => record.realizedProfitLossAmount.getD 0

theorem Ledger.fold_realizedTotal (ledger : Ledger) (event : LedgerEvent) :
    (ledger.fold event).realizedTotal = ledger.realizedTotal + event.amount := by
  cases event with
  | attestation attested => exact (add_zero _).symm
  | closeout record =>
      unfold Ledger.fold LedgerEvent.amount
      dsimp only
      cases record.realizedProfitLossAmount with
      | none => exact (add_zero _).symm
      | some amount => cases ledger.equity <;> rfl

theorem Ledger.foldl_realizedTotal (events : List LedgerEvent)
    (ledger : Ledger) :
    (events.foldl Ledger.fold ledger).realizedTotal =
      ledger.realizedTotal + (events.map LedgerEvent.amount).sum := by
  induction events generalizing ledger with
  | nil => exact (add_zero _).symm
  | cons event events induction =>
      rw [List.foldl_cons, induction, fold_realizedTotal, List.map_cons,
        List.sum_cons, add_assoc]

theorem sumKnown_eq (values : List (Option ℚ)) :
    sumKnown values = (values.map fun value => value.getD 0).sum := by
  unfold sumKnown
  induction values with
  | nil => rfl
  | cons value values induction =>
      cases value with
      | none =>
          rw [List.reduceOption_cons_of_none, induction, List.map_cons,
            List.sum_cons, Option.getD_none, zero_add]
      | some value =>
          rw [List.reduceOption_cons_of_some, List.sum_cons, induction,
            List.map_cons, List.sum_cons, Option.getD_some]

theorem sumKnown_append (left right : List (Option ℚ)) :
    sumKnown (left ++ right) = sumKnown left + sumKnown right := by
  unfold sumKnown
  rw [List.reduceOption_append, List.sum_append]

theorem compute_realizedTotal (entries : List BudgetLogEntry)
    (closeouts : List CloseoutAttribution)
    (terminalTimes : List (String × ℤ)) :
    (compute entries closeouts terminalTimes).realizedProfitLossTotal =
      sumKnown (closeouts.map
        CloseoutAttribution.realizedProfitLossAmount) := by
  unfold compute
  dsimp only
  rw [Ledger.foldl_realizedTotal, sumKnown_eq, List.map_map]
  change 0 + _ = _
  rw [zero_add]
  unfold mergedLedgerEvents
  dsimp only
  rw [List.map_map,
    ((List.perm_insertionSort ledgerOrder _).map _).sum_eq, List.map_append,
    List.sum_append, List.map_map, List.map_map]
  have attested : ∀ attestations : List EquityAttestation,
      (attestations.map ((LedgerEvent.amount ∘ fun event : ℤ × ℕ × LedgerEvent =>
        event.2.2) ∘ fun attestation =>
          (attestation.timestamp, 0, LedgerEvent.attestation attestation))).sum =
        0 := by
    intro attestations
    apply List.sum_eq_zero
    intro amount member
    obtain ⟨_, _, rfl⟩ := List.mem_map.mp member
    rfl
  rw [attested, zero_add]
  rfl

end PaperAccounting

end Totals

section Projection

variable {env : TradeEnv} {snapshot : ExecutionSnapshot}

theorem targetShare_eq_ok {target : TradeIdea} {entry : PaperEntry}
    {found : Option Share}
    (checked : targetShare env snapshot target entry = .ok found) :
    (found.bind Share.fact?).toList =
      valuesOf target.decisionId (filledReduction entry).toList := by
  unfold targetShare at checked
  unfold filledReduction
  cases reducing : entry.intent.positionOperation with
  | none =>
      rw [reducing] at checked
      cases checked
      rfl
  | some operation =>
      simp only [reducing] at checked
      rw [Option.bind_eq_bind, Option.bind_some]
      by_cases own : operation.targetDecisionId = target.decisionId
      · rw [if_pos own, Outcome.bind_eq_ok] at checked
        obtain ⟨_, _, checked⟩ := checked
        split at checked
        · cases checked
        · rw [Outcome.bind_eq_ok] at checked
          obtain ⟨_, _, checked⟩ := checked
          rw [Outcome.bind_eq_ok] at checked
          obtain ⟨_, _, checked⟩ := checked
          cases checked
          cases fact : (share entry operation).fact? with
          | none =>
              simp [fact, valuesOf]
          | some fact =>
              simp [fact, valuesOf, own]
      · rw [if_neg own] at checked
        cases checked
        cases (share entry operation).fact? with
        | none => rfl
        | some fact => simp [valuesOf, own]

theorem simulatedFact_eq_ok {target : TradeIdea} {close : SimulatedClose}
    {found : Option ReductionFact}
    (checked : simulatedFact env target close = .ok found) :
    found.toList = valuesOf target.decisionId [close.reduction] := by
  unfold simulatedFact at checked
  by_cases own : close.targetDecisionId = target.decisionId
  · rw [if_pos own, Outcome.bind_eq_ok] at checked
    obtain ⟨_, _, checked⟩ := checked
    cases checked
    simp [valuesOf, SimulatedClose.reduction, own]
  · rw [if_neg own] at checked
    cases checked
    simp [valuesOf, SimulatedClose.reduction, own]

theorem reductions_eq_recorded {target : TradeIdea}
    {shares : List (Option Share)} {simulated : List (Option ReductionFact)}
    (shared : snapshot.entries.mapM (targetShare env snapshot target) =
      .ok shares)
    (closed : snapshot.resolutions.mapM (simulatedFact env target) =
      .ok simulated) :
    shares.reduceOption.filterMap Share.fact? ++ simulated.reduceOption =
      valuesOf target.decisionId
        (recordedReductions snapshot.entries snapshot.resolutions) := by
  unfold recordedReductions
  rw [valuesOf_append]
  congr 1
  · rw [List.filterMap_eq_flatMap_toList filledReduction, valuesOf_flatMap,
      ← flatMap_mapM (fun _ _ => targetShare_eq_ok) shared]
    unfold List.reduceOption
    rw [List.filterMap_filterMap, List.filterMap_eq_flatMap_toList]
    rfl
  · rw [List.map_eq_flatMap, valuesOf_flatMap,
      ← flatMap_mapM (fun _ _ => simulatedFact_eq_ok) closed]
    unfold List.reduceOption
    rw [List.filterMap_eq_flatMap_toList]
    rfl

theorem confirmedEntry_eq_ok {view : TradeIdeaView} {fill : ConfirmedEntry}
    (confirmed : confirmedEntry env view = .ok fill) :
    (view.state = .filled ∧ view.idea.positionOperation = none) ∧
      ∃ recorded, recordedFillFromView env view = some recorded ∧
        recorded.price = some fill.price := by
  unfold confirmedEntry at confirmed
  rw [Outcome.branch_eq_ok] at confirmed
  obtain ⟨⟨filled, opening, _⟩, confirmed⟩ := confirmed
  refine ⟨⟨filled, opening⟩, ?_⟩
  split at confirmed
  · cases confirmed
  · next recorded found =>
      split at confirmed
      · next quantity price known priced =>
          split at confirmed
          · rw [Outcome.branch_eq_ok] at confirmed
            cases confirmed.2
            exact ⟨recorded, found, priced⟩
          · cases confirmed
      · cases confirmed

/-- What a projected position states of its target. -/
structure Projects (env : TradeEnv) (snapshot : ExecutionSnapshot)
    (view : TradeIdeaView) (projected : PaperPosition) : Prop where
  idea : projected.idea = view.idea
  reductions : projected.reductions = valuesOf view.idea.decisionId
    (recordedReductions snapshot.entries snapshot.resolutions)
  realizes : ∀ fact,
    realizedAgainst env view fact = some (projected.realizedAmount fact)

theorem position_eq_ok {targetId : String} {projected : PaperPosition}
    (found : snapshot.position env targetId = .ok projected) :
    ∃ view, snapshot.views.get? targetId = some view ∧
      Projects env snapshot view projected := by
  unfold ExecutionSnapshot.position at found
  split at found
  · cases found
  · next view viewed =>
      refine ⟨view, viewed, ?_⟩
      rw [Outcome.bind_eq_ok] at found
      obtain ⟨fill, confirmed, found⟩ := found
      rw [Outcome.bind_eq_ok] at found
      obtain ⟨shares, shared, found⟩ := found
      rw [Outcome.bind_eq_ok] at found
      obtain ⟨simulated, closed, found⟩ := found
      dsimp only at found
      rw [Outcome.bind_eq_ok] at found
      obtain ⟨_, _, found⟩ := found
      rw [Outcome.bind_eq_ok] at found
      obtain ⟨_, _, found⟩ := found
      have reductions := reductions_eq_recorded shared closed
      obtain ⟨filled, recorded, fills, priced⟩ := confirmedEntry_eq_ok confirmed
      have realizes : ∀ (position : PaperPosition) fact,
          position.idea = view.idea → position.entryPrice = fill.price →
          realizedAgainst env view fact = some (position.realizedAmount fact) := by
        intro position fact idea price
        unfold realizedAgainst PaperPosition.realizedAmount
        rw [if_pos filled, fills, idea, price]
        simp only [Option.bind_eq_bind, Option.bind_some, priced]
      split at found
      · cases found
        exact ⟨rfl, reductions, fun fact => realizes _ fact rfl rfl⟩
      · split at found
        · cases found
          exact ⟨rfl, reductions, fun fact => realizes _ fact rfl rfl⟩
        · split at found
          · cases found
            exact ⟨rfl, reductions, fun fact => realizes _ fact rfl rfl⟩
          · cases found

variable {store : TradeState}

theorem take_eq_ok {requested : Option String}
    (taken : ExecutionSnapshot.take env requested store = .ok snapshot) :
    store.paperEntries env = .ok snapshot.entries ∧
      store.simulatedCloses env = .ok snapshot.resolutions ∧
      ∀ decisionId view, snapshot.views.get? decisionId = some view →
        store.view env decisionId = .ok view := by
  unfold ExecutionSnapshot.take at taken
  rw [Outcome.bind_eq_ok] at taken
  obtain ⟨entries, read, taken⟩ := taken
  rw [Outcome.bind_eq_ok] at taken
  obtain ⟨resolutions, resolved, taken⟩ := taken
  rw [Outcome.bind_eq_ok] at taken
  obtain ⟨views, viewed, taken⟩ := taken
  rw [Outcome.bind_eq_ok] at taken
  obtain ⟨_, _, taken⟩ := taken
  rw [Outcome.bind_eq_ok] at taken
  obtain ⟨_, _, taken⟩ := taken
  cases taken
  refine ⟨read, resolved, ?_⟩
  apply Outcome.foldlM_induction
    (fun views : Dict String TradeIdeaView => ∀ decisionId view,
      views.get? decisionId = some view → store.view env decisionId = .ok view)
    ?_ ?_ viewed
  · intro decisionId view found
    cases found
  · intro views latest added kept step
    unfold addView at step
    rw [Outcome.bind_eq_ok] at step
    obtain ⟨idea, _, step⟩ := step
    split at step
    · rw [Outcome.bind_eq_ok] at step
      obtain ⟨view, viewed, step⟩ := step
      cases step
      intro decisionId other found
      rw [Dict.get?_set] at found
      split at found
      · next same =>
          cases found
          rw [same]
          exact viewed
      · exact kept decisionId other found
    · cases step
      exact kept

theorem recorded_target {entries : List PaperEntry}
    {closes : List SimulatedClose} {reduction : String × ReductionFact}
    (recorded : reduction ∈ recordedReductions entries closes) :
    reduction.1 ∈ ExecutionSnapshot.targets entries closes := by
  unfold recordedReductions at recorded
  unfold ExecutionSnapshot.targets
  rw [List.mem_append] at recorded ⊢
  rcases recorded with filled | closed
  · left
    obtain ⟨entry, member, filled⟩ := List.mem_filterMap.mp filled
    apply List.mem_filterMap.mpr
    refine ⟨entry, member, ?_⟩
    unfold filledReduction at filled
    simp only [Option.bind_eq_bind, Option.bind_eq_some_iff] at filled
    obtain ⟨operation, reducing, fact, _, returned⟩ := filled
    cases returned
    rw [reducing]
    rfl
  · right
    obtain ⟨close, member, rfl⟩ := List.mem_map.mp closed
    exact List.mem_map.mpr ⟨close, member, rfl⟩

theorem positions_eq_ok {found : Dict String PaperPosition}
    (projected : store.positions env = .ok found) :
    ∃ snapshot targets,
      ExecutionSnapshot.take env none store = .ok snapshot ∧ targets.Nodup ∧
      (∀ reduction ∈ recordedReductions snapshot.entries snapshot.resolutions,
        reduction.1 ∈ targets) ∧
      targets.mapM (snapshot.position env) = .ok found.values ∧
      found.keys = targets := by
  unfold TradeState.positions at projected
  rw [Outcome.bind_eq_ok] at projected
  obtain ⟨snapshot, taken, projected⟩ := projected
  dsimp only at projected
  have perm := List.perm_insertionSort (fun left right : String => left ≤ right)
    (ExecutionSnapshot.targets snapshot.entries snapshot.resolutions).dedup
  generalize (ExecutionSnapshot.targets snapshot.entries
    snapshot.resolutions).dedup.insertionSort (fun left right : String =>
      left ≤ right) = targets at projected perm
  have nodup : targets.Nodup := perm.nodup_iff.mpr (List.nodup_dedup _)
  obtain ⟨positions, traversed, entries⟩ := foldlM_set_eq_ok nodup
    (by intro key _ present; cases present) projected
  have same : targets.length = positions.length :=
    (Outcome.mapM_eq_ok.mp traversed).length_eq
  refine ⟨snapshot, targets, taken, nodup, ?_, ?_, ?_⟩
  · intro reduction recorded
    rw [perm.mem_iff, List.mem_dedup]
    exact recorded_target recorded
  · rw [traversed]
    unfold Dict.values
    rw [entries]
    change _ = Except.ok (List.map Prod.snd (targets.zip positions))
    rw [List.map_snd_zip same.ge]
  · unfold Dict.keys
    rw [entries]
    change List.map Prod.fst (targets.zip positions) = _
    rw [List.map_fst_zip same.le]

end Projection

section RealizedTotal

variable {env : TradeEnv} {store : TradeState}

/-- A projected position holds the facts recorded for its target. -/
structure HoldsRecorded (env : TradeEnv) (store : TradeState)
    (recorded : List (String × ReductionFact)) (target : String)
    (projected : PaperPosition) : Prop where
  named : projected.idea.decisionId = target
  reductions : projected.reductions = valuesOf target recorded
  amounts : ∀ fact, recordedAmount env store (target, fact) =
    some (projected.realizedAmount fact)

theorem holdsRecorded {requested : Option String} {snapshot : ExecutionSnapshot}
    (taken : ExecutionSnapshot.take env requested store = .ok snapshot)
    {target : String} {projected : PaperPosition}
    (found : snapshot.position env target = .ok projected) :
    HoldsRecorded env store
      (recordedReductions snapshot.entries snapshot.resolutions) target
      projected := by
  obtain ⟨view, held, projects⟩ := position_eq_ok found
  have viewed := (take_eq_ok taken).2.2 target view held
  have named : view.idea.decisionId = target :=
    (TradeState.requireIdea_eq_ok (TradeState.view_eq_ok viewed).1).1
  refine ⟨?_, ?_, ?_⟩
  · rw [projects.idea, named]
  · rw [projects.reductions, named]
  · intro fact
    unfold recordedAmount
    rw [viewed]
    exact projects.realizes fact

theorem mem_keys_iff {recorded : List (String × ReductionFact)}
    {targets : List String}
    (covered : ∀ reduction ∈ recorded, reduction.1 ∈ targets)
    (decisionId : String) :
    decisionId ∈ (targets.flatMap fun target =>
        (valuesOf target recorded).map fun _ => target) ↔
      decisionId ∈ recorded.map Prod.fst := by
  unfold valuesOf
  constructor
  · intro member
    obtain ⟨target, _, member⟩ := List.mem_flatMap.mp member
    obtain ⟨fact, kept, rfl⟩ := List.mem_map.mp member
    obtain ⟨reduction, inside, rfl⟩ := List.mem_map.mp kept
    obtain ⟨present, same⟩ := List.mem_filter.mp inside
    exact List.mem_map.mpr ⟨reduction, present, of_decide_eq_true same⟩
  · intro member
    obtain ⟨reduction, present, rfl⟩ := List.mem_map.mp member
    apply List.mem_flatMap.mpr
    refine ⟨reduction.1, covered reduction present, ?_⟩
    apply List.mem_map.mpr
    refine ⟨reduction.2, List.mem_map.mpr ⟨reduction, ?_, rfl⟩, rfl⟩
    exact List.mem_filter.mpr ⟨present, decide_eq_true rfl⟩

/-- The records of reductions are the journal's. -/
theorem reductionRecords_eq_ok {reductions : List (Exposure × CloseoutAttribution)}
    (recorded : store.reductionRecords env = .ok reductions) :
    ∃ entries closes, ∃ amounts : List ℚ,
      store.paperEntries env = .ok entries ∧
      store.simulatedCloses env = .ok closes ∧
      (recordedReductions entries closes).map (recordedAmount env store) =
        amounts.map some ∧
      sumKnown (reductions.map fun reduction =>
        reduction.2.realizedProfitLossAmount) = amounts.sum ∧
      ∀ decisionId, decisionId ∈ (reductions.map Prod.snd).map
          CloseoutAttribution.decisionId ↔
        decisionId ∈ (recordedReductions entries closes).map Prod.fst := by
  unfold TradeState.reductionRecords at recorded
  rw [Outcome.bind_eq_ok] at recorded
  obtain ⟨positions, projected, returned⟩ := recorded
  cases returned
  obtain ⟨snapshot, targets, taken, nodup, covered, traversed, _⟩ :=
    positions_eq_ok projected
  obtain ⟨read, resolved, viewed⟩ := take_eq_ok taken
  have holds := fun target projected
      (found : snapshot.position env target = .ok projected) =>
    holdsRecorded taken found
  generalize rows : recordedReductions snapshot.entries snapshot.resolutions =
    recorded at covered holds
  refine ⟨snapshot.entries, snapshot.resolutions,
    recorded.map fun reduction => (recordedAmount env store reduction).getD 0,
    read, resolved, ?_, ?_, ?_⟩
  · rw [rows, List.map_map]
    apply List.map_congr_left
    intro reduction present
    obtain ⟨projected, _, found⟩ :=
      Outcome.result_mem_mapM traversed (covered reduction present)
    have amount := (holds _ _ found).amounts reduction.2
    rw [Function.comp_apply, amount, Option.getD_some]
  · have each : ∀ target projected,
        snapshot.position env target = .ok projected →
        projected.reductions.map projected.realizedAmount =
          (valuesOf target recorded).map fun fact =>
            (recordedAmount env store (target, fact)).getD 0 := by
      intro target projected found
      have held := holds target projected found
      rw [held.reductions]
      apply List.map_congr_left
      intro fact _
      rw [held.amounts, Option.getD_some]
    have collected := flatMap_mapM each traversed
    rw [PaperAccounting.sumKnown_eq, List.map_flatMap, List.map_flatMap]
    simp only [List.map_map]
    change (List.flatMap (fun projected : PaperPosition =>
      projected.reductions.map projected.realizedAmount) positions.values).sum = _
    rw [collected, List.flatMap_def, List.sum_flatten, List.map_map]
    exact sum_by_key nodup covered fun target fact =>
      (recordedAmount env store (target, fact)).getD 0
  · intro decisionId
    have each : ∀ target projected,
        snapshot.position env target = .ok projected →
        projected.reductions.map (fun _ => projected.idea.decisionId) =
          (valuesOf target recorded).map fun _ => target := by
      intro target projected found
      have held := holds target projected found
      rw [held.reductions, held.named]
    have collected := flatMap_mapM each traversed
    rw [rows, ← mem_keys_iff covered, ← collected, List.map_flatMap,
      List.map_flatMap]
    simp only [List.map_map]
    rfl

/-- The accounting counts every reduction once. -/
theorem realizedOnce {summary : PaperAccountingSummary}
    (accounted : store.paperAccounting env = .ok summary) :
    RealizedOnce env store summary.realizedProfitLossTotal := by
  unfold TradeState.paperAccounting at accounted
  rw [Outcome.bind_eq_ok] at accounted
  obtain ⟨budget, _, accounted⟩ := accounted
  rw [Outcome.bind_eq_ok] at accounted
  obtain ⟨closeouts, collected, accounted⟩ := accounted
  rw [Outcome.bind_eq_ok] at accounted
  obtain ⟨_, _, returned⟩ := accounted
  cases returned
  unfold TradeState.accountingCloseouts at collected
  rw [Outcome.bind_eq_ok] at collected
  obtain ⟨reductions, recorded, collected⟩ := collected
  rw [Outcome.bind_eq_ok] at collected
  obtain ⟨records, queried, returned⟩ := collected
  cases returned
  obtain ⟨entries, closes, amounts, read, resolved, realized, total, targets⟩ :=
    reductionRecords_eq_ok recorded
  refine ⟨entries, closes, records, amounts, read, resolved, queried, realized, ?_⟩
  dsimp only
  have others : (records.filter fun record => decide (record.decisionId ∉
        (reductions.map Prod.snd).map CloseoutAttribution.decisionId)) =
      records.filter fun record => decide (record.decisionId ∉
        (recordedReductions entries closes).map Prod.fst) := by
    apply List.filter_congr
    intro record _
    exact decide_eq_decide.mpr (not_congr (targets record.decisionId))
  rw [PaperAccounting.compute_realizedTotal, others, List.map_append,
    PaperAccounting.sumKnown_append, List.map_map, add_comm, ← total]
  rfl

end RealizedTotal

end GptTrader
