import GptTrader.Python.DecimalContext
import GptTrader.TradeIdeas.Closeout

/-!
# The equity ledger

`equity_ledger` of `trade_ideas/accounting.py` and `compute_paper_accounting`
with the operators of a decimal context.  Both fold the same merged events; the
ledger keeps a point for every move of the equity level.
-/

namespace GptTrader

/-- One resolved equity level with its running peak. -/
structure EquityLedgerPoint where
  timestamp : ℤ
  equity : ℚ
  highWaterMark : ℚ
  drawdownAmount : ℚ
  drawdownPercent : Option ℚ
  deriving DecidableEq

namespace PaperAccounting

/-- `_merged_ledger_events`, every event with the time it folds at. -/
def timedLedgerEvents (attested : List EquityAttestation)
    (closeouts : List CloseoutAttribution)
    (terminalTimes : List (String × ℤ)) : List (ℤ × LedgerEvent) :=
  let closeoutTime := fun record : CloseoutAttribution =>
    ((terminalTimes.reverse.find? fun entry =>
      decide (entry.1 = record.terminalEventId)).map Prod.snd).getD
        record.timestamp
  let events :=
    (attested.map fun attestation =>
      (attestation.timestamp, 0, LedgerEvent.attestation attestation)) ++
    closeouts.map fun record => (closeoutTime record, 1, .closeout record)
  (events.insertionSort ledgerOrder).map fun event => (event.1, event.2.2)

theorem mergedLedgerEvents_eq (attested : List EquityAttestation)
    (closeouts : List CloseoutAttribution)
    (terminalTimes : List (String × ℤ)) :
    mergedLedgerEvents attested closeouts terminalTimes =
      (timedLedgerEvents attested closeouts terminalTimes).map Prod.snd := by
  unfold mergedLedgerEvents timedLedgerEvents
  rw [List.map_map]
  rfl

section Folds

variable (context : DecimalContext)

/-- How far the equity is below its mark. -/
def drawdownAmount (equity mark : ℚ) : ℚ :=
  max (context.sub mark equity) 0

def drawdownPercent (amount mark : ℚ) : ℚ :=
  context.mul (context.div amount mark) 100

def point (timestamp : ℤ) (equity mark : ℚ) : EquityLedgerPoint :=
  let amount := drawdownAmount context equity mark
  { timestamp := timestamp
    equity := equity
    highWaterMark := mark
    drawdownAmount := amount
    drawdownPercent :=
      if 0 < mark then some (drawdownPercent context amount mark) else none }

/-- The local variables of `equity_ledger`. -/
structure Trail where
  equity : Option ℚ
  highWaterMark : Option ℚ
  points : List EquityLedgerPoint

def Trail.start : Trail :=
  { equity := none
    highWaterMark := none
    points := [] }

/-- A point at the current equity. -/
def Trail.mark (trail : Trail) (timestamp : ℤ) : Trail :=
  match trail.equity, trail.highWaterMark with
  | some equity, some mark =>
      { trail with points := trail.points ++ [point context timestamp equity mark] }
  | _, _ => trail

/-- The trail after one event. -/
def Trail.fold (trail : Trail) : ℤ × LedgerEvent → Trail
  | (timestamp, .attestation attestation) =>
      Trail.mark context
        { trail with
          equity := some attestation.equity
          highWaterMark :=
            some (raiseMark trail.highWaterMark attestation.equity) }
        timestamp
  | (timestamp, .closeout record) =>
      match record.realizedProfitLossAmount, trail.equity with
      | none, _ => trail
      | some _, none => trail
      | some amount, some equity =>
          let moved := context.add equity amount
          Trail.mark context
            { trail with
              equity := some moved
              highWaterMark :=
                trail.highWaterMark.map fun mark => max mark moved }
            timestamp

/-- The equity over time, with its drawdowns. -/
def equityLedger (entries : List BudgetLogEntry)
    (closeouts : List CloseoutAttribution)
    (terminalTimes : List (String × ℤ)) : List EquityLedgerPoint :=
  ((timedLedgerEvents (attestations none entries) closeouts
    terminalTimes).foldl (Trail.fold context) .start).points

/-- The loop body of `compute_paper_accounting`. -/
def Ledger.foldIn (ledger : Ledger) : LedgerEvent → Ledger
  | .attestation attestation =>
      { ledger with
        equity := some attestation.equity
        highWaterMark := some (raiseMark ledger.highWaterMark attestation.equity)
        realizedSinceAttestation := some 0 }
  | .closeout record =>
      let counted := { ledger with closeoutCount := ledger.closeoutCount + 1 }
      match record.realizedProfitLossAmount, ledger.equity with
      | none, _ =>
          { counted with unavailableCount := ledger.unavailableCount + 1 }
      | some amount, none =>
          { counted with
            realizedTotal := context.add ledger.realizedTotal amount }
      | some amount, some equity =>
          let moved := context.add equity amount
          { counted with
            realizedTotal := context.add ledger.realizedTotal amount
            equity := some moved
            realizedSinceAttestation :=
              ledger.realizedSinceAttestation.map fun since =>
                context.add since amount
            highWaterMark :=
              ledger.highWaterMark.map fun mark => max mark moved }

/-- The totals after the loop of `compute_paper_accounting`. -/
def ledgerIn (entries : List BudgetLogEntry)
    (closeouts : List CloseoutAttribution)
    (terminalTimes : List (String × ℤ)) : Ledger :=
  (mergedLedgerEvents (attestations none entries) closeouts
    terminalTimes).foldl (Ledger.foldIn context) .start

/-- `compute_paper_accounting`. -/
def computeIn (entries : List BudgetLogEntry)
    (closeouts : List CloseoutAttribution)
    (terminalTimes : List (String × ℤ)) : PaperAccountingSummary :=
  let ledger := ledgerIn context entries closeouts terminalTimes
  let drawdown := do
    let equity ← ledger.equity
    let mark ← ledger.highWaterMark
    if 0 < mark then some (drawdownAmount context equity mark, mark) else none
  { attestation := (attestations none entries).getLast?
    currentEquity := ledger.equity
    highWaterMark := ledger.highWaterMark
    drawdownAmount := drawdown.map Prod.fst
    drawdownPercent := drawdown.map fun (amount, mark) =>
      drawdownPercent context amount mark
    realizedProfitLossTotal := ledger.realizedTotal
    realizedProfitLossSinceAttestation := ledger.realizedSinceAttestation
    closeoutCount := ledger.closeoutCount
    closeoutAmountUnavailableCount := ledger.unavailableCount }

end Folds

/-- The level the last attestation of these events set, and the amounts that
were realized after it. -/
abbrev Basis : Type :=
  Option (ℚ × List ℚ)

def Basis.fold (basis : Basis) : LedgerEvent → Basis
  | .attestation attestation => some (attestation.equity, [])
  | .closeout record =>
      match record.realizedProfitLossAmount with
      | none => basis
      | some amount => basis.map fun basis => (basis.1, basis.2 ++ [amount])

/-- The basis summed up from a start. -/
def Basis.added (context : DecimalContext) (basis : Basis) (start : ℚ → ℚ) :
    Option ℚ :=
  basis.map fun basis => basis.2.foldl context.add (start basis.1)

theorem Basis.added_append (context : DecimalContext) (start : ℚ → ℚ)
    (basis : ℚ × List ℚ) (amount : ℚ) :
    Basis.added context (some (basis.1, basis.2 ++ [amount])) start =
      some (context.add (basis.2.foldl context.add (start basis.1)) amount) :=
  congrArg some List.foldl_append

def Basis.of (events : List LedgerEvent) : Basis :=
  events.foldl Basis.fold none

def Peaked (points : List EquityLedgerPoint) : Prop :=
  ∀ before point after, points = before ++ point :: after →
    IsGreatest {equity | ∃ earlier ∈ before ++ [point], earlier.equity = equity}
      point.highWaterMark

theorem Peaked.nil : Peaked [] := by
  intro before point after split
  simp at split

/-- A point with the raised mark keeps the drawdowns right. -/
theorem Peaked.append {points : List EquityLedgerPoint}
    {latest : EquityLedgerPoint} (peaked : Peaked points)
    (raised : latest.highWaterMark =
      raiseMark (points.getLast?.map EquityLedgerPoint.highWaterMark)
        latest.equity) :
    Peaked (points ++ [latest]) := by
  intro before point after split
  rcases List.eq_nil_or_concat after with rfl | ⟨later, last, rfl⟩
  · -- The new point: its mark is the one before, or its own equity.
    obtain ⟨rfl, rfl⟩ : before = points ∧ point = latest := by
      obtain ⟨same, last⟩ := List.append_inj' split rfl
      exact ⟨same.symm, (List.singleton_inj.mp last).symm⟩
    rcases List.eq_nil_or_concat before with rfl | ⟨earlier, previous, rfl⟩
    · rw [raised]
      constructor
      · exact ⟨point, by simp, rfl⟩
      · rintro equity ⟨only, member, rfl⟩
        rw [List.nil_append, List.mem_singleton] at member
        exact le_of_eq (congrArg EquityLedgerPoint.equity member)
    · rw [List.concat_eq_append] at peaked raised split ⊢
      have greatest := peaked earlier previous [] rfl
      have mark : point.highWaterMark =
          max previous.highWaterMark point.equity := by
        rw [raised, List.getLast?_concat]
        rfl
      rw [mark]
      constructor
      · rcases max_choice previous.highWaterMark point.equity with top | top
        · obtain ⟨peak, member, equal⟩ := greatest.1
          exact ⟨peak, List.mem_append_left _ member, equal.trans top.symm⟩
        · exact ⟨point, by simp, top.symm⟩
      · rintro equity ⟨older, member, rfl⟩
        rcases List.mem_append.mp member with member | member
        · exact (greatest.2 ⟨older, member, rfl⟩).trans (le_max_left _ _)
        · rw [List.mem_singleton.mp member]
          exact le_max_right _ _
  · -- An older point: nothing before it changed.
    rw [List.concat_eq_append, ← List.cons_append, ← List.append_assoc] at split
    exact peaked before point later (List.append_inj' split rfl).1

section InStep

variable {context : DecimalContext} {trail : Trail} {ledger : Ledger}
  {basis : Basis}

/-- The two folds after the same events. -/
structure InStep (context : DecimalContext) (trail : Trail) (ledger : Ledger)
    (basis : Basis) : Prop where
  equity : trail.equity = ledger.equity
  highWaterMark : trail.highWaterMark = ledger.highWaterMark
  level : ledger.equity = basis.added context id
  since : ledger.realizedSinceAttestation = basis.added context fun _ => 0
  points : (ledger.equity = none ∧ ledger.highWaterMark = none ∧
      trail.points = []) ∨
    ∃ equity mark timestamp before, ledger.equity = some equity ∧
      ledger.highWaterMark = some mark ∧
      trail.points = before ++ [point context timestamp equity mark]
  peaked : Peaked trail.points

theorem InStep.start : InStep context .start .start none :=
  { equity := rfl
    highWaterMark := rfl
    level := rfl
    since := rfl
    points := .inl ⟨rfl, rfl, rfl⟩
    peaked := .nil }

theorem InStep.lastMark (inStep : InStep context trail ledger basis) :
    trail.points.getLast?.map EquityLedgerPoint.highWaterMark =
      ledger.highWaterMark := by
  rcases inStep.points with ⟨_, mark, points⟩ |
    ⟨_, mark, _, before, _, held, points⟩
  · rw [points, mark, List.getLast?_nil, Option.map_none]
  · rw [points, held, List.getLast?_concat]
    rfl

/-- An event keeps ledger, accounting and basis in step. -/
theorem InStep.fold (inStep : InStep context trail ledger basis)
    (timestamp : ℤ) (event : LedgerEvent) :
    InStep context (trail.fold context (timestamp, event))
      (ledger.foldIn context event) (basis.fold event) := by
  have marks := inStep.highWaterMark
  cases event with
  | attestation attestation =>
      constructor
      · rfl
      · exact congrArg (fun mark => some (raiseMark mark attestation.equity)) marks
      · rfl
      · rfl
      · exact .inr ⟨_, _, timestamp, trail.points, rfl, rfl, by rw [← marks]; rfl⟩
      · apply inStep.peaked.append
        rw [inStep.lastMark, ← marks]
        rfl
  | closeout record =>
      have equities := inStep.equity
      have levels := inStep.level
      have sums := inStep.since
      unfold Trail.fold Ledger.foldIn Basis.fold
      dsimp only
      cases record.realizedProfitLossAmount with
      | none =>
          exact { inStep with }
      | some amount =>
          rcases inStep.points with ⟨unset, unmarked, empty⟩ |
            ⟨equity, mark, _, before, set, marked, points⟩
          · -- No level yet: the amount goes to the total only.
            have unattested : basis = none := by
              rw [unset] at levels
              exact Option.map_eq_none_iff.mp levels.symm
            subst unattested
            rw [equities, unset]
            exact {
              equity := equities.trans unset
              highWaterMark := marks
              level := rfl
              since := sums
              points := .inl ⟨rfl, unmarked, empty⟩
              peaked := inStep.peaked }
          · rw [set] at equities levels
            rw [marked] at marks
            obtain ⟨attested, rfl, level⟩ :=
              Option.map_eq_some_iff.mp levels.symm
            rw [equities, set, marked, marks, sums]
            unfold Trail.mark
            exact {
              equity := rfl
              highWaterMark := rfl
              level := by
                rw [← level]
                exact (Basis.added_append context id attested amount).symm
              since :=
                (Basis.added_append context (fun _ => 0) attested amount).symm
              points := .inr ⟨_, _, timestamp, trail.points, rfl, rfl, rfl⟩
              peaked := inStep.peaked.append (by
                rw [inStep.lastMark, marked]
                rfl) }

theorem InStep.foldl (events : List (ℤ × LedgerEvent))
    (inStep : InStep context trail ledger basis) :
    InStep context (events.foldl (Trail.fold context) trail)
      ((events.map Prod.snd).foldl (Ledger.foldIn context) ledger)
      ((events.map Prod.snd).foldl Basis.fold basis) := by
  induction events generalizing trail ledger basis with
  | nil => exact inStep
  | cons event events induction =>
      exact induction (inStep.fold event.1 event.2)

end InStep

/-- What the two folds agree on. -/
structure SameFold (points : List EquityLedgerPoint)
    (summary : PaperAccountingSummary) : Prop where
  last : ∀ point ∈ points.getLast?,
    summary.currentEquity = some point.equity ∧
      summary.highWaterMark = some point.highWaterMark ∧
      (0 < point.highWaterMark →
        summary.drawdownAmount = some point.drawdownAmount)
  peaked : Peaked points
  percent : summary.drawdownPercent =
    points.getLast?.bind EquityLedgerPoint.drawdownPercent
  empty : points = [] ↔ summary.currentEquity = none

section

variable (context : DecimalContext) (entries : List BudgetLogEntry)
variable (closeouts : List CloseoutAttribution) (terminalTimes : List (String × ℤ))

include context entries closeouts terminalTimes

theorem ledgers_in_step :
    InStep context
      ((timedLedgerEvents (attestations none entries) closeouts
        terminalTimes).foldl (Trail.fold context) .start)
      (ledgerIn context entries closeouts terminalTimes)
      (.of (mergedLedgerEvents (attestations none entries) closeouts
        terminalTimes)) := by
  unfold ledgerIn Basis.of
  rw [mergedLedgerEvents_eq]
  exact InStep.start.foldl _

theorem sameFold :
    SameFold (equityLedger context entries closeouts terminalTimes)
      (computeIn context entries closeouts terminalTimes) := by
  have inStep := ledgers_in_step context entries closeouts terminalTimes
  unfold equityLedger computeIn
  generalize ledgerIn context entries closeouts terminalTimes = ledger at inStep ⊢
  generalize (timedLedgerEvents (attestations none entries) closeouts
    terminalTimes).foldl (Trail.fold context) .start = trail at inStep ⊢
  dsimp only
  rcases inStep.points with ⟨unset, unmarked, empty⟩ |
    ⟨equity, mark, timestamp, before, set, marked, points⟩
  · refine ⟨?_, inStep.peaked, ?_, ?_⟩
    · rw [empty]
      intro point last
      cases last
    · rw [empty, unset]
      rfl
    · rw [empty, unset]
      exact iff_of_true rfl rfl
  · refine ⟨?_, inStep.peaked, ?_, ?_⟩
    · rw [points, set, marked, List.getLast?_concat]
      rintro last ⟨⟩
      refine ⟨rfl, rfl, fun positive => ?_⟩
      have positive : 0 < mark := positive
      dsimp only [Option.bind_eq_bind, Option.bind_some]
      rw [if_pos positive]
      rfl
    · rw [points, set, marked, List.getLast?_concat]
      dsimp only [Option.bind_eq_bind, Option.bind_some, point]
      split <;> rfl
    · rw [points, set]
      simp

end

def LedgerEvent.attestation? : LedgerEvent → Option EquityAttestation
  | .attestation attested => some attested
  | .closeout _ => none

theorem Basis.of_level (events : List LedgerEvent) :
    (Basis.of events).map Prod.fst =
      (events.filterMap LedgerEvent.attestation?).getLast?.map
        EquityAttestation.equity := by
  induction events using List.reverseRecOn with
  | nil => rfl
  | append_singleton events event induction =>
      unfold Basis.of at induction ⊢
      rw [List.foldl_append, List.filterMap_append]
      cases event with
      | attestation attestation =>
          change _ = Option.map _ (List.getLast? (_ ++ [attestation]))
          rw [List.getLast?_concat]
          rfl
      | closeout record =>
          change _ = Option.map _ (List.getLast? (_ ++ []))
          rw [List.append_nil, ← induction]
          rw [List.foldl_cons, List.foldl_nil]
          unfold Basis.fold
          dsimp only
          split
          · rfl
          · rw [Option.map_map]
            rfl

theorem attestations_sublist (previous : Option ℚ)
    (entries : List BudgetLogEntry) :
    ((attestations previous entries).map EquityAttestation.timestamp).Sublist
      (entries.map BudgetLogEntry.timestamp) := by
  induction entries generalizing previous with
  | nil => exact .slnil
  | cons entry entries induction =>
      unfold attestations
      dsimp only
      split
      · exact (induction _).cons _
      · split
        · exact (induction _).cons _
        · exact (induction _).cons_cons _

theorem merged_attestations {attested : List EquityAttestation}
    (closeouts : List CloseoutAttribution) (terminalTimes : List (String × ℤ))
    (ordered : attested.Pairwise fun earlier later =>
      earlier.timestamp ≤ later.timestamp) :
    (mergedLedgerEvents attested closeouts terminalTimes).filterMap
      LedgerEvent.attestation? = attested := by
  have recovered : ∀ keyed : List EquityAttestation,
      ((keyed.map fun attestation =>
        (attestation.timestamp, 0, LedgerEvent.attestation attestation)).map
          fun event : ℤ × ℕ × LedgerEvent => event.2.2).filterMap
            LedgerEvent.attestation? = keyed := by
    intro keyed
    rw [List.map_map, List.filterMap_map]
    exact List.filterMap_some
  unfold mergedLedgerEvents
  dsimp only
  generalize unsorted :
    (attested.map fun attestation =>
      (attestation.timestamp, 0, LedgerEvent.attestation attestation)) ++
      _ = events
  symm
  apply List.Sublist.eq_of_length
  · -- The attestations are a sorted part of what is sorted.
    have part := List.sublist_insertionSort (r := ledgerOrder)
      (List.Pairwise.map _ (fun earlier later le => by
        rcases le.lt_or_eq with before | together
        · exact .inl before
        · exact .inr ⟨together, le_rfl⟩) ordered)
      (unsorted ▸ List.sublist_append_left _ _)
    have events := ((part.map fun event : ℤ × ℕ × LedgerEvent =>
      event.2.2).filterMap LedgerEvent.attestation?)
    rwa [recovered] at events
  · have same := (((List.perm_insertionSort ledgerOrder events).map
      fun event : ℤ × ℕ × LedgerEvent => event.2.2).filterMap
        LedgerEvent.attestation?).length_eq
    rw [same, ← unsorted, List.map_append, List.filterMap_append, recovered,
      List.map_map, List.filterMap_map]
    simp [Function.comp_def, LedgerEvent.attestation?]

/-- What the present equity is made of. -/
structure AttestedSum (context : DecimalContext)
    (entries : List BudgetLogEntry) (closeouts : List CloseoutAttribution)
    (terminalTimes : List (String × ℤ)) (summary : PaperAccountingSummary)
    (basis : Basis) : Prop where
  level : summary.currentEquity = basis.added context id
  since : summary.realizedProfitLossSinceAttestation =
    basis.added context fun _ => 0
  sum : ∀ level amounts, basis = some (level, amounts) →
    context.AddsExactly level amounts → context.AddsExactly 0 amounts →
    ∃ since ∈ summary.realizedProfitLossSinceAttestation,
      summary.currentEquity = some (level + since)
  last : basis.map Prod.fst =
    ((mergedLedgerEvents (attestations none entries) closeouts
      terminalTimes).filterMap LedgerEvent.attestation?).getLast?.map
        EquityAttestation.equity
  attestation : (entries.Pairwise fun earlier later =>
      earlier.timestamp ≤ later.timestamp) →
    basis.map Prod.fst = summary.attestation.map EquityAttestation.equity

theorem attestedSum (context : DecimalContext)
    (entries : List BudgetLogEntry) (closeouts : List CloseoutAttribution)
    (terminalTimes : List (String × ℤ)) :
    AttestedSum context entries closeouts terminalTimes
      (computeIn context entries closeouts terminalTimes)
      (.of (mergedLedgerEvents (attestations none entries) closeouts
        terminalTimes)) := by
  have inStep := ledgers_in_step context entries closeouts terminalTimes
  have last := Basis.of_level (mergedLedgerEvents (attestations none entries)
    closeouts terminalTimes)
  refine ⟨inStep.level, inStep.since, ?_, last, fun ordered => ?_⟩
  · intro level amounts attested fromLevel fromZero
    have equity := inStep.level
    have since := inStep.since
    rw [attested] at equity since
    refine ⟨_, since, equity.trans ?_⟩
    change some (amounts.foldl context.add level) =
      some (level + amounts.foldl context.add 0)
    rw [fromLevel.foldl, fromZero.foldl, zero_add]
  · rw [last, merged_attestations]
    · rfl
    · apply List.pairwise_map.mp
      exact (List.pairwise_map.mpr ordered).sublist
        (attestations_sublist none entries)

/-- The ledger and the accounting are one fold. -/
theorem equity_ledger_is_accounting (context : DecimalContext)
    (entries : List BudgetLogEntry) (closeouts : List CloseoutAttribution)
    (terminalTimes : List (String × ℤ)) :
    SameFold (equityLedger context entries closeouts terminalTimes)
        (computeIn context entries closeouts terminalTimes) ∧
      AttestedSum context entries closeouts terminalTimes
        (computeIn context entries closeouts terminalTimes)
        (.of (mergedLedgerEvents (attestations none entries) closeouts
          terminalTimes)) :=
  ⟨sameFold context entries closeouts terminalTimes,
    attestedSum context entries closeouts terminalTimes⟩

def attestedDollar : BudgetLogEntry :=
  { timestamp := 0
    actorType := .human
    actorId := "operator"
    budget :=
      { defaultRiskBudget with
        accountEquity := some 1
        equityPositive := by simp } }

def tinyGain (decisionId : String) : CloseoutAttribution :=
  { decisionId := decisionId
    timestamp := 1
    actorType := .system
    actorId := "monitor"
    terminalEventId := ""
    recordHash := ""
    resolution := .thesisTarget
    maxLoss :=
      { amount := none
        percentOfAccount := none
        assumptions := []
        nonNegative := defaultRiskBudget.leversNonNegative }
    realizedProfitLossAmount := some (4 / 10 ^ 28)
    realizedProfitLossPercent := none
    realizedProfitLossUnavailableReason := ""
    evidence := []
    realized := .inl rfl }

/-- Added to the level one by one the gains vanish, added up they do not. -/
theorem tiny_gains_are_rounded_away :
    let summary := computeIn .defaultContext [attestedDollar]
      [tinyGain "first", tinyGain "second"] []
    ∃ attestation ∈ summary.attestation,
      ∃ since ∈ summary.realizedProfitLossSinceAttestation,
        summary.currentEquity ≠ some (attestation.equity + since) ∧
          summary.currentEquity ≠
            some (DecimalContext.defaultContext.add attestation.equity since) := by
  refine ⟨_, rfl, 8 / 10 ^ 28, ?_, ?_, ?_⟩ <;> decide +kernel

end PaperAccounting

end GptTrader
