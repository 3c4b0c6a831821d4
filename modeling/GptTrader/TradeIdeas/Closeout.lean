import Mathlib.Data.List.Sort
import GptTrader.TradeIdeas.RiskBudget

/-!
# Closeout attribution and paper accounting

`trade_ideas/closeout.py` and `trade_ideas/accounting.py`.  A closeout records
why a terminal idea resolved and what it realized; a decision has at most one.
The accounting folds attested equity levels and closeouts in time order.
-/

namespace GptTrader

@[ext]
structure MaxLossSnapshot where
  amount : Option ℚ
  percentOfAccount : Option ℚ
  assumptions : List String
  nonNegative : (∀ value ∈ amount, 0 ≤ value) ∧
    ∀ value ∈ percentOfAccount, 0 ≤ value

instance : DecidableEq MaxLossSnapshot :=
  fun _ _ => decidable_of_iff' _ MaxLossSnapshot.ext_iff

/-- `_max_loss_snapshot_for`. -/
def MaxLoss.snapshot (maxLoss : MaxLoss) : MaxLossSnapshot :=
  { amount := maxLoss.amount
    percentOfAccount := maxLoss.percentOfAccount
    assumptions := maxLoss.assumptions
    nonNegative := maxLoss.nonNegative }

/-- Broker-neutral reason and result of a resolved idea. -/
structure CloseoutAttribution where
  decisionId : String
  timestamp : ℤ
  actorType : ActorType
  actorId : String
  terminalEventId : String
  recordHash : String
  resolution : CloseoutResolution
  maxLoss : MaxLossSnapshot
  realizedProfitLossAmount : Option ℚ
  realizedProfitLossPercent : Option ℚ
  realizedProfitLossUnavailableReason : String
  evidence : List String
  realized : realizedProfitLossAmount.isSome ∨
    realizedProfitLossPercent.isSome ∨
    isBlank realizedProfitLossUnavailableReason = false
  deriving DecidableEq

abbrev CloseoutAttributionLog : Type :=
  List CloseoutAttribution

namespace CloseoutAttributionLog

/-- One line of `read_records`: a decision repeats only its own record.  Read
are the number of lines and the record of every decision. -/
def readRecord (read : ℕ × Dict String CloseoutAttribution)
    (record : CloseoutAttribution) :
    Except ServiceError (ℕ × Dict String CloseoutAttribution) :=
  match read.2.get? record.decisionId with
  | none => .ok (read.1 + 1, read.2.set record.decisionId record)
  | some existing =>
      if existing = record then .ok (read.1 + 1, read.2)
      else .error (.about .duplicateCloseout "decision_id"
        ("Closeout attribution log line " ++ toString (read.1 + 1) ++
          " conflicts for decision_id '" ++ record.decisionId ++ "'"))

def get (log : CloseoutAttributionLog) (decisionId : String) :
    Except ServiceError (Option CloseoutAttribution) := do
  let read ← replay readRecord (0, Dict.empty) log
  .ok (read.2.get? decisionId)

/-- `append`: the same record again changes nothing. -/
def append (log : CloseoutAttributionLog) (record : CloseoutAttribution) :
    Except ServiceError CloseoutAttributionLog := do
  match ← log.get record.decisionId with
  | none => .ok (log ++ [record])
  | some existing =>
      if existing = record then .ok log
      else .error (.about .duplicateCloseout "decision_id"
        ("Closeout attribution already exists for decision_id '" ++
          record.decisionId ++ "'"))

theorem append_eq_ok {log appended : CloseoutAttributionLog}
    {record : CloseoutAttribution}
    (accepted : append log record = .ok appended) :
    (log.get record.decisionId = .ok (some record) ∧ appended = log) ∨
      (log.get record.decisionId = .ok none ∧ appended = log ++ [record]) := by
  unfold append at accepted
  rw [Outcome.bind_eq_ok] at accepted
  obtain ⟨found, read, accepted⟩ := accepted
  cases found with
  | none =>
      cases accepted
      exact .inr ⟨read, rfl⟩
  | some existing =>
      rw [Outcome.branch_eq_ok] at accepted
      obtain ⟨rfl, returned⟩ := accepted
      cases returned
      exact .inl ⟨read, rfl⟩

end CloseoutAttributionLog

/-- One operator-attested equity level. -/
structure EquityAttestation where
  timestamp : ℤ
  actorId : String
  equity : ℚ
  budgetVersion : ℤ
  deriving DecidableEq

structure PaperAccountingSummary where
  attestation : Option EquityAttestation
  currentEquity : Option ℚ
  highWaterMark : Option ℚ
  drawdownAmount : Option ℚ
  drawdownPercent : Option ℚ
  realizedProfitLossTotal : ℚ
  realizedProfitLossSinceAttestation : Option ℚ
  closeoutCount : ℕ
  closeoutAmountUnavailableCount : ℕ
  deriving DecidableEq

namespace PaperAccounting

/-- `_attestations`: entries whose equity differs from the entry before. -/
def attestations (previous : Option ℚ) :
    List BudgetLogEntry → List EquityAttestation
  | [] => []
  | entry :: rest =>
      let equity := entry.budget.accountEquity
      let later := attestations equity rest
      match equity with
      | none => later
      | some level =>
          if some level = previous then later
          else
            { timestamp := entry.timestamp
              actorId := entry.actorId
              equity := level
              budgetVersion := entry.budget.version } :: later

/-- What moves the ledger. -/
inductive LedgerEvent where
  | attestation (attestation : EquityAttestation)
  | closeout (record : CloseoutAttribution)

/-- The sort key of `_merged_ledger_events`: on a tie attestations go first. -/
def ledgerOrder (left right : ℤ × ℕ × LedgerEvent) : Prop :=
  left.1 < right.1 ∨ (left.1 = right.1 ∧ left.2.1 ≤ right.2.1)

instance : DecidableRel ledgerOrder :=
  fun _ _ => inferInstanceAs (Decidable (_ ∨ _))

/-- Both logs in order of time. -/
def mergedLedgerEvents (attested : List EquityAttestation)
    (closeouts : List CloseoutAttribution)
    (terminalTimes : List (String × ℤ)) : List LedgerEvent :=
  let closeoutTime := fun record : CloseoutAttribution =>
    -- The mapping is a dictionary, so a later entry of an id wins.
    ((terminalTimes.reverse.find? fun entry =>
      decide (entry.1 = record.terminalEventId)).map Prod.snd).getD
        record.timestamp
  let events :=
    (attested.map fun attestation =>
      (attestation.timestamp, 0, LedgerEvent.attestation attestation)) ++
    closeouts.map fun record => (closeoutTime record, 1, .closeout record)
  (events.insertionSort ledgerOrder).map fun event => event.2.2

/-- The running totals of `compute_paper_accounting`. -/
structure Ledger where
  equity : Option ℚ
  highWaterMark : Option ℚ
  realizedTotal : ℚ
  realizedSinceAttestation : Option ℚ
  closeoutCount : ℕ
  unavailableCount : ℕ

def Ledger.start : Ledger :=
  { equity := none
    highWaterMark := none
    realizedTotal := 0
    realizedSinceAttestation := none
    closeoutCount := 0
    unavailableCount := 0 }

def raiseMark (mark : Option ℚ) (equity : ℚ) : ℚ :=
  (mark.map fun mark => max mark equity).getD equity

def Ledger.fold (ledger : Ledger) : LedgerEvent → Ledger
  | .attestation attestation =>
      { ledger with
        equity := some attestation.equity
        highWaterMark := some (raiseMark ledger.highWaterMark attestation.equity)
        realizedSinceAttestation := some 0 }
  | .closeout record =>
      let counted := { ledger with closeoutCount := ledger.closeoutCount + 1 }
      match record.realizedProfitLossAmount, ledger.equity with
      | none, _ =>
          { counted with unavailableCount := ledger.unavailableCount + 1 }
      | some amount, none =>
          { counted with realizedTotal := ledger.realizedTotal + amount }
      | some amount, some equity =>
          { counted with
            realizedTotal := ledger.realizedTotal + amount
            equity := some (equity + amount)
            realizedSinceAttestation :=
              ledger.realizedSinceAttestation.map fun since => since + amount
            highWaterMark :=
              ledger.highWaterMark.map fun mark => max mark (equity + amount) }

/-- `compute_paper_accounting`. -/
def compute (entries : List BudgetLogEntry)
    (closeouts : List CloseoutAttribution)
    (terminalTimes : List (String × ℤ)) : PaperAccountingSummary :=
  let attested := attestations none entries
  let ledger := (mergedLedgerEvents attested closeouts terminalTimes).foldl
    Ledger.fold .start
  let drawdown := do
    let equity ← ledger.equity
    let mark ← ledger.highWaterMark
    if 0 < mark then some (max (mark - equity) 0, mark) else none
  { attestation := attested.getLast?
    currentEquity := ledger.equity
    highWaterMark := ledger.highWaterMark
    drawdownAmount := drawdown.map Prod.fst
    drawdownPercent := drawdown.map fun (amount, mark) => amount / mark * 100
    realizedProfitLossTotal := ledger.realizedTotal
    realizedProfitLossSinceAttestation := ledger.realizedSinceAttestation
    closeoutCount := ledger.closeoutCount
    closeoutAmountUnavailableCount := ledger.unavailableCount }

end PaperAccounting

end GptTrader
