import Mathlib.Algebra.Order.BigOperators.Group.List
import GptTrader.Python.DecimalContext

/-!
# The spend ledger of the model transport

`SpendLedger` (`features/experiment/model_transport.py`): every call counts at
its reservation until it is settled at a cost.  A reservation is one
transaction, and a step that fails in the database changes nothing, so a run
of the ledger is any sequence of completed reservations and settlements.
-/

namespace GptTrader

/-- A row of the `calls` table. -/
structure SpendCall where
  id : ℕ
  model : String
  reservedAt : String
  reservedUsd : ℚ
  status : String
  costUsd : Option ℚ
  detail : Option String
  account : String
  decisionTime : String
  run : String
  deriving DecidableEq

namespace SpendCall

/-- The cost, or what is reserved for it. -/
def charge (call : SpendCall) : ℚ :=
  call.costUsd.getD call.reservedUsd

def overage (call : SpendCall) : ℚ :=
  match call.costUsd with
  | some cost => max 0 (cost - call.reservedUsd)
  | none => 0

theorem overage_nonneg (call : SpendCall) : 0 ≤ call.overage := by
  unfold overage
  cases call.costUsd with
  | none => exact le_rfl
  | some cost => exact le_max_left _ _

end SpendCall

/-- What names a call in the ledger. -/
structure CallLabel where
  model : String
  account : String
  decisionTime : String
  run : String

def labelColumns : List String :=
  ["account", "decision_time", "run"]

/-- `APPLICATION_ID`. -/
def spendApplicationId : ℕ := 0x47545350

/-- A database file with tables. -/
structure SpendFile where
  applicationId : ℕ
  /-- `cap_usd` of the row of `ceiling`. -/
  ceiling : Option ℚ
  /-- Which label columns `calls` has. -/
  columns : List String
  calls : List SpendCall
  /-- The sequence of the autoincremented identifiers. -/
  lastId : ℕ
  deriving DecidableEq

/-- `SpendLedgerError`. -/
inductive LedgerRefusal where
  | foreignFile
  | noCap
  | otherCap (bound wanted : ℚ)
  deriving DecidableEq

namespace LedgerRefusal

def text (showUsd : ℚ → String) (path : String) : LedgerRefusal → String
  | .foreignFile => path ++ " is not a spend ledger; name a new file"
  | .noCap => "Spend ledger " ++ path ++ " has no cap; name a new file"
  | .otherCap bound wanted =>
      "Spend ledger " ++ path ++ " is bound to a $" ++ showUsd bound ++
        " cap, not $" ++ showUsd wanted ++ "; a new cap needs a new ledger"

end LedgerRefusal

/-- Why the transport of a decision stops or fails. -/
inductive TransportStop where
  /-- `SpendCeilingReached` before any ledger exists. -/
  | aboveCap (amount cap : ℚ)
  /-- `SpendCeilingReached`. -/
  | ceilingReached (charged cap amount : ℚ)
  /-- `TransportHalted`. -/
  | refused (refusal : LedgerRefusal)
  | unusable (error : String)
  | halted (message : String)
  /-- `TransportError`. -/
  | failed (message : String)
  /-- `ValueError` of a reply. -/
  | invalid (message : String)
  deriving DecidableEq

namespace TransportStop

def text (showUsd : ℚ → String) (path : String) : TransportStop → String
  | .aboveCap amount cap =>
      "Spend ceiling reached: one call could cost up to $" ++ showUsd amount ++
        ", above the $" ++ showUsd cap ++ " cap; it was not sent"
  | .ceilingReached charged cap amount =>
      "Spend ceiling reached: $" ++ showUsd charged ++ " of the $" ++
        showUsd cap ++ " cap is spent or reserved and the next call could " ++
        "cost up to $" ++ showUsd amount ++ "; it was not sent"
  | .refused refusal => refusal.text showUsd path
  | .unusable error =>
      "Spend ledger " ++ path ++ " is unusable: " ++ error
  | .halted message => message
  | .failed message => message
  | .invalid message => message

end TransportStop

namespace SpendFile

variable (context : DecimalContext) (file : SpendFile)

def charged : ℚ :=
  context.sum (file.calls.map SpendCall.charge)

/-- The exact sum of the charges. -/
def total : ℚ :=
  (file.calls.map SpendCall.charge).sum

def overage : ℚ :=
  (file.calls.map SpendCall.overage).sum

/-- The file with a new reservation. -/
def insertCall (label : CallLabel) (amount : ℚ) (now : String) : SpendFile :=
  { file with
    calls := file.calls ++
      [{ id := file.lastId + 1
         model := label.model
         reservedAt := now
         reservedUsd := amount
         status := "reserved"
         costUsd := none
         detail := none
         account := label.account
         decisionTime := label.decisionTime
         run := label.run }]
    lastId := file.lastId + 1 }

/-- The file with the call's outcome. -/
def settleCall (id : ℕ) (cost : Option ℚ) (status detail : String) :
    SpendFile :=
  { file with
    calls := file.calls.map fun call =>
      if call.id = id then
        { call with status := status, costUsd := cost, detail := some detail }
      else call }

end SpendFile

/-- A ledger object; its file is `none` while there is no file with tables. -/
structure SpendLedger where
  capUsd : ℚ
  positive : 0 < capUsd

namespace SpendLedger

variable (context : DecimalContext) (ledger : SpendLedger)

def check (file : SpendFile) : Except LedgerRefusal Unit :=
  if file.applicationId ≠ spendApplicationId then .error .foreignFile
  else
    match file.ceiling with
    | none => .error .noCap
    | some cap =>
        if cap ≠ ledger.capUsd then .error (.otherCap cap ledger.capUsd)
        else .ok ()

/-- `_initialize`. -/
def initializeFile (file : Option SpendFile) : Except LedgerRefusal SpendFile :=
  match file with
  | some file =>
      match ledger.check file with
      | .error refusal => .error refusal
      | .ok () =>
          .ok { file with
            columns := file.columns ++
              labelColumns.filter fun column => decide (column ∉ file.columns) }
  | none =>
      .ok {
        applicationId := spendApplicationId
        ceiling := some ledger.capUsd
        columns := labelColumns
        calls := []
        lastId := 0 }

/-- `reserve`: the identifier of the call, and the file afterwards. -/
def reserve (label : CallLabel) (amount : ℚ) (now : String)
    (file : Option SpendFile) :
    Except TransportStop ℕ × Option SpendFile :=
  if ledger.capUsd < amount ∧ file = none then
    (.error (.aboveCap amount ledger.capUsd), file)
  else
    match ledger.initializeFile file with
    | .error refusal => (.error (.refused refusal), file)
    | .ok opened =>
        let charged := opened.charged context
        if ledger.capUsd < context.add charged amount then
          (.error (.ceilingReached charged ledger.capUsd amount), file)
        else
          (.ok (opened.lastId + 1), some (opened.insertCall label amount now))

def settle (call : ℕ) (cost : Option ℚ) (status detail : String)
    (file : Option SpendFile) :
    Except TransportStop Unit × Option SpendFile :=
  match file with
  | none => (.error (.unusable "no such table: calls"), none)
  | some file => (.ok (), some (file.settleCall call cost status detail))

end SpendLedger

/-- A completed step of one of the runs that share a ledger file. -/
inductive LedgerStep where
  | reserve (ledger : SpendLedger) (label : CallLabel) (amount : ℚ)
      (now : String)
  | settle (call : ℕ) (cost : Option ℚ) (status detail : String)

namespace LedgerStep

def run (context : DecimalContext) (file : Option SpendFile) :
    LedgerStep → Option SpendFile
  | .reserve ledger label amount now =>
      (ledger.reserve context label amount now file).2
  | .settle call cost status detail =>
      (SpendLedger.settle call cost status detail file).2

/-- The file after a list of steps. -/
def runAll (context : DecimalContext) (steps : List LedgerStep) :
    Option SpendFile :=
  steps.foldl (run context) none

def settles : LedgerStep → Option ℕ
  | .reserve .. => none
  | .settle call .. => some call

/-- When the exact sum of the charges and an amount passes the cap, so does
the sum the check computes. -/
def checksExactly (context : DecimalContext) (file : Option SpendFile) :
    LedgerStep → Bool
  | .reserve ledger _ amount _ =>
      match ledger.initializeFile file with
      | .error _ => true
      | .ok opened =>
          !decide (ledger.capUsd < opened.total + amount) ||
            decide (ledger.capUsd <
              context.add (opened.charged context) amount)
  | .settle .. => true

def allCheckExactly (context : DecimalContext) :
    Option SpendFile → List LedgerStep → Bool
  | _, [] => true
  | file, step :: rest =>
      step.checksExactly context file &&
        allCheckExactly context (step.run context file) rest

end LedgerStep

namespace SpendFile

variable {context : DecimalContext} {file : SpendFile}

theorem overage_nonneg (file : SpendFile) : 0 ≤ file.overage := by
  unfold overage
  apply List.sum_nonneg
  intro value member
  obtain ⟨call, _, rfl⟩ := List.mem_map.mp member
  exact call.overage_nonneg

theorem total_insertCall (label : CallLabel) (amount : ℚ) (now : String) :
    (file.insertCall label amount now).total = file.total + amount := by
  simp [total, insertCall, SpendCall.charge]

theorem total_le_settleCall {id : ℕ} (cost : Option ℚ)
    (status detail : String)
    (unsettled : ∀ call ∈ file.calls, call.id = id → call.costUsd = none) :
    (file.settleCall id cost status detail).total + file.overage ≤
      file.total + (file.settleCall id cost status detail).overage := by
  unfold settleCall total overage
  dsimp only
  generalize file.calls = calls at unsettled
  induction calls with
  | nil => exact le_rfl
  | cons call rest induction =>
      have others := induction fun other member =>
        unsettled other (.tail _ member)
      have this : ∀ changed : SpendCall,
          changed = (if call.id = id then
            { call with status := status, costUsd := cost, detail := some detail }
          else call) →
          changed.charge + call.overage ≤ call.charge + changed.overage := by
        rintro _ rfl
        split
        · next same =>
            have none := unsettled call (.head _) same
            unfold SpendCall.charge SpendCall.overage
            rw [none]
            cases cost with
            | none => exact le_rfl
            | some cost =>
                have bound := le_max_right 0 (cost - call.reservedUsd)
                dsimp only [Option.getD]
                linarith
        · exact le_rfl
      simp only [List.map_cons, List.sum_cons]
      linarith [this _ rfl]

theorem overage_eq_zero
    (within : ∀ call ∈ file.calls, ∀ cost, call.costUsd = some cost →
      cost ≤ call.reservedUsd) : file.overage = 0 := by
  unfold overage
  apply List.sum_eq_zero
  intro value member
  obtain ⟨call, kept, rfl⟩ := List.mem_map.mp member
  unfold SpendCall.overage
  split
  · next cost settled =>
      exact max_eq_left (sub_nonpos.mpr (within call kept cost settled))
  · rfl

end SpendFile

/-- What every run of a ledger keeps: the total stays under the cap apart from
the overage, and only settled calls have a cost. -/
structure SpendFile.Bounded (settled : List ℕ) (file : SpendFile) : Prop where
  under : ∀ cap, file.ceiling = some cap → file.total ≤ cap + file.overage
  unsettled : ∀ call ∈ file.calls, call.id ∉ settled → call.costUsd = none

namespace SpendLedger

variable {context : DecimalContext} {ledger : SpendLedger}
variable {file : Option SpendFile} {opened : SpendFile}

theorem initializeFile_eq_ok
    (accepted : ledger.initializeFile file = .ok opened) :
    opened.ceiling = some ledger.capUsd ∧
      opened.calls = file.elim [] SpendFile.calls := by
  cases file with
  | none =>
      cases Except.ok.inj accepted
      exact ⟨rfl, rfl⟩
  | some file =>
      unfold initializeFile at accepted
      dsimp only at accepted
      split at accepted
      · cases accepted
      · next checked =>
          cases Except.ok.inj accepted
          refine ⟨?_, rfl⟩
          unfold check at checked
          split at checked
          · cases checked
          · split at checked
            · cases checked
            · next cap bound =>
                split at checked
                · cases checked
                · next same => rw [bound, not_not.mp same]

theorem reserve_cases (context : DecimalContext) (ledger : SpendLedger)
    (label : CallLabel) (amount : ℚ) (now : String) (file : Option SpendFile) :
    (∃ stop, ledger.reserve context label amount now file =
      (.error stop, file)) ∨
    ∃ opened, ledger.initializeFile file = .ok opened ∧
      context.add (opened.charged context) amount ≤ ledger.capUsd ∧
      ledger.reserve context label amount now file =
        (.ok (opened.lastId + 1),
          some (opened.insertCall label amount now)) := by
  unfold reserve
  split
  · exact .inl ⟨_, rfl⟩
  · split
    · exact .inl ⟨_, rfl⟩
    · next opened accepted =>
        dsimp only
        split
        · exact .inl ⟨_, rfl⟩
        · next under => exact .inr ⟨opened, accepted, not_lt.mp under, rfl⟩

end SpendLedger

namespace LedgerStep

variable {context : DecimalContext}

/-- The file satisfies its bound. -/
def Kept (settled : List ℕ) (file : Option SpendFile) : Prop :=
  ∀ opened, file = some opened → opened.Bounded settled

/-- A step keeps the bounds when it settles a call for the first time. -/
theorem kept_run {settled : List ℕ} {file : Option SpendFile}
    (step : LedgerStep) (kept : Kept settled file)
    (exactly : step.checksExactly context file = true)
    (first : ∀ call, step.settles = some call → call ∉ settled) :
    Kept (settled ++ step.settles.toList) (step.run context file) := by
  cases step with
  | reserve ledger label amount now =>
      rw [show (reserve ledger label amount now).settles.toList = [] from rfl,
        List.append_nil]
      unfold run
      dsimp only
      rcases ledger.reserve_cases context label amount now file with
        ⟨stop, refused⟩ | ⟨opened, accepted, under, inserted⟩
      · rw [refused]
        exact kept
      · rw [inserted]
        rintro _ ⟨⟩
        obtain ⟨ceiling, calls⟩ := SpendLedger.initializeFile_eq_ok accepted
        constructor
        · intro cap bound
          cases (show some ledger.capUsd = some cap from ceiling ▸ bound)
          have within : opened.total + amount ≤ ledger.capUsd := by
            by_contra beyond
            unfold checksExactly at exactly
            dsimp only at exactly
            rw [accepted] at exactly
            dsimp only at exactly
            rw [decide_eq_true (not_le.mp beyond),
              decide_eq_false under.not_gt] at exactly
            cases exactly
          rw [SpendFile.total_insertCall]
          linarith [SpendFile.overage_nonneg
            (opened.insertCall label amount now)]
        · intro call member fresh
          rcases List.mem_append.mp member with old | new
          · rw [calls] at old
            cases file with
            | none => cases old
            | some file => exact (kept file rfl).unsettled call old fresh
          · rw [List.mem_singleton.mp new]
  | settle id cost status detail =>
      unfold run SpendLedger.settle
      cases file with
      | none => rintro _ ⟨⟩
      | some file =>
          rintro _ ⟨⟩
          obtain ⟨under, unsettled⟩ := kept file rfl
          have fresh := first id rfl
          constructor
          · intro cap bound
            have before := under cap bound
            have change := file.total_le_settleCall cost status detail
              fun call member same => unsettled call member (same ▸ fresh)
            linarith
          · intro call member other
            obtain ⟨old, kept, rfl⟩ := List.mem_map.mp member
            by_cases same : old.id = id
            · rw [if_pos same] at other
              exact absurd (List.mem_append_right settled
                (List.mem_singleton.mpr same)) other
            · rw [if_neg same] at other ⊢
              exact unsettled old kept fun settledBefore =>
                other (List.mem_append_left _ settledBefore)

theorem kept_foldl (steps : List LedgerStep) {settled : List ℕ}
    {file : Option SpendFile} (kept : Kept settled file)
    (exactly : allCheckExactly context file steps = true)
    (once : (settled ++ steps.filterMap settles).Nodup) :
    Kept (settled ++ steps.filterMap settles)
      (steps.foldl (run context) file) := by
  induction steps generalizing settled file with
  | nil =>
      rw [List.filterMap_nil, List.append_nil]
      exact kept
  | cons step rest induction =>
      have joined : settled ++ (step :: rest).filterMap settles =
          (settled ++ step.settles.toList) ++ rest.filterMap settles := by
        cases settled : step.settles with
        | none => simp [settled]
        | some call => simp [settled]
      rw [joined] at once ⊢
      obtain ⟨now, later⟩ := Bool.and_eq_true_iff.mp exactly
      refine induction (kept_run step kept now ?_) later once
      intro call settlesIt member
      rw [settlesIt] at once
      have apart := (List.nodup_append.mp (List.nodup_append.mp once).1).2.2
      exact apart call member call (.head _) rfl

theorem ceiling_of_foldl (caps : ℚ → Prop) (steps : List LedgerStep)
    {file : Option SpendFile}
    (reserves : ∀ ledger label amount now,
      reserve ledger label amount now ∈ steps → caps ledger.capUsd)
    (capped : ∀ opened, file = some opened →
      ∃ cap, opened.ceiling = some cap ∧ caps cap) :
    ∀ reached, steps.foldl (run context) file = some reached →
      ∃ cap, reached.ceiling = some cap ∧ caps cap := by
  induction steps generalizing file with
  | nil => exact capped
  | cons step rest induction =>
      rw [List.foldl_cons]
      apply induction fun ledger label amount now member =>
        reserves ledger label amount now (.tail _ member)
      cases step with
      | reserve ledger label amount now =>
          unfold run
          dsimp only
          rcases ledger.reserve_cases context label amount now file with
            ⟨stop, refused⟩ | ⟨opened, accepted, _, inserted⟩
          · rw [refused]
            exact capped
          · rw [inserted]
            rintro _ ⟨⟩
            exact ⟨_, (SpendLedger.initializeFile_eq_ok accepted).1,
              reserves ledger label amount now (.head _)⟩
      | settle id cost status detail =>
          unfold run SpendLedger.settle
          cases file with
          | none => rintro _ ⟨⟩
          | some file =>
              rintro _ ⟨⟩
              exact capped file rfl

end LedgerStep

end GptTrader
