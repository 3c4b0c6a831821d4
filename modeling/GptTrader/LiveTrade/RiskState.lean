import GptTrader.Python.TableFormats

/-!
# The risk brakes and their state file

The mutators of `LiveRiskManager` and the file they save the brakes to.  A new
manager reads the file back when it was saved on its trading day.  The writer
leaves out the CFM brake, which the reader looks for, and an equity of zero.
-/

namespace GptTrader

namespace Decimal

/-- `left >= right`. -/
def ge (left right : Decimal) : Except PyError Bool :=
  (left.lt right).map not

/-- `-left / right` for a positive `right`. -/
def negDiv : Decimal → Decimal → Except PyError Decimal
  | .nan true, _ => .error .invalidOperation
  | _, .nan true => .error .invalidOperation
  | .nan false, _ => .ok (.nan false)
  | _, .nan false => .ok (.nan false)
  | .finite left, .finite right => .ok (.finite (-left / right))
  | .finite _, .infinity _ => .ok (.finite 0)
  | .infinity negative, .finite _ => .ok (.infinity !negative)
  | .infinity _, .infinity _ => .error .invalidOperation

end Decimal

/-- `daily_loss_limit_pct`: false or blank, not a decimal, or a decimal. -/
inductive DailyLossLimit where
  | unset
  | invalid
  | limit (value : Decimal)

/-- The configuration of a manager and the texts of dates and percentages.
Trading days are counted. -/
structure RiskContext where
  formats : TextFormats
  isoDate : ℕ → String
  isoDate_injective : Function.Injective isoDate
  showPercent : ℚ → String
  dailyLossLimit : DailyLossLimit
  volatilityThreshold : Option ℚ
  cfmMinLiquidationBuffer : ℚ

/-- What stops or limits trading. -/
structure RiskBrakes where
  startOfDayEquity : Option Decimal
  dailyPnlTriggered : Bool
  reduceOnlyMode : Bool
  reduceOnlyReason : String
  cfmReduceOnlyMode : Bool
  cfmReduceOnlyReason : String
  deriving DecidableEq

/-- No brake is on. -/
def RiskBrakes.released : RiskBrakes :=
  { startOfDayEquity := none
    dailyPnlTriggered := false
    reduceOnlyMode := false
    reduceOnlyReason := ""
    cfmReduceOnlyMode := false
    cfmReduceOnlyReason := "" }

/-- The JSON object of the state file; absent keys are `none`. -/
structure RiskStateFile where
  date : String
  startOfDayEquity : Option String
  dailyPnlTriggered : Option Bool
  reduceOnlyMode : Option Bool
  reduceOnlyReason : Option String
  cfmReduceOnlyMode : Option Bool
  cfmReduceOnlyReason : Option String
  deriving DecidableEq

/-- A manager and its state file. -/
structure LiveRiskManager where
  brakes : RiskBrakes
  file : Option RiskStateFile
  deriving DecidableEq

def LiveRiskManager.fresh : LiveRiskManager :=
  { brakes := .released
    file := none }

namespace LiveRiskManager

variable (context : RiskContext) (day : ℕ)

section Persistence

/-- The object `_save_state` writes. -/
def stateFile (brakes : RiskBrakes) : RiskStateFile :=
  { date := context.isoDate day
    startOfDayEquity := brakes.startOfDayEquity.bind fun equity =>
      if equity.isZero then none else some (context.formats.showDecimal equity)
    dailyPnlTriggered := some brakes.dailyPnlTriggered
    reduceOnlyMode := some brakes.reduceOnlyMode
    reduceOnlyReason := some brakes.reduceOnlyReason
    cfmReduceOnlyMode := none
    cfmReduceOnlyReason := none }

/-- The brakes written to their file. -/
def saveState (manager : LiveRiskManager) : LiveRiskManager :=
  { manager with file := some (stateFile context day manager.brakes) }

def readBrakes (file : RiskStateFile) : RiskBrakes :=
  let read (equity : Option Decimal) : RiskBrakes :=
    { startOfDayEquity := equity
      dailyPnlTriggered := file.dailyPnlTriggered.getD false
      reduceOnlyMode := file.reduceOnlyMode.getD false
      reduceOnlyReason := file.reduceOnlyReason.getD ""
      cfmReduceOnlyMode := file.cfmReduceOnlyMode.getD false
      cfmReduceOnlyReason := file.cfmReduceOnlyReason.getD "" }
  match file.startOfDayEquity with
  | none => read none
  | some text =>
      match context.formats.parseDecimal text with
      | some equity => read (some equity)
      | none => .released

/-- The brakes of today's file. -/
def loadState : Option RiskStateFile → RiskBrakes
  | none => .released
  | some file =>
      if file.date = context.isoDate day then readBrakes context file else .released

def restart (manager : LiveRiskManager) : LiveRiskManager :=
  { manager with brakes := loadState context day manager.file }

end Persistence

section Mutators

/-- The brake set and saved. -/
def setReduceOnlyMode (value : Bool) (reason : String)
    (manager : LiveRiskManager) : LiveRiskManager :=
  saveState context day
    { manager with
      brakes :=
        { manager.brakes with
          reduceOnlyMode := value
          reduceOnlyReason := reason } }

def triggerDailyPnl (reason : String) (manager : LiveRiskManager) :
    LiveRiskManager :=
  setReduceOnlyMode context day true reason
    { manager with
      brakes := { manager.brakes with dailyPnlTriggered := true } }

/-- The day's loss passed the limit. -/
def lossBreached (start equity limit : Decimal) : Except PyError Bool := do
  let dailyPnl ← equity.sub start
  if ← (Decimal.finite 0).lt start then do
    let lossPct ← dailyPnl.negDiv start
    lossPct.ge limit
  else .ok false

/-- `track_daily_pnl`; an exception leaves the manager as it is. -/
def trackDailyPnl (equity : Decimal) (manager : LiveRiskManager) :
    LiveRiskManager :=
  match manager.brakes.startOfDayEquity with
  | none =>
      saveState context day
        { manager with
          brakes := { manager.brakes with startOfDayEquity := some equity } }
  | some start =>
      match context.dailyLossLimit with
      | .unset => manager
      | .invalid =>
          triggerDailyPnl context day "daily_loss_limit_invalid" manager
      | .limit limit =>
          match lossBreached start equity limit with
          | .ok true =>
              saveState context day
                (triggerDailyPnl context day "daily_loss_limit_breached" manager)
          | _ => manager

def volatility (closes : List ℚ) : Option ℚ :=
  let mean := closes.sum / closes.length
  if mean = 0 then none
  else (closes.map fun close => |close - mean|).max?.map fun deviation =>
    deviation / mean

def checkVolatilityCircuitBreaker (symbol : String) (closes : List ℚ)
    (manager : LiveRiskManager) : LiveRiskManager :=
  if closes.length < 5 then manager
  else
    match context.volatilityThreshold, volatility closes with
    | some threshold, some measured =>
        if threshold ≠ 0 ∧ threshold < measured then
          setReduceOnlyMode context day true ("volatility_breaker_" ++ symbol)
            manager
        else manager
    | _, _ => manager

/-- A new day starts with no brake on. -/
def resetDailyTracking (manager : LiveRiskManager) : LiveRiskManager :=
  saveState context day { manager with brakes := .released }

/-- The brake of the futures margin. -/
def setCfmReduceOnlyMode (value : Bool) (reason : String)
    (manager : LiveRiskManager) : LiveRiskManager :=
  saveState context day
    { manager with
      brakes :=
        { manager.brakes with
          cfmReduceOnlyMode := value
          cfmReduceOnlyReason := reason } }

/-- What a CFM balance says of its liquidation buffer. -/
structure CfmBalance where
  liquidationBufferPercentage : Option ℚ
  totalUsdBalance : ℚ
  maintenanceMargin : ℚ

def CfmBalance.buffer (balance : CfmBalance) : Option ℚ :=
  balance.liquidationBufferPercentage.orElse fun _ =>
    if 0 < balance.totalUsdBalance ∧ 0 < balance.maintenanceMargin then
      some ((balance.totalUsdBalance - balance.maintenanceMargin) /
        balance.totalUsdBalance)
    else none

/-- `check_cfm_liquidation_buffer`: a critical buffer sets the CFM brake, and
nothing saves it. -/
def checkCfmLiquidationBuffer (balance : Option CfmBalance)
    (manager : LiveRiskManager) : LiveRiskManager :=
  match balance.bind CfmBalance.buffer with
  | none => manager
  | some buffer =>
      if buffer < context.cfmMinLiquidationBuffer ∧
          buffer < context.cfmMinLiquidationBuffer / 2 then
        { manager with
          brakes :=
            { manager.brakes with
              cfmReduceOnlyMode := true
              cfmReduceOnlyReason :=
                "liquidation_buffer_" ++ context.showPercent buffer } }
      else manager

end Mutators

end LiveRiskManager

/-- An operation of the manager, a restart, or the start of the next trading
day. -/
inductive RiskCall where
  | trackDailyPnl (equity : Decimal)
  | setReduceOnlyMode (value : Bool) (reason : String)
  | checkVolatilityCircuitBreaker (symbol : String) (closes : List ℚ)
  | resetDailyTracking
  | setCfmReduceOnlyMode (value : Bool) (reason : String)
  | checkCfmLiquidationBuffer (balance : Option LiveRiskManager.CfmBalance)
  | restart
  | nextDay

/-- A manager on a trading day. -/
structure RiskSession where
  day : ℕ
  manager : LiveRiskManager

namespace RiskSession

variable (context : RiskContext)

/-- The session after a restart. -/
def restarted (session : RiskSession) : LiveRiskManager :=
  session.manager.restart context session.day

def perform (session : RiskSession) : RiskCall → RiskSession
  | .trackDailyPnl equity =>
      { session with
        manager := session.manager.trackDailyPnl context session.day equity }
  | .setReduceOnlyMode value reason =>
      { session with
        manager :=
          session.manager.setReduceOnlyMode context session.day value reason }
  | .checkVolatilityCircuitBreaker symbol closes =>
      { session with
        manager :=
          session.manager.checkVolatilityCircuitBreaker context session.day
            symbol closes }
  | .resetDailyTracking =>
      { session with
        manager := session.manager.resetDailyTracking context session.day }
  | .setCfmReduceOnlyMode value reason =>
      { session with
        manager :=
          session.manager.setCfmReduceOnlyMode context session.day value
            reason }
  | .checkCfmLiquidationBuffer balance =>
      { session with
        manager :=
          session.manager.checkCfmLiquidationBuffer context balance }
  | .restart => { session with manager := session.restarted context }
  | .nextDay => { session with day := session.day + 1 }

def run (day : ℕ) (calls : List RiskCall) : RiskSession :=
  calls.foldl (perform context)
    { day := day
      manager := .fresh }

end RiskSession

namespace LiveRiskManager

section Saved

variable {context : RiskContext} {day : ℕ} {manager : LiveRiskManager}

def written (brakes : RiskBrakes) : RiskBrakes :=
  { brakes with
    startOfDayEquity := brakes.startOfDayEquity.filter fun equity =>
      !equity.isZero
    cfmReduceOnlyMode := false
    cfmReduceOnlyReason := "" }

/-- The file holds what the writer would write now, on this day or an earlier
one, or it is no file of this day and there is nothing to write. -/
inductive Saved (context : RiskContext) (day : ℕ) (manager : LiveRiskManager) :
    Prop where
  | today
      (file : manager.file = some (stateFile context day manager.brakes))
  | earlier (saved : ℕ) (before : saved < day)
      (file : manager.file = some (stateFile context saved manager.brakes))
  | nothing
      (file : ∀ file ∈ manager.file, ∃ saved < day,
        file.date = context.isoDate saved)
      (released : written manager.brakes = .released)
      (equity : manager.brakes.startOfDayEquity = none)

theorem saved_saveState : Saved context day (saveState context day manager) :=
  .today rfl

theorem Saved.setCfm (saved : Saved context day manager) (mode : Bool)
    (reason : String) :
    Saved context day
      { manager with
        brakes :=
          { manager.brakes with
            cfmReduceOnlyMode := mode
            cfmReduceOnlyReason := reason } } := by
  cases saved with
  | today file => exact .today file
  | earlier saved before file => exact .earlier saved before file
  | nothing file released equity => exact .nothing file released equity

theorem readBrakes_stateFile (brakes : RiskBrakes) :
    readBrakes context (stateFile context day brakes) = written brakes := by
  unfold readBrakes stateFile written
  cases equity : brakes.startOfDayEquity with
  | none => simp
  | some value =>
      cases zero : value.isZero with
      | true => simp [zero, Option.filter]
      | false => simp [zero, Option.filter, context.formats.parseDecimal_show]

theorem stateFile_written (brakes : RiskBrakes) :
    stateFile context day (written brakes) = stateFile context day brakes := by
  unfold stateFile written
  cases equity : brakes.startOfDayEquity with
  | none => simp [Option.filter]
  | some value => cases zero : value.isZero <;> simp [zero, Option.filter]

theorem loadState_earlier {saved : ℕ} (before : saved < day)
    {file : RiskStateFile} (date : file.date = context.isoDate saved) :
    loadState context day (some file) = .released := by
  have other : file.date ≠ context.isoDate day := by
    rw [date]
    exact fun same => before.ne (context.isoDate_injective same)
  exact if_neg other

theorem loadState_today (brakes : RiskBrakes) :
    loadState context day (some (stateFile context day brakes)) =
      written brakes :=
  (if_pos rfl).trans (readBrakes_stateFile brakes)

def WrittenToday (context : RiskContext) (day : ℕ)
    (manager : LiveRiskManager) : Prop :=
  ∃ file ∈ manager.file, file.date = context.isoDate day

theorem Saved.restart_today (saved : Saved context day manager)
    (current : WrittenToday context day manager) :
    (manager.restart context day).brakes = written manager.brakes := by
  unfold restart
  cases saved with
  | today file =>
      rw [file]
      exact loadState_today manager.brakes
  | earlier saved before file =>
      obtain ⟨_, found, date⟩ := current
      rw [file] at found
      cases found
      exact absurd (context.isoDate_injective date) before.ne
  | nothing file released equity =>
      obtain ⟨text, found, date⟩ := current
      obtain ⟨saved, before, earlier⟩ := file text found
      exact absurd (context.isoDate_injective (earlier.symm.trans date))
        before.ne

theorem restart_released (stale : ¬WrittenToday context day manager) :
    (manager.restart context day).brakes = .released := by
  unfold restart loadState
  cases present : manager.file with
  | none => rfl
  | some file =>
      exact if_neg fun same => stale ⟨file, present, same⟩

theorem written_released : written .released = .released := rfl

theorem Saved.restart (saved : Saved context day manager) :
    Saved context day (manager.restart context day) := by
  cases saved with
  | today file =>
      refine .today ?_
      have read : (manager.restart context day).brakes =
          written manager.brakes := by
        unfold LiveRiskManager.restart
        rw [file]
        exact loadState_today manager.brakes
      rw [read, stateFile_written]
      exact file
  | earlier saved before file =>
      have read : (manager.restart context day).brakes = .released := by
        unfold LiveRiskManager.restart
        rw [file]
        exact loadState_earlier before rfl
      refine .nothing ?_ (by rw [read, written_released]) (by rw [read]; rfl)
      intro text found
      change text ∈ manager.file at found
      rw [file] at found
      cases found
      exact ⟨saved, before, rfl⟩
  | nothing file released equity =>
      have read : (manager.restart context day).brakes = .released := by
        refine restart_released ?_
        rintro ⟨text, found, date⟩
        obtain ⟨saved, before, earlier⟩ := file text found
        exact before.ne
          (context.isoDate_injective (earlier.symm.trans date))
      exact .nothing file (by rw [read, written_released]) (by rw [read]; rfl)

section

variable (saved : Saved context day manager)

include saved

theorem Saved.nextDay :
    Saved context (day + 1) manager := by
  cases saved with
  | today file => exact .earlier day (Nat.lt_succ_self day) file
  | earlier saved before file =>
      exact .earlier saved (Nat.lt_succ_of_lt before) file
  | nothing file released equity =>
      refine .nothing (fun text found => ?_) released equity
      obtain ⟨saved, before, date⟩ := file text found
      exact ⟨saved, Nat.lt_succ_of_lt before, date⟩

theorem Saved.trackDailyPnl (equity : Decimal) :
    Saved context day (manager.trackDailyPnl context day equity) := by
  unfold LiveRiskManager.trackDailyPnl
  split
  · exact saved_saveState
  · split
    · exact saved
    · exact saved_saveState
    · split
      · exact saved_saveState
      · exact saved

theorem Saved.checkVolatilityCircuitBreaker (symbol : String) (closes : List ℚ) :
    Saved context day
      (manager.checkVolatilityCircuitBreaker context day symbol closes) := by
  unfold LiveRiskManager.checkVolatilityCircuitBreaker
  split
  · exact saved
  · split
    · split
      · exact saved_saveState
      · exact saved
    · exact saved

theorem Saved.checkCfmLiquidationBuffer (balance : Option CfmBalance) :
    Saved context day (manager.checkCfmLiquidationBuffer context balance) := by
  unfold LiveRiskManager.checkCfmLiquidationBuffer
  split
  · exact saved
  · split
    · exact saved.setCfm true _
    · exact saved

end

end Saved

end LiveRiskManager

namespace RiskSession

variable {context : RiskContext} {session : RiskSession}

def Saved (context : RiskContext) (session : RiskSession) : Prop :=
  LiveRiskManager.Saved context session.day session.manager

theorem Saved.perform (saved : session.Saved context) (call : RiskCall) :
    (session.perform context call).Saved context := by
  cases call with
  | trackDailyPnl equity =>
      exact LiveRiskManager.Saved.trackDailyPnl saved equity
  | setReduceOnlyMode value reason => exact LiveRiskManager.saved_saveState
  | checkVolatilityCircuitBreaker symbol closes =>
      exact LiveRiskManager.Saved.checkVolatilityCircuitBreaker saved symbol
        closes
  | resetDailyTracking => exact LiveRiskManager.saved_saveState
  | setCfmReduceOnlyMode value reason => exact LiveRiskManager.saved_saveState
  | checkCfmLiquidationBuffer balance =>
      exact LiveRiskManager.Saved.checkCfmLiquidationBuffer saved balance
  | restart => exact LiveRiskManager.Saved.restart saved
  | nextDay => exact LiveRiskManager.Saved.nextDay saved

theorem run_saved (day : ℕ) (calls : List RiskCall) :
    (run context day calls).Saved context := by
  unfold run
  induction calls using List.reverseRecOn with
  | nil => exact .nothing (by simp [LiveRiskManager.fresh]) rfl rfl
  | append_singleton calls call induction =>
      rw [List.foldl_append]
      exact induction.perform call

theorem written_eq_iff {brakes : RiskBrakes} :
    LiveRiskManager.written brakes = brakes ↔
      brakes.cfmReduceOnlyMode = false ∧ brakes.cfmReduceOnlyReason = "" ∧
        ∀ equity ∈ brakes.startOfDayEquity, equity.isZero = false := by
  obtain ⟨equity, triggered, mode, reason, cfmMode, cfmReason⟩ := brakes
  have unfiltered : equity.filter (fun value => !value.isZero) = equity ↔
      ∀ value ∈ equity, value.isZero = false := by
    cases equity with
    | none => simp
    | some value => cases zero : value.isZero <;> simp [zero, Option.filter]
  simp only [LiveRiskManager.written, RiskBrakes.mk.injEq, true_and, unfiltered]
  constructor
  · rintro ⟨kept, released, blank⟩
    exact ⟨released.symm, blank.symm, kept⟩
  · rintro ⟨released, blank, kept⟩
    exact ⟨kept, released.symm, blank.symm⟩

/-- After every run, a restart on the same trading day keeps the brakes exactly
when the file holds what they need, or when no brake is set. -/
theorem restart_keeps_brakes_iff (context : RiskContext) (day : ℕ)
    (calls : List RiskCall) :
    ((run context day calls).restarted context).brakes =
        (run context day calls).manager.brakes ↔
      (LiveRiskManager.WrittenToday context (run context day calls).day
          (run context day calls).manager ∧
        (run context day calls).manager.brakes.cfmReduceOnlyMode = false ∧
        (run context day calls).manager.brakes.cfmReduceOnlyReason = "" ∧
        ∀ equity ∈ (run context day calls).manager.brakes.startOfDayEquity,
          equity.isZero = false) ∨
      (run context day calls).manager.brakes = .released := by
  have saved : (run context day calls).Saved context := run_saved day calls
  generalize run context day calls = session at saved
  rw [← written_eq_iff]
  by_cases current :
      LiveRiskManager.WrittenToday context session.day session.manager
  · have read : (session.restarted context).brakes =
        LiveRiskManager.written session.manager.brakes :=
      LiveRiskManager.Saved.restart_today saved current
    rw [read]
    constructor
    · exact fun kept => .inl ⟨current, kept⟩
    · rintro (⟨_, kept⟩ | released)
      · exact kept
      · rw [released]
        exact LiveRiskManager.written_released
  · have read : (session.restarted context).brakes = .released :=
      LiveRiskManager.restart_released current
    rw [read]
    constructor
    · exact fun kept => .inr kept.symm
    · rintro (⟨written, _⟩ | released)
      · exact absurd written current
      · exact released.symm

section Examples

def riskContext : RiskContext :=
  { formats := tableFormats
      { entries := [("0", .finite 0), ("100", .finite 100)]
        nodup := by decide
        unmarked := by decide }
      { entries := []
        nodup := List.nodup_nil
        unmarked := Spelling.unmarked_nil }
    isoDate := fun day =>
      "2026-01-0" ++ String.ofList (List.replicate day '1')
    isoDate_injective := fun left right same => by
      simpa using congrArg String.length ((String.append_right_inj _).mp same)
    showPercent := fun _ => "5.0%"
    dailyLossLimit := .limit (.finite (1 / 20))
    volatilityThreshold := some (1 / 10)
    cfmMinLiquidationBuffer := 3 / 20 }

def thinBufferRun : List RiskCall :=
  [.trackDailyPnl (.finite 100), .trackDailyPnl (.finite 90),
    .checkCfmLiquidationBuffer (some
      { liquidationBufferPercentage := some (1 / 20)
        totalUsdBalance := 100
        maintenanceMargin := 95 })]

/-- The brake of the daily loss survives a restart, the CFM brake does not. -/
theorem thin_buffer_released_by_restart :
    ((run riskContext 1 thinBufferRun).restarted riskContext).brakes ≠
      (run riskContext 1 thinBufferRun).manager.brakes := by
  decide +kernel

end Examples

end RiskSession

end GptTrader
