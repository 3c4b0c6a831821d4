import GptTrader.TradeIdeas.BudgetContext

/-!
# Decisions at the risk kernel

The budget and autonomy part of `TradeIdeaService` and the `RiskKernel` of
`trade_ideas/kernel.py`.  A decision seeds the logs it needs, resolves the
autonomy level, ratchets it down when a loss limit is breached, and evaluates
the approval policy.  Recording an approval makes a fresh check in the
transaction that appends the event.

An operation called by another shares its transaction, so it appears here
without one.
-/

namespace GptTrader

namespace ServiceTx

variable (env : TradeEnv)

def lift {α : Type} (outcome : Except ServiceError α) : ServiceTx α :=
  Tx.read fun _ => outcome

section Budget

def budgetSeed (timestamp : ℤ) : BudgetLogEntry :=
  { timestamp := timestamp
    actorType := .system
    actorId := "seed-defaults"
    budget := defaultRiskBudget }

def seedBudget : ServiceTx RiskBudget := do
  let timestamp ← now env
  appendBudget (budgetSeed timestamp)
  pure defaultRiskBudget

/-- The budget another writer seeded first. -/
def adoptBudget (error : ServiceError) : ServiceTx RiskBudget :=
  if error.kind = .budgetIntegrity then do
    match ← ask fun store => store.budget.current with
    | some budget => pure budget
    | none => Tx.raise error
  else Tx.raise error

/-- `current_budget`: the active budget, seeded on first use. -/
def currentBudget : ServiceTx RiskBudget := do
  match ← ask fun store => store.budget.current with
  | some budget => pure budget
  | none => Tx.handle (seedBudget env) adoptBudget

end Budget

section Autonomy

def makeEntry (version : ℤ) (timestamp : ℤ) (mode : AutonomyMode)
    (actorType : ActorType) (actorId reason : String) (evidence : List String) :
    ServiceTx AutonomyStateEntry :=
  lift ((AutonomyStateEntry.make version (.utc timestamp) mode actorType
    (.str actorId) (.str reason) (evidence.map .str)).mapError .escaped)

def autonomySeedReason : String :=
  "Seeded default accepted in docs/decisions/persistent-autonomy-state.md: " ++
    "human approval required for every execution"

/-- The default mode, written as the first. -/
def seedAutonomy : ServiceTx AutonomyResolution := do
  let timestamp ← now env
  let entry ← makeEntry 1 timestamp defaultAutonomyMode .system "seed-defaults"
    autonomySeedReason []
  appendAutonomy env entry
  pure
    { mode := defaultAutonomyMode
      version := some 1
      source := .log
      error := none }

def adoptAutonomy (error : ServiceError) : ServiceTx AutonomyResolution :=
  if error.kind = .autonomyIntegrity then do
    let resolution ← ask (TradeState.peekAutonomy env)
    if resolution.source = .log then pure resolution else Tx.raise error
  else Tx.raise error

/-- `current_autonomy`: the active mode, seeded on first use. -/
def currentAutonomy : ServiceTx AutonomyResolution := do
  let resolution ← ask (TradeState.peekAutonomy env)
  if resolution.source = .seededDefault then
    Tx.handle (seedAutonomy env) (adoptAutonomy env)
  else pure resolution

def nextVersion (resolution : AutonomyResolution) : ℤ :=
  resolution.version.getD 0 + 1

/-- A new mode, with its checks. -/
def setAutonomyMode (mode : AutonomyMode) (actorType : ActorType)
    (actorId reason : String) (evidence : List String) :
    ServiceTx AutonomyStateEntry := do
  let resolution ← currentAutonomy env
  if resolution.source = .failClosed then
    Tx.raise (.about .autonomyIntegrity "autonomy_state_log"
      ("Autonomy state log is unreadable or integrity-broken; repair it before " ++
        "changing the level: " ++ resolution.error.getD "None"))
  else
    let violations := autonomyTransitionViolations resolution.mode mode actorType
    if violations = [] then do
      let timestamp ← now env
      let entry ← makeEntry (nextVersion resolution) timestamp mode actorType
        actorId reason evidence
      appendAutonomy env entry
      pure entry
    else
      Tx.raise (.refusal
        ("Autonomy change refused: " ++ "; ".intercalate violations) violations)

/-- Why a decision lowers the level: the evidence and the reason. -/
structure Breach where
  evidence : List String
  reason : String

/-- What the ratchet finds. -/
def breach (now : ℤ) (budget : RiskBudget) (context : ApprovalBudgetContext) :
    Query (Option Breach) :=
  fun store =>
    match dailyLossBreachEvidence env context budget now with
    | some evidence =>
        .ok (some
          { evidence := evidence
            reason := "Automatic ratchet-down: same-trading-day realized loss " ++
              "breached max_daily_loss_pct" })
    | none =>
        if budget.maxDrawdownFromPeakPct.isSome then do
          let accounting ← store.paperAccounting env
          .ok ((drawdownFromPeakBreachEvidence env accounting budget now).map
            fun evidence =>
              { evidence := evidence
                reason := "Automatic ratchet-down: drawdown-from-peak breached " ++
                  "max_drawdown_from_peak_pct" })
        else .ok none

/-- The mode lowered for a breach. -/
def ratchet (now : ℤ) (resolution : AutonomyResolution) (found : Breach) :
    ServiceTx AutonomyResolution := do
  let entry ← makeEntry (nextVersion resolution) now .humanApprovedExecution
    .system ratchetActorId found.reason found.evidence
  appendAutonomy env entry
  pure
    { mode := entry.mode
      version := some entry.version
      source := .log
      error := none }

def givenOr {α : Type} (given : Option α) (compute : ServiceTx α) : ServiceTx α :=
  match given with
  | some value => pure value
  | none => compute

def applyRatchet (now : ℤ) (resolution : AutonomyResolution)
    (budget : Option RiskBudget) (context : Option ApprovalBudgetContext) :
    ServiceTx AutonomyResolution := do
  let budget ← givenOr budget (currentBudget env)
  let context ← givenOr context
    (ask (TradeState.approvalBudgetContext env none now))
  match ← ask (breach env now budget context) with
  | none => pure resolution
  | some found => ratchet env now resolution found

/-- The mode a decision is made under. -/
def decisionAutonomy (now : ℤ) (budget : Option RiskBudget)
    (context : Option ApprovalBudgetContext) : ServiceTx AutonomyResolution := do
  let resolution ← currentAutonomy env
  if resolution.source = .failClosed ∨
      resolution.mode.rank ≤ AutonomyMode.humanApprovedExecution.rank then
    pure resolution
  else applyRatchet env now resolution budget context

def resolveExecutionAutonomy (at? : Option ℤ) : ServiceTx AutonomyResolution := do
  let moment ← givenOr at? (now env)
  decisionAutonomy env moment none none

/-- `update_budget`: the enacted budget is part of the decision, so the ratchet
is checked against it again. -/
def updateBudget (budget : RiskBudget) (actorType : ActorType)
    (actorId : String) : ServiceTx Unit := do
  let moment ← now env
  let resolution ← decisionAutonomy env moment none none
  let violations := autonomyResolutionViolations resolution ++
    ApprovalPolicy.budgetChangeViolations resolution.mode actorType
  if violations = [] then do
    let _ ← currentBudget env
    let timestamp ← now env
    appendBudget
      { timestamp := timestamp
        actorType := actorType
        actorId := actorId
        budget := budget }
    let _ ← decisionAutonomy env moment none none
    pure ()
  else
    Tx.raise (.refusal
      ("Budget change refused: " ++ "; ".intercalate violations) violations)

end Autonomy

section Checks

/-- What an approval is checked on. -/
def approvalInputs (idea : TradeIdea) (budget : RiskBudget)
    (context : ApprovalBudgetContext) (now : ℤ) (operation : List String) :
    Query ApprovalPolicy.ApprovalInputs :=
  fun store => do
    let count ← store.openApprovedCount env
    let started := store.reviewStartedAt idea.decisionId
    .ok
      { budget := budget
        openApprovedCount := count
        now := now
        reviewStartedAt := started
        reviewDeadline := reviewDeadline env idea started budget
        budgetContext := some context
        positionOperationValidated := idea.reducing && operation.isEmpty }

/-- Why the idea may not be approved. -/
def checkViolations (idea : TradeIdea) (actorType : ActorType)
    (resolution : AutonomyResolution) (budget : RiskBudget)
    (context : ApprovalBudgetContext) (now : ℤ) : Query (List String) :=
  fun store => do
    let operation ← store.positionOperationViolations env idea
    let inputs ← approvalInputs env idea budget context now operation store
    .ok (autonomyResolutionViolations resolution ++ operation ++
      ApprovalPolicy.approvalViolations env resolution.mode idea actorType inputs)

/-- The check of an approval. -/
def checkApproval (idea : TradeIdea) (actorType : ActorType) :
    ServiceTx KernelCheck := do
  let evaluatedAt ← now env
  let budget ← currentBudget env
  let context ← ask
    (TradeState.approvalBudgetContext env (some idea.decisionId) evaluatedAt)
  let resolution ← decisionAutonomy env evaluatedAt (some budget) (some context)
  let violations ← ask
    (checkViolations env idea actorType resolution budget context evaluatedAt)
  pure
    { action := .approved
      decisionId := idea.decisionId
      actorType := actorType
      evaluatedAt := evaluatedAt
      autonomy := resolution
      violations := violations
      budget := some budget
      budgetContext := some context
      candidateMaxLossPct := idea.maxLoss.percentOfAccount }

/-- The check of an execution. -/
def checkExecution (decisionId : String) (actorType : ActorType)
    (at? : Option ℤ) : ServiceTx KernelCheck := do
  let evaluatedAt ← givenOr at? (now env)
  let resolution ← decisionAutonomy env evaluatedAt none none
  pure
    { action := .submitted
      decisionId := decisionId
      actorType := actorType
      evaluatedAt := evaluatedAt
      autonomy := resolution
      violations := autonomyResolutionViolations resolution ++
        violationIf (resolution.mode ≠ .boundedAutonomy)
          ("system-approved execution requires audited autonomy mode " ++
            "'bounded_autonomy'; resolved '" ++ resolution.mode.value ++
            "' (source=" ++ resolution.source.value ++ ")")
      budget := none
      budgetContext := none
      candidateMaxLossPct := none }

/-- `approval_violations`: the decision-path variant, which seeds the logs. -/
def approvalViolations (idea : TradeIdea) (actorType : ActorType) :
    ServiceTx (List String) := do
  let resolution ← currentAutonomy env
  let budget ← currentBudget env
  let evaluatedAt ← now env
  let contextAt ← now env
  ask fun store => do
    let context ← store.approvalBudgetContext env (some idea.decisionId) contextAt
    checkViolations env idea actorType resolution budget context evaluatedAt store

end Checks

section Records

/-- A caller's words for an approval or a denial. -/
structure Attribution where
  actorId : String
  reason : String

def committedEvidence (fresh preview : KernelCheck) (evidence : List String) :
    Except ServiceError (List String) := do
  let previewed ← preview.admissionEvidence env
  if evidence = previewed then fresh.admissionEvidence env else .ok evidence

def commitApproval (idea : TradeIdea) (check : KernelCheck)
    (attribution : Attribution) (evidence : List String) : ServiceTx Unit := do
  let current ← ask (TradeState.requireIdea env idea.decisionId)
  if env.recordHash current = env.recordHash idea ∧
      check.decisionId = idea.decisionId then do
    let fresh ← checkApproval env current check.actorType
    if fresh.admitted then do
      let committed ← lift (committedEvidence env fresh check evidence)
      appendAudit env current .approved fresh.actorType attribution.actorId
        attribution.reason committed "" ""
    else
      Tx.raise (.refusal
        ("Approval refused: " ++ "; ".intercalate fresh.violations)
        fresh.violations)
  else
    Tx.raise (.refusal "Approval input is stale or belongs to another decision"
      ["stale approval input"])

/-- The approval in its transaction. -/
def recordApproval (idea : TradeIdea) (check : KernelCheck)
    (attribution : Attribution) (evidence : List String) : ServiceTx Unit :=
  if check.admitted then commitApproval env idea check attribution evidence
  else
    Tx.raise (.refusal
      ("Cannot record approval of '" ++ check.decisionId ++
        "': the kernel denied it: " ++ "; ".intercalate check.violations)
      check.violations)

/-- `record_denied_approval`: the idea stays `proposed`. -/
def recordDeniedApproval (idea : TradeIdea) (check : KernelCheck)
    (attribution : Attribution) : ServiceTx Unit :=
  if check.admitted then
    Tx.raise (.refusal
      ("Cannot record a denial for '" ++ check.decisionId ++
        "': the kernel admitted it") [])
  else do
    let evidence ← lift check.denialEvidence
    appendAudit env idea .autoApprovalSkipped check.actorType
      attribution.actorId attribution.reason evidence "" ""

/-- `record_denied_execution`: meant to leave the idea `approved`. -/
def recordDeniedExecution (idea : TradeIdea) (check : KernelCheck)
    (attribution : Attribution) : ServiceTx Unit :=
  if check.admitted then
    Tx.raise (.refusal
      ("Cannot record an execution denial for '" ++ check.decisionId ++
        "': the kernel admitted it") [])
  else
    appendAudit env idea .autoExecutionSkipped check.actorType
      attribution.actorId attribution.reason check.executionDenialEvidence "" ""

end Records

end ServiceTx

end GptTrader
