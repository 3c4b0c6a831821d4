import GptTrader.TradeIdeas.ServiceRuns

/-!
# The proposer leg of the paper cycle

`busy_instruments` and `_run_proposer` of `idea_execution/cycle.py`.  A turn
reads which instruments are busy, admits the candidates of one proposer in order
and stores what it admitted as one batch.
-/

namespace GptTrader

/-- Membership in `_OPEN_STATES`. -/
def TradeIdeaState.inPipeline (state : TradeIdeaState) : Bool :=
  decide (state = .proposed ∨ state = .needsChanges ∨ state = .approved ∨
    state = .submitted)

/-- Why an instrument must not receive a new proposal this turn. -/
structure BusyInstrument where
  instrument : String
  decisionId : String
  reason : String
  deriving DecidableEq

/-- Whether the venue is open. -/
structure SessionDecision where
  instrument : String
  session : Option String
  isOpen : Bool
  reason : String

structure OpenSkip where
  instrument : String
  reason : String
  existingDecisionId : String
  deriving DecidableEq

structure ClosedSkip where
  instrument : String
  reason : String
  deriving DecidableEq

/-- What a turn proposed and skipped. -/
structure ProposerTurn where
  proposerId : String
  proposalCount : ℕ
  proposedDecisionIds : List String
  skippedOpenInstruments : List OpenSkip
  skippedClosedSessions : List ClosedSkip
  error : Option String
  deriving DecidableEq

/-- What the cycle is given: the service's surroundings, `str.casefold` and the
calendars of its session gate. -/
structure PaperCycle where
  env : TradeEnv
  casefold : String → String
  sessionCalendar : String → Except CalendarError TradingCalendar

/-- The candidate loop of one proposer. -/
structure Admission where
  known : List String
  busy : Dict String BusyInstrument
  admitted : List TradeIdea
  skipped : List OpenSkip
  skippedClosed : List ClosedSkip

namespace PaperCycle

structure SnapshotSeries where
  symbol : String
  priceIncrementError : Option String

/-- What proposers look at. -/
structure MarketSnapshot where
  source : String
  asOf : ℤ
  series : List SnapshotSeries

/-- What a proposer raised. -/
structure ProposerError where
  type : String
  message : String

def ProposerError.text (error : ProposerError) : String :=
  error.type ++ ": " ++ error.message

structure Proposer where
  proposerId : String
  propose : MarketSnapshot → Except ProposerError (List TradeIdea)

variable (cycle : PaperCycle)

section Busy

/-- An open idea makes its instrument busy, and so does a filled opening trade
that awaits its closeout, unless the instrument is busy already. -/
def noteBusy (busy : Dict String BusyInstrument) (view : TradeIdeaView) :
    Dict String BusyInstrument :=
  let key := cycle.casefold view.idea.instrument
  let blocker := fun reason : String =>
    { instrument := view.idea.instrument
      decisionId := view.idea.decisionId
      reason := reason : BusyInstrument }
  if view.state.inPipeline then
    busy.set key (blocker "instrument already has an open idea")
  else if view.state = .filled ∧ view.idea.positionOperation = none ∧
      view.closeoutAttribution = none then
    if (busy.get? key).isSome then busy
    else busy.set key (blocker "instrument has a filled idea awaiting closeout")
  else busy

/-- The instruments an idea keeps busy. -/
def busyInstruments : Query (Dict String BusyInstrument) :=
  fun store => do
    let views ← store.listViews cycle.env
    .ok (views.foldl cycle.noteBusy Dict.empty)

end Busy

section Sessions

def openingOf (calendar : TradingCalendar) (moment : ℤ) :
    Except CalendarError (Bool × Option ℤ) := do
  let isOpen ← calendar.isOpen moment
  let nextOpen ← if isOpen then .ok none else calendar.nextOpen moment
  .ok (isOpen, nextOpen)

def sessionDecision (instrument : String) (moment : ℤ) : SessionDecision :=
  let shown := cycle.env.showTime moment
  match cycle.sessionCalendar instrument with
  | .error error =>
      { instrument := instrument
        session := none
        isOpen := false
        reason := "instrument is not classifiable: " ++ error.message }
  | .ok calendar =>
      match openingOf calendar moment with
      | .error error =>
          { instrument := instrument
            session := some calendar.sessionId
            isOpen := false
            reason := "session calendar " ++ calendar.sessionId ++
              " cannot evaluate " ++ shown ++ ": " ++ error.message }
      | .ok (isOpen, nextOpen) =>
          { instrument := instrument
            session := some calendar.sessionId
            isOpen := isOpen
            reason :=
              if isOpen then ""
              else "market closed for session " ++ calendar.sessionId ++
                " at " ++ shown ++ (nextOpen.map fun opens =>
                  "; next open " ++ cycle.env.showTime opens).getD "" }

/-- The instrument is skipped while closed. -/
def closedSessionSkip (instrument : String) (moment : ℤ) : Option ClosedSkip :=
  let decision := cycle.sessionDecision instrument moment
  if decision.isOpen then none
  else some
    { instrument := instrument
      reason := decision.reason }

end Sessions

section Candidates

def admitIdea (admission : Admission) (idea : TradeIdea) : Admission :=
  { admission with
    known := idea.decisionId :: admission.known
    admitted := admission.admitted ++ [idea]
    busy :=
      if idea.reducing then admission.busy
      else admission.busy.set (cycle.casefold idea.instrument)
        { instrument := idea.instrument
          decisionId := idea.decisionId
          reason := "instrument already has an open idea" } }

def skip (admission : Admission) (idea : TradeIdea)
    (reason existingDecisionId : String) : Admission :=
  { admission with
    skipped := admission.skipped ++
      [{ instrument := idea.instrument
         reason := reason
         existingDecisionId := existingDecisionId }] }

/-- One pass of the candidate loop. -/
def consider (store : TradeState) (moment : ℤ) (admission : Admission)
    (idea : TradeIdea) : Except ServiceError Admission :=
  if idea.decisionId ∈ admission.known then
    .ok (skip admission idea "decision id already recorded (idempotent rerun)"
      idea.decisionId)
  else
    match cycle.closedSessionSkip idea.instrument moment with
    | some closed =>
        -- A closed session leaves the busy map alone.
        .ok { admission with skippedClosed := admission.skippedClosed ++ [closed] }
    | none =>
        match idea.positionOperation with
        | some operation => do
            let violations ← store.positionOperationViolations cycle.env idea
            if violations = [] then .ok (cycle.admitIdea admission idea)
            else .ok (skip admission idea ("; ".intercalate violations)
              operation.targetDecisionId)
        | none =>
            match admission.busy.get? (cycle.casefold idea.instrument) with
            | some blocker =>
                .ok (skip admission idea blocker.reason blocker.decisionId)
            | none => .ok (cycle.admitIdea admission idea)

/-- The candidates that are proposed. -/
def admissionOf (moment : ℤ) (candidates : List TradeIdea) : Query Admission :=
  fun store => do
    let busy ← cycle.busyInstruments store
    let views ← store.listViews cycle.env
    candidates.foldlM (cycle.consider store moment)
      { known := views.map fun view => view.idea.decisionId
        busy := busy
        admitted := []
        skipped := []
        skippedClosed := [] }

/-- An entry needs an exit plan. -/
def lacksExitPlan (idea : TradeIdea) : Bool :=
  decide (idea.positionOperation = none ∧
    (∃ quantity ∈ idea.sizingRecommendation.quantity, 0 < quantity) ∧
    idea.exitPlan = none)

/-- The ideas of a proposer, or its error. -/
def generate (proposer : Proposer) (snapshot : MarketSnapshot) :
    Except ProposerError (List TradeIdea) :=
  match snapshot.series.findSome? fun series =>
      -- An empty text is as good as none.
      (series.priceIncrementError.filter fun error => error != "").map
        fun error => series.symbol ++ ": " ++ error with
  | some message =>
      .error
        { type := "ValidationError"
          message := message }
  | none => proposer.propose snapshot

def emptyTurn (proposer : Proposer) (skipped : List OpenSkip)
    (skippedClosed : List ClosedSkip) (error : Option String) : ProposerTurn :=
  { proposerId := proposer.proposerId
    proposalCount := 0
    proposedDecisionIds := []
    skippedOpenInstruments := skipped
    skippedClosedSessions := skippedClosed
    error := error }

/-- `propose_batch` in its transaction, with the evidence of the turn. -/
def storeBatch (proposer : Proposer) (snapshot : MarketSnapshot)
    (reference : String) (batch : List TradeIdea) :
    ServiceTx (List TradeIdeaView) :=
  Tx.transaction ServiceState.rollback
    (ServiceTx.proposeBatch cycle.env batch .ai
      { actorId := proposer.proposerId
        reason := "paper-cycle scheduled proposal" }
      ["proposer_id=" ++ proposer.proposerId,
        "snapshot_reference=" ++ reference,
        "snapshot_source=" ++ snapshot.source,
        "snapshot_as_of=" ++ cycle.env.showTime snapshot.asOf])

/-- A whole turn of one proposer. -/
def runProposer (proposer : Proposer) (snapshot : MarketSnapshot)
    (reference : String) (moment : ℤ) : ServiceTx ProposerTurn :=
  match generate proposer snapshot with
  | .error error => pure (emptyTurn proposer [] [] (some error.text))
  | .ok candidates => do
      let admission ← ServiceTx.ask (cycle.admissionOf moment candidates)
      let batch := admission.admitted
      if batch = [] then
        pure (emptyTurn proposer admission.skipped admission.skippedClosed none)
      else
        match batch.find? lacksExitPlan with
        | some idea =>
            pure (emptyTurn proposer admission.skipped admission.skippedClosed
              (some ("Executable machine proposal " ++ idea.decisionId ++
                " requires a structured exit_plan")))
        | none => do
            ServiceTx.ask (ServiceTx.validateNewProposals [] batch)
            let views ← cycle.storeBatch proposer snapshot reference batch
            let proposed := views.map fun view => view.idea.decisionId
            pure
              { proposerId := proposer.proposerId
                proposalCount := proposed.length
                proposedDecisionIds := proposed
                skippedOpenInstruments := admission.skipped
                skippedClosedSessions := admission.skippedClosed
                error := none }

end Candidates

end PaperCycle

end GptTrader
