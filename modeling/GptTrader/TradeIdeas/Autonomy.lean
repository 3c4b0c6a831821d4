import GptTrader.TradeIdeas.RiskBudget

/-!
# The audited autonomy level

`trade_ideas/autonomy.py`.  The level is the mode of the last entry of an
append-only log.  An absent log means the seeded default; a log the reader
reports as broken resolves to `research_only`.  The reader reports the
exceptions it catches while it decodes a line, so the lines of this log are kept
as the JSON they hold.
-/

namespace GptTrader

def defaultAutonomyMode : AutonomyMode :=
  .humanApprovedExecution

def failClosedAutonomyMode : AutonomyMode :=
  .researchOnly

def ratchetActorId : String :=
  "autonomy-ratchet"

/-- `AUTONOMY_RANK`. -/
def AutonomyMode.rank : AutonomyMode → ℕ
  | .researchOnly => 0
  | .humanApprovedExecution => 1
  | .boundedAutonomy => 2

/-- Where a mode was resolved from. -/
inductive AutonomySource where
  | log
  | seededDefault
  | failClosed
  deriving DecidableEq, Repr

def AutonomySource.value : AutonomySource → String
  | .log => "autonomy_state_log"
  | .seededDefault => "seeded_default"
  | .failClosed => "fail_closed"

/-- One autonomy level with the actor and the rationale behind it. -/
structure AutonomyStateEntry where
  version : ℤ
  timestamp : DateTime
  mode : AutonomyMode
  actorType : ActorType
  actorId : Json
  reason : String
  evidence : List Json
  positive : 1 ≤ version
  rationale : isBlank reason = false
  deriving DecidableEq

/-- The mode in force, with its source. -/
structure AutonomyResolution where
  mode : AutonomyMode
  version : Option ℤ
  source : AutonomySource
  error : Option String
  deriving DecidableEq

namespace AutonomyStateEntry

/-- `tuple(value)`. -/
def evidenceItems : Json → Except PyError (List Json)
  | .arr items => .ok items
  | .str text => .ok (text.toList.map fun char => .str (String.singleton char))
  | .obj fields => .ok (fields.map fun entry => .str entry.1)
  | _ => .error .typeError

/-- The checks of the constructor: a version below one is a `ValueError`, a
reason without `strip` an `AttributeError`. -/
def make (version : ℤ) (timestamp : DateTime) (mode : AutonomyMode)
    (actorType : ActorType) (actorId reason : Json) (evidence : List Json) :
    Except PyError AutonomyStateEntry :=
  if positive : 1 ≤ version then
    match reason with
    | .str reason =>
        if rationale : isBlank reason = false then
          .ok
            { version := version
              timestamp := timestamp
              mode := mode
              actorType := actorType
              actorId := actorId
              reason := reason
              evidence := evidence
              positive := positive
              rationale := rationale }
        else .error .valueError
    | _ => .error .attributeError
  else .error .valueError

def toDict (formats : TextFormats) (entry : AutonomyStateEntry) : Json :=
  .obj
    [("actor_id", entry.actorId), ("actor_type", .str entry.actorType.value),
      ("evidence", .arr entry.evidence), ("mode", .str entry.mode.value),
      ("reason", .str entry.reason),
      ("timestamp", .str (formats.showDateTime entry.timestamp)),
      ("version", .int entry.version)]

/-- `from_dict`: every field is converted before the constructor checks. -/
def fromDict (formats : TextFormats) (payload : Json) :
    Except PyError AutonomyStateEntry := do
  let version ← payload.getItem "version" >>= formats.toInt
  let timestamp ← payload.getItem "timestamp" >>= formats.toDateTime
  let mode ← payload.getItem "mode" >>= AutonomyMode.parse
  let actorType ← payload.getItem "actor_type" >>= ActorType.parse
  let actorId ← payload.getItem "actor_id"
  let reason ← payload.getItem "reason"
  let evidence ← payload.getD "evidence" (.arr []) >>= evidenceItems
  make version timestamp mode actorType actorId reason evidence

theorem fromDict_toDict (formats : TextFormats) (entry : AutonomyStateEntry) :
    fromDict formats (entry.toDict formats) = .ok entry := by
  obtain ⟨version, timestamp, mode, actorType, actorId, reason, evidence,
    positive, rationale⟩ := entry
  have moded : AutonomyMode.parse (.str mode.value) = .ok mode := by
    cases mode <;> rfl
  have typed : ActorType.parse (.str actorType.value) = .ok actorType := by
    cases actorType <;> rfl
  simp [fromDict, toDict, Json.getItem, Json.getD, Json.field?,
    TextFormats.toInt, TextFormats.toDateTime, formats.parseDateTime_show, moded,
    typed, evidenceItems, make, positive, rationale, bind, Except.bind]

end AutonomyStateEntry

/-- The exceptions `history` translates into an `AutonomyIntegrityError`;
`json.JSONDecodeError` is a `ValueError`. -/
def PyError.autonomyCaught : PyError → Bool
  | .keyError => true
  | .typeError => true
  | .valueError => true
  | _ => false

namespace AutonomyLog

variable (formats : TextFormats)

def decodeLine : StoredLine → Except PyError (Option AutonomyStateEntry)
  | .blank => .ok none
  | .malformed error => .error error
  | .json payload => (AutonomyStateEntry.fromDict formats payload).map some

/-- The number of lines read and the entries on them. -/
structure Reading where
  line : ℕ
  entries : List AutonomyStateEntry

/-- A line of the log must continue it. -/
def readLine (reading : Reading) (line : StoredLine) :
    Except ServiceError Reading :=
  let number := toString (reading.line + 1)
  match decodeLine formats line with
  | .ok none => .ok { reading with line := reading.line + 1 }
  | .ok (some entry) =>
      if entry.version = (reading.entries.length + 1 : ℕ) then
        .ok
          { line := reading.line + 1
            entries := reading.entries ++ [entry] }
      else .error (.about .autonomyIntegrity "version"
        ("Autonomy state log line " ++ number ++ " has version " ++
          toString entry.version ++ "; expected " ++
          toString (reading.entries.length + 1)))
  | .error error =>
      if error.autonomyCaught then
        .error (.about .autonomyIntegrity "line"
          ("Autonomy state log line " ++ number ++ " is malformed"))
      else .error (.escaped error)

def history (lines : List StoredLine) :
    Except ServiceError (List AutonomyStateEntry) :=
  (replay (readLine formats) { line := 0, entries := [] } lines).map
    Reading.entries

def current (lines : List StoredLine) :
    Except ServiceError (Option AutonomyStateEntry) :=
  (history formats lines).map fun entries => entries.getLast?

/-- The log with an entry that continues it. -/
def append (lines : List StoredLine) (entry : AutonomyStateEntry) :
    Except ServiceError (List StoredLine) := do
  let current ← current formats lines
  let expected := (current.map AutonomyStateEntry.version).getD 0 + 1
  if entry.version = expected then .ok (lines ++ [.json (entry.toDict formats)])
  else .error (.about .autonomyIntegrity "version"
    ("Expected version " ++ toString expected))

/-- The mode of the log; the closed one when it is broken. -/
def resolveAutonomy (lines : List StoredLine) :
    Except ServiceError AutonomyResolution :=
  match current formats lines with
  | .error error =>
      if error.kind = .autonomyIntegrity then
        .ok
          { mode := failClosedAutonomyMode
            version := none
            source := .failClosed
            error := some error.message }
      else .error error
  | .ok none =>
      .ok
        { mode := defaultAutonomyMode
          version := none
          source := .seededDefault
          error := none }
  | .ok (some entry) =>
      .ok
        { mode := entry.mode
          version := some entry.version
          source := .log
          error := none }

end AutonomyLog

/-- `autonomy_transition_violations`: lowering is open to any actor. -/
def autonomyTransitionViolations (currentMode requestedMode : AutonomyMode)
    (actorType : ActorType) : List String :=
  if requestedMode.rank < currentMode.rank then []
  else if actorType = .human then []
  else
    ["Autonomy mode change '" ++ currentMode.value ++ "' -> '" ++
      requestedMode.value ++ "' requires a human actor; got actor_type '" ++
      actorType.value ++ "'"]

theorem autonomyTransitionViolations_eq_nil {currentMode requestedMode :
    AutonomyMode} {actorType : ActorType} :
    autonomyTransitionViolations currentMode requestedMode actorType = [] ↔
      requestedMode.rank < currentMode.rank ∨ actorType = .human := by
  unfold autonomyTransitionViolations
  split
  · next lower => simp [lower]
  · next notLower =>
      split
      · next human => simp [human]
      · next notHuman => simp [notLower, notHuman]

end GptTrader
