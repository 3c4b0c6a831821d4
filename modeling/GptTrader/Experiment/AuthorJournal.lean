import GptTrader.Experiment.AuthorTurns
import GptTrader.Experiment.StoredInput
import GptTrader.Library.Program
import GptTrader.Library.Replay

/-!
# The journal of an author run

`_journal`, `_open`, `run_author` and the replay of `inspect_author`
(`features/experiment/author_runner.py`).  A run is a program whose operations
are the transactions on the journal.  The dictionaries by symbol are kept coin by
coin; the JSON text of a row is kept as the value it spells.
-/

namespace GptTrader

/-- `initial_state` and `advance`, which is pure for the rule channels; states
and events are JSON. -/
structure AuthorEngine where
  initialState : ParsedInput → Json
  advance : ParsedInput → ℕ → Json → Except String Json

/-- What author runs are installed with. -/
structure AuthorWorld where
  formats : AuthorFormats
  arithmetic : DecimalContext
  installation : Installation
  engine : AuthorEngine

/-- The ledger a journal is bound to. -/
structure LedgerBinding where
  path : String
  cap : String
  deriving DecidableEq

/-- `_run_binding`. -/
structure AuthorBinding where
  schema : String
  engine : String
  implementation : String
  sources : List String
  inputs : List Json
  manager : ManagerSettings
  settings : AuthorSettings
  ledger : Option LedgerBinding
  deriving DecidableEq

def AuthorBinding.toDict (binding : AuthorBinding) : Json :=
  .obj [
    ("schema", .str binding.schema),
    ("engine", .str binding.engine),
    ("implementation_sha256", .str binding.implementation),
    ("sources", .arr (binding.sources.map .str)),
    ("inputs", .arr binding.inputs),
    ("manager", binding.manager.toDict),
    ("settings", binding.settings.toDict),
    ("ledger", (binding.ledger.map fun ledger => Json.obj [
      ("path", .str ledger.path),
      ("cap", .str ledger.cap)]).getD .null)]

/-- The event of a bar: the author turn, if one was due, and what each coin's
account did. -/
structure AuthorEvent where
  sequence : ℕ
  previous : String
  turn : Option AuthorTurn
  events : List (String × Json)
  deriving DecidableEq

/-- A row of `bars`. -/
structure AuthorRow where
  sequence : ℕ
  event : AuthorEvent
  checksum : String
  deriving DecidableEq

/-- What a pass keeps of a coin. -/
structure CoinProgress where
  source : ParsedInput
  state : Json
  schedule : List VersionText
  rules : RulebookText
  events : List Json

/-- `_Progress`, with the states and the checksum of the pass. -/
structure JournalProgress where
  coins : List CoinProgress
  previous : String
  turns : List AuthorTurn
  processed : ℕ

def maxDynamicBytes : ℕ := 16000

/-- `_source`. -/
def scheduledSource (formats : InputFormats) (source : ParsedInput)
    (schedule : List VersionText) : ParsedInput :=
  { source with
    payload := source.payload.setField "rulebooks"
      (.arr (schedule.map (VersionText.toDict formats)))
    versions := some schedule }

/-- What the author sees of an account. -/
def accountView (state : Json) : Json :=
  .obj [
    ("cash", state.item "cash"),
    ("quantity", state.item "quantity"),
    ("position", state.item "position"),
    ("halted", state.item "halted")]

/-- The author is asked at this bar. -/
def authorDue (first : ParsedInput) (settings : AuthorSettings) (sequence : ℕ) :
    Bool :=
  decide (first.scoredIndex ≤ sequence) &&
    decide ((sequence - first.scoredIndex) % settings.cadenceBars = 0)

namespace JournalProgress

/-- `progress.current`. -/
def current (progress : JournalProgress) : List (String × RulebookText) :=
  progress.coins.map fun coin => (coin.source.symbol, coin.rules)

def sources (progress : JournalProgress) : List ParsedInput :=
  progress.coins.map (·.source)

end JournalProgress

def CoinProgress.takeTurn (sequence : ℕ) (turn : AuthorTurn)
    (coin : CoinProgress) : CoinProgress :=
  match turn.rulebooks.lookup coin.source.symbol with
  | none => coin
  | some rules =>
      { coin with
        rules := rules
        schedule :=
          if turn.accepted then
            coin.schedule ++
              [{ effectiveFrom :=
                  rowTime (coin.source.candles.map (·.row)) sequence
                 rules := rules }]
          else coin.schedule }

namespace JournalProgress

def takeTurn (progress : JournalProgress) (turn : AuthorTurn) :
    JournalProgress :=
  { progress with
    coins := progress.coins.map (CoinProgress.takeTurn progress.processed turn)
    turns := progress.turns ++ [turn] }

end JournalProgress

section Bars

variable (world : AuthorWorld)

/-- `semantic_checksum(binding)`. -/
def AuthorWorld.bindingChecksum (binding : AuthorBinding) : String :=
  world.installation.checksum binding.toDict

/-- `semantic_checksum(event)`. -/
def AuthorWorld.eventChecksum (event : AuthorEvent) : String :=
  world.installation.checksum (.obj [
    ("sequence", .int event.sequence),
    ("previous", .str event.previous),
    ("turn", (event.turn.map (AuthorTurn.toDict world.formats)).getD .null),
    ("events", .obj event.events)])

/-- `advance`, of a coin by its schedule. -/
def CoinProgress.advance (sequence : ℕ) (coin : CoinProgress) :
    Except AuthorError Json :=
  (world.engine.advance
    (scheduledSource world.formats.toInputFormats coin.source coin.schedule)
    sequence coin.state).mapError .raised

def CoinProgress.observe (sequence : ℕ) (coin : CoinProgress) :
    Except AuthorError (String × Json) :=
  (coin.advance world sequence).map fun event =>
    (coin.source.symbol, accountView (event.item "state"))

/-- The coin after its bar event. -/
def CoinProgress.close (coin : CoinProgress) (event : Json) : CoinProgress :=
  { coin with
    state := event.item "state"
    events := coin.events ++ [event] }

variable (first : ParsedInput) (settings : AuthorSettings)

/-- `{"accounts": accounts, "rulebooks": rulebooks}`. -/
def dynamicContext (accounts : Json) (rules : List (String × RulebookText)) :
    Json :=
  .obj [
    ("accounts", accounts),
    ("rulebooks", rulesText world.formats.toInputFormats rules)]

def turnRequest (progress : JournalProgress) :
    Except AuthorError AuthorRequest :=
  match progress.coins.mapM (CoinProgress.observe world progress.processed) with
  | .error error => .error error
  | .ok accounts =>
      if maxDynamicBytes < (dynamicContext world (.obj accounts)
          progress.current).bytes world.formats.showFloat then
        .error (.valueError "Author dynamic context exceeds offline spend bound")
      else
        .ok (buildAuthorRequest world.formats.toInputFormats first
          progress.sources progress.processed (.obj accounts) progress.current
          settings)

/-- All coins advanced over one bar. -/
def closeBar (progress : JournalProgress) (turn : Option AuthorTurn) :
    Except AuthorError (AuthorEvent × JournalProgress) :=
  (progress.coins.mapM (CoinProgress.advance world progress.processed)).map
    fun events =>
      let event : AuthorEvent :=
        { sequence := progress.processed
          previous := progress.previous
          turn := turn
          events := (progress.coins.zip events).map fun entry =>
            (entry.1.source.symbol, entry.2) }
      (event,
        { coins := List.zipWith CoinProgress.close progress.coins events
          previous := world.eventChecksum event
          turns := progress.turns
          processed := progress.processed + 1 })

def closeTurn (progress : JournalProgress) (turn : AuthorTurn) :
    Except AuthorError (AuthorEvent × JournalProgress) :=
  closeBar world (progress.takeTurn turn) (some turn)

/-- `author_turn`, with what the context of the pass says. -/
def JournalProgress.turn (progress : JournalProgress) (request : AuthorRequest)
    (model : String) (outcome : AuthorOutcome) : Except AuthorError AuthorTurn :=
  authorTurn world.formats world.arithmetic request progress.current
    first.settings.exposureFraction model outcome

def rebuildBar (progress : JournalProgress) (recorded : Option AuthorTurn) :
    Except AuthorError (AuthorEvent × JournalProgress) :=
  if authorDue first settings progress.processed then
    match turnRequest world first settings progress with
    | .error error => .error error
    | .ok request =>
        match recorded with
        | none =>
            .error (.integrity "Author journal lacks a due turn's record")
        | some record =>
            match progress.turn world first request record.model
                (replayDecide record request) with
            | .error error => .error error
            | .ok turn => closeTurn world progress turn
  else closeBar world progress none

def verifyRow (progress : JournalProgress) (row : AuthorRow) :
    Except AuthorError JournalProgress :=
  match rebuildBar world first settings progress row.event.turn with
  | .error error => .error error
  | .ok (event, reached) =>
      if row.event ≠ event ∨ row.checksum ≠ world.eventChecksum event then
        .error (.integrity "Author journal replay differs")
      else .ok reached

def validateChain : String → ℕ → List AuthorRow → Except AuthorError Unit
  | _, _, [] => .ok ()
  | chain, index, row :: rest =>
      if row.sequence ≠ index ∨ row.event.sequence ≠ index ∨
          row.event.previous ≠ chain ∨
          world.eventChecksum row.event ≠ row.checksum then
        .error (.integrity "Author journal replay chain is corrupt")
      else validateChain row.checksum (index + 1) rest

def startCoin (source : ParsedInput) : Except AuthorError CoinProgress :=
  match source.schedule with
  | [] => .error (.raised "IndexError")
  | version :: _ =>
      .ok
        { source := source
          state := world.engine.initialState source
          schedule := source.schedule
          rules := version.rules
          events := [] }

/-- Every coin before the first bar. -/
def startJournal (binding : AuthorBinding) (sources : List ParsedInput) :
    Except AuthorError JournalProgress :=
  (sources.mapM (startCoin world)).map fun coins =>
    { coins := coins
      previous := world.bindingChecksum binding
      turns := []
      processed := 0 }

/-- `_journal` with `write=False`, on the stored rows. -/
def replayJournal (binding : AuthorBinding) (sources : List ParsedInput)
    (stored : List AuthorRow) : Except AuthorError JournalProgress := do
  let started ← startJournal world binding sources
  validateChain world started.previous 0 stored
  replay (verifyRow world first settings) started stored

end Bars

/-- The row a transaction inserts, if it inserts one, and the pass after it. -/
structure BarResult where
  row : Option AuthorRow
  progress : JournalProgress

/-- What a transaction does once its bar is known not to be there: it ends, or it
asks the transport first. -/
inductive BarPlan where
  | ends (outcome : Except AuthorError BarResult)
  | asks (request : AuthorRequest)
      (answer : AuthorOutcome → Except AuthorError BarResult)

namespace BarPlan

/-- What each plan waits for. -/
def Reply : BarPlan → Type
  | ends _ => Except AuthorError Unit
  | asks _ _ => Except AuthorError AuthorOutcome

/-- What the bar's transaction returns. -/
def result : (plan : BarPlan) → plan.Reply → Except AuthorError BarResult
  | ends outcome, .ok () => outcome
  | ends _, .error error => .error error
  | asks _ answer, .ok outcome => answer outcome
  | asks _ _, .error error => .error error

def refusal (error : AuthorError) : (plan : BarPlan) → plan.Reply
  | ends _ => .error error
  | asks _ _ => .error error

end BarPlan

/-- The operations of an author run on its root. -/
inductive JournalOp where
  | databaseExists
  /-- `any(root.iterdir())`. -/
  | directoryHasEntries
  /-- `sqlite3.connect`, which creates the file. -/
  | connect
  /-- The transaction of `_open`, with `immutable=True`. -/
  | openJournal (new : Bool) (binding : AuthorBinding)
  | countBars
  | readBars
  /-- The transaction of a bar; a `fresh` one was not stored when it was read. -/
  | bar (sequence : ℕ) (fresh : Bool) (plan : BarPlan)
  /-- The snapshot that `inspect_author` reads. -/
  | snapshot

/-- What each operation answers. -/
def JournalOp.Reply : JournalOp → Type
  | .databaseExists => Bool
  | .directoryHasEntries => Bool
  | .connect => Unit
  | .openJournal _ _ => Except AuthorError Unit
  | .countBars => ℕ
  | .readBars => List AuthorRow
  | .bar _ _ plan => plan.Reply
  | .snapshot => List AuthorBinding × List AuthorRow

abbrev JournalProgram : Type → Type :=
  Program JournalOp JournalOp.Reply AuthorError

namespace JournalProgram

def databaseExists : JournalProgram Bool :=
  Program.request JournalOp.databaseExists

def directoryHasEntries : JournalProgram Bool :=
  Program.request JournalOp.directoryHasEntries

def connect : JournalProgram Unit :=
  Program.request JournalOp.connect

def openJournal (new : Bool) (binding : AuthorBinding) :
    JournalProgram (Except AuthorError Unit) :=
  Program.request (JournalOp.openJournal new binding)

def countBars : JournalProgram ℕ :=
  Program.request JournalOp.countBars

def readBars : JournalProgram (List AuthorRow) :=
  Program.request JournalOp.readBars

def bar (sequence : ℕ) (fresh : Bool) (plan : BarPlan) :
    JournalProgram plan.Reply :=
  Program.request (JournalOp.bar sequence fresh plan)

def snapshot : JournalProgram (List AuthorBinding × List AuthorRow) :=
  Program.request JournalOp.snapshot

end JournalProgram

/-- An input as a command loads it. -/
structure LoadedInput (formats : InputFormats) where
  input : ParsedInput
  loaded : ∃ payload, parseInput formats payload = .ok input

/-- The transport a run is given. -/
structure AuthorTransport where
  model : String
  ledger : Option LedgerBinding

/-- The arguments of `run_author`. -/
structure AuthorArguments (formats : InputFormats) where
  sources : List (LoadedInput formats)
  manager : ManagerSettings
  transport : Option AuthorTransport
  settings : AuthorSettings
  maxBars : Option ℕ

section Runs

variable (world : AuthorWorld)

/-- The settings a journal is bound to. -/
def runBinding (sources : List ParsedInput) (manager : ManagerSettings)
    (settings : AuthorSettings) (ledger : Option LedgerBinding) :
    AuthorBinding :=
  { schema := "author-run/1"
    engine := inputEngineVersion
    implementation := world.installation.implementationDigest
    sources := sources.map fun source => source.identity world.installation
    inputs := sources.map (·.payload)
    manager := manager
    settings := settings
    ledger := ledger }

/-- `_open`. -/
def openRun (binding : AuthorBinding) : JournalProgram Unit := do
  let found ← JournalProgram.databaseExists
  if found then do
    JournalProgram.connect
    let opened ← JournalProgram.openJournal false binding
    Program.lift opened
  else do
    let entries ← JournalProgram.directoryHasEntries
    if entries then
      Program.raise (.valueError "New author run requires an empty directory")
    else do
      JournalProgram.connect
      let opened ← JournalProgram.openJournal true binding
      Program.lift opened

def BarResult.insert (closed : AuthorEvent × JournalProgress) : BarResult :=
  { row := some
      { sequence := closed.1.sequence
        event := closed.1
        checksum := world.eventChecksum closed.1 }
    progress := closed.2 }

section Bars

variable (first : ParsedInput) (settings : AuthorSettings)
variable (transport : Option AuthorTransport)

/-- The plan of a bar that has no row. -/
def freshPlan (progress : JournalProgress) : BarPlan :=
  if authorDue first settings progress.processed then
    match turnRequest world first settings progress with
    | .error error => .ends (.error error)
    | .ok request =>
        match transport with
        | none =>
            .ends (.error (.transportUnavailable
              "Author turn requires an explicitly injected transport"))
        | some transport =>
            .asks request fun outcome =>
              match progress.turn world first request transport.model outcome with
              | .error error => .error error
              | .ok turn =>
                  (closeTurn world progress turn).map (BarResult.insert world)
  else .ends ((closeBar world progress none).map (BarResult.insert world))

def barPlan (progress : JournalProgress) : Option AuthorRow → BarPlan
  | some row =>
      .ends ((verifyRow world first settings progress row).map fun reached =>
        { row := none, progress := reached })
  | none => freshPlan world first settings transport progress

/-- Bar after bar, stored rows first. -/
def advanceBars (stored : List AuthorRow) :
    ℕ → JournalProgress → JournalProgram JournalProgress
  | 0, progress => pure progress
  | count + 1, progress => do
      let saved := stored[progress.processed]?
      let plan := barPlan world first settings transport progress saved
      let reply ← JournalProgram.bar progress.processed saved.isNone plan
      match plan.result reply with
      | .error error => Program.raise error
      | .ok result => advanceBars stored count result.progress

/-- `_journal` with `write=True`. -/
def writeJournal (binding : AuthorBinding) (sources : List ParsedInput)
    (limit : ℕ) : JournalProgram JournalProgress := do
  let started ← Program.lift (startJournal world binding sources)
  let stored ← JournalProgram.readBars
  Program.lift (validateChain world started.previous 0 stored)
  if limit < stored.length then
    Program.raise (.integrity "Author journal has extra bars")
  else advanceBars world first settings transport stored limit started

end Bars

/-- The replay of `inspect_author`. -/
def inspectAuthor (metadata : List AuthorBinding) (stored : List AuthorRow) :
    Except AuthorError JournalProgress :=
  match metadata with
  | [saved] =>
      if saved.schema ≠ "author-run/1" then
        .error (.valueError
          "Only a full author run can be inspected; a smoke is not evidence")
      else
        match saved.inputs.mapM (parseInput world.formats.toInputFormats) with
        | .error error => .error (.valueError error.message)
        | .ok [] => .error (.raised "IndexError")
        | .ok (first :: rest) =>
            if runBinding world (first :: rest) saved.manager saved.settings
                saved.ledger ≠ saved then
              .error (.integrity "Experiment metadata binding failed")
            else
              replayJournal world first saved.settings saved (first :: rest)
                stored
  | _ => .error (.integrity "Author journal metadata missing")

/-- `max_bars is not None and max_bars < 1`, the model of the transport, and
`validate_portfolio`. -/
def checkArguments (arguments : AuthorArguments world.formats.toInputFormats) :
    Except AuthorError Unit := do
  (validateAuthorPortfolio (arguments.sources.map (·.input))).mapError .valueError
  if arguments.maxBars = some 0 then
    throw (.valueError "max_bars must be a positive integer")
  if arguments.transport.any fun transport =>
      decide (transport.model ≠ arguments.manager.model) then
    throw (.valueError "Transport model differs from author settings")

namespace AuthorArguments

variable {world} (arguments : AuthorArguments world.formats.toInputFormats)

def sorted : List ParsedInput :=
  sortedSources (arguments.sources.map (·.input))

def binding : AuthorBinding :=
  runBinding world arguments.sorted arguments.manager arguments.settings
    (arguments.transport.bind (·.ledger))

end AuthorArguments

/-- The run of one process. -/
def runAuthor (arguments : AuthorArguments world.formats.toInputFormats) :
    JournalProgram JournalProgress := do
  Program.lift (checkArguments world arguments)
  match arguments.sorted with
  | [] => Program.raise (.raised "IndexError")
  | first :: rest => do
      openRun arguments.binding
      let done ← JournalProgram.countBars
      let total := first.candles.length
      let limit :=
        match arguments.maxBars with
        | none => total
        | some count => min total (done + count)
      let _ ← writeJournal world first arguments.settings arguments.transport
        arguments.binding (first :: rest) limit
      let (metadata, stored) ← JournalProgram.snapshot
      Program.lift (inspectAuthor world metadata stored)

end Runs

/-- What happened to the bars of a journal. -/
inductive JournalEvent where
  /-- A turn was sent to a transport. -/
  | sent (sequence : ℕ) (request : AuthorRequest)
  | committed (sequence : ℕ)

/-- The root of author runs, and what happened to its bars so far. -/
structure AuthorStore where
  created : Bool
  /-- Entries beside the database. -/
  occupied : Bool
  immutable : Bool
  metadata : List AuthorBinding
  bars : List AuthorRow
  log : List JournalEvent

namespace AuthorStore

def fresh (occupied : Bool) : AuthorStore :=
  { created := false
    occupied := occupied
    immutable := false
    metadata := []
    bars := []
    log := [] }

variable (store : AuthorStore)

/-- `SELECT 1 FROM bars WHERE sequence=?`. -/
def hasBar (sequence : ℕ) : Bool :=
  store.bars.any fun row => decide (row.sequence = sequence)

/-- `SELECT ... FROM bars ORDER BY sequence`. -/
def ordered : List AuthorRow :=
  store.bars.insertionSort fun left right => left.sequence ≤ right.sequence

/-- The transaction of `_open`.  Triggers are created once, by a process that did
not find the database. -/
def openJournal (new : Bool) (binding : AuthorBinding) :
    Except AuthorError Unit × AuthorStore :=
  if new && store.immutable then
    (.error (.raised "OperationalError: trigger already exists"), store)
  else
    match store.metadata with
    | [] =>
        if new then
          (.ok (), { store with immutable := true, metadata := [binding] })
        else (.error (.integrity "Author journal metadata missing"), store)
    | [saved] =>
        if saved = binding then
          (.ok (), { store with immutable := store.immutable || new })
        else
          (.error (.integrity
            "Author input/settings/source/ledger binding changed"), store)
    | _ =>
        (.error (.integrity
          "Author input/settings/source/ledger binding changed"), store)

def send (sequence : ℕ) (request : AuthorRequest) : AuthorStore :=
  { store with log := store.log ++ [.sent sequence request] }

def commit : Except AuthorError BarResult → AuthorStore
  | .ok { row := some row, .. } =>
      { store with
        bars := store.bars ++ [row]
        log := store.log ++ [.committed row.sequence] }
  | _ => store

end AuthorStore

/-- What an operation may reply, and what it leaves.  The transaction of a bar
holds the write lock from its check to its commit; it may fail, before or after
it sent its turn, and is then rolled back. -/
inductive JournalServes :
    AuthorStore → (op : JournalOp) → op.Reply → AuthorStore → Prop where
  | databaseExists {store : AuthorStore} :
      JournalServes store .databaseExists store.created store
  | directoryHasEntries {store : AuthorStore} :
      JournalServes store .directoryHasEntries (store.occupied || store.created)
        store
  | connect {store : AuthorStore} :
      JournalServes store .connect () { store with created := true }
  | openJournal {store : AuthorStore} {new : Bool} {binding : AuthorBinding} :
      JournalServes store (.openJournal new binding)
        (store.openJournal new binding).1 (store.openJournal new binding).2
  | openFails {store : AuthorStore} {new : Bool} {binding : AuthorBinding}
      {error : AuthorError} :
      JournalServes store (.openJournal new binding) (.error error) store
  | countBars {store : AuthorStore} :
      JournalServes store .countBars store.bars.length store
  | readBars {store : AuthorStore} :
      JournalServes store .readBars store.ordered store
  | concurrent {store : AuthorStore} {sequence : ℕ} {plan : BarPlan}
      (present : store.hasBar sequence = true) :
      JournalServes store (.bar sequence true plan)
        (plan.refusal (.integrity "Author journal advanced concurrently")) store
  | fails {store : AuthorStore} {sequence : ℕ} {fresh : Bool} {plan : BarPlan}
      {error : AuthorError} :
      JournalServes store (.bar sequence fresh plan) (plan.refusal error) store
  | ended {store : AuthorStore} {sequence : ℕ} {fresh : Bool}
      {outcome : Except AuthorError BarResult}
      (absent : fresh = true → store.hasBar sequence = false) :
      JournalServes store (.bar sequence fresh (.ends outcome)) (.ok ())
        (store.commit outcome)
  | asked {store : AuthorStore} {sequence : ℕ} {fresh : Bool}
      {request : AuthorRequest} {outcome : AuthorOutcome}
      {answer : AuthorOutcome → Except AuthorError BarResult}
      (absent : fresh = true → store.hasBar sequence = false) :
      JournalServes store (.bar sequence fresh (.asks request answer))
        (.ok outcome) ((store.send sequence request).commit (answer outcome))
  | failsAfterSending {store : AuthorStore} {sequence : ℕ} {fresh : Bool}
      {request : AuthorRequest} {error : AuthorError}
      {answer : AuthorOutcome → Except AuthorError BarResult}
      (absent : fresh = true → store.hasBar sequence = false) :
      JournalServes store (.bar sequence fresh (.asks request answer))
        (.error error) (store.send sequence request)
  | snapshot {store : AuthorStore} :
      JournalServes store .snapshot (store.metadata, store.ordered) store

end GptTrader
