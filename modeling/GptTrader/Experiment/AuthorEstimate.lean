import GptTrader.Experiment.AuthorInterleavings
import GptTrader.Python.DecimalRounding

/-!
# The offline estimate of author spend

`estimate_author_spend` (`features/experiment/rulebook_author.py`) prices the turn
of every due bar with the header of the first source as given, a text as long as
the byte cap for the accounts, and no rulebooks.  A run sorts its sources, so its
header is that of the first source by symbol.
-/

namespace GptTrader

/-- `range(start, stop, step)`. -/
def stepRange (start stop step : ℕ) : List ℕ :=
  (List.range ((stop - start + step - 1) / step)).map fun turn =>
    start + turn * step

def authorBars (first : ParsedInput) (settings : AuthorSettings) : List ℕ :=
  stepRange first.scoredIndex first.candles.length settings.cadenceBars

/-- The rulebook each coin starts with. -/
def startingRules (sources : List ParsedInput) : List (String × RulebookText) :=
  sources.filterMap fun source =>
    source.schedule.head?.map fun version => (source.symbol, version.rules)

def AuthorFormats.wired (formats : AuthorFormats) (wire : WireFormats) :
    WireFormats :=
  { wire with encode := Json.encode formats.showFloat }

/-- What the estimate says of a turn. -/
structure TurnEstimate where
  sequence : ℕ
  contextBytes : ℕ
  tokenBound : ℕ
  worstCaseUsd : ℚ

/-- What `estimate_author_spend` returns. -/
structure AuthorEstimate where
  kind : String
  symbols : List String
  costCases : ℕ
  turns : ℕ
  cadenceBars : ℕ
  historyDays : ℕ
  model : String
  effort : String
  maxTokens : ℕ
  dynamicBytesCap : ℕ
  contextBytesMax : ℕ
  inputTokenBoundMax : ℕ
  worstCaseUsd : ℚ
  includesRetries : Bool
  realTokensMeasured : Bool

section Estimates

variable (formats : AuthorFormats) (arithmetic : DecimalContext)
variable (wire : WireFormats)

def authorParams (symbols : List String) (manager : ManagerSettings)
    (instructions : String) (context : Json) : WireParams :=
  wireParams (formats.wired wire) instructions context manager
    (some (authorReplySchema symbols))

def estimatedContext (first : ParsedInput) (sources : List ParsedInput)
    (settings : AuthorSettings) (sequence : ℕ) : Json :=
  let rules := startingRules sources
  (((buildAuthorRequest formats.toInputFormats first sources sequence (.obj [])
      rules settings).context.setField
    "accounts" (.str (String.ofList (List.replicate maxDynamicBytes 'X')))).setField
    "rulebooks" (.obj [])).setField
    "next_versions" (.obj (rules.map fun entry => (entry.1, .int 10000)))

/-- The bound on one turn. -/
def estimateTurn (first : ParsedInput) (sources : List ParsedInput)
    (manager : ManagerSettings) (settings : AuthorSettings) (sequence : ℕ) :
    Except TransportStop TurnEstimate :=
  let context := estimatedContext formats first sources settings sequence
  let params := authorParams formats wire ((startingRules sources).map Prod.fst)
    manager authorInstructions context
  (worstCaseUsd arithmetic (formats.wired wire) params).map fun cost =>
    { sequence := sequence
      contextBytes := context.bytes formats.showFloat
      tokenBound := inputTokenBound (formats.wired wire) params
      worstCaseUsd := cost }

/-- The bounds on all turns. -/
def estimateTurns (first : ParsedInput) (sources : List ParsedInput)
    (manager : ManagerSettings) (settings : AuthorSettings) :
    Except TransportStop (List TurnEstimate) :=
  (authorBars first settings).mapM
    (estimateTurn formats arithmetic wire first sources manager settings)

def reportEstimate (sources : List ParsedInput) (manager : ManagerSettings)
    (settings : AuthorSettings) (turns : List TurnEstimate) : AuthorEstimate :=
  { kind := "offline-rulebook-author-bound"
    symbols := ((startingRules sources).map Prod.fst).insertionSort (· ≤ ·)
    costCases := 1
    turns := turns.length
    cadenceBars := settings.cadenceBars
    historyDays := settings.historyDays
    model := manager.model
    effort := manager.effort
    maxTokens := manager.maxTokens
    dynamicBytesCap := maxDynamicBytes
    contextBytesMax := (turns.map (·.contextBytes)).foldl max 0
    inputTokenBoundMax := (turns.map (·.tokenBound)).foldl max 0
    worstCaseUsd := arithmetic.sum (turns.map (·.worstCaseUsd))
    includesRetries := false
    realTokensMeasured := false }

/-- Why there is no estimate. -/
inductive EstimateError where
  | valueError (message : String)
  | stopped (stop : TransportStop)

/-- The estimate of a whole run. -/
def estimateAuthorSpend (sources : List ParsedInput) (manager : ManagerSettings)
    (settings : AuthorSettings) : Except EstimateError AuthorEstimate :=
  match validateAuthorPortfolio sources, sources with
  | .error message, _ => .error (.valueError message)
  | .ok (), [] => .error (.valueError "max() iterable argument is empty")
  | .ok (), first :: rest =>
      match estimateTurns formats arithmetic wire first (first :: rest) manager
          settings with
      | .error stop => .error (.stopped stop)
      | .ok [] => .error (.valueError "max() iterable argument is empty")
      | .ok (turn :: turns) =>
          .ok (reportEstimate arithmetic (first :: rest) manager settings
            (turn :: turns))

end Estimates

end GptTrader
