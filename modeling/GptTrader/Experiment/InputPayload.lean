import GptTrader.Experiment.RulebookSchedules

/-!
# Payloads of inputs

`parse_input` (`features/experiment/inputs.py`): the checks of a payload, and the
normalized payload an experiment stores.
-/

namespace GptTrader

/-- `Settings`, with their decimals as they are spelled. -/
structure SettingsText where
  initialCash : SpelledDecimal
  riskFraction : SpelledDecimal
  exposureFraction : SpelledDecimal
  drawdownFraction : SpelledDecimal
  feeBps : SpelledDecimal
  slippageBps : SpelledDecimal
  quantityIncrement : SpelledDecimal
  funded : 0 < initialCash.value ∧ 0 < quantityIncrement.value
  risk : 0 < riskFraction.value ∧ riskFraction.value ≤ 1
  exposure : 0 < exposureFraction.value ∧ exposureFraction.value ≤ 1
  drawdown : 0 < drawdownFraction.value ∧ drawdownFraction.value ≤ 1
  fee : 0 ≤ feeBps.value
  slippage : 0 ≤ slippageBps.value
  costs : feeBps.value < 10000 ∧ slippageBps.value < 10000

namespace SettingsText

variable (text : SettingsText)

def toDict (formats : InputFormats) : Json :=
  .obj [
    ("initial_cash", .str (formats.showDecimal text.initialCash)),
    ("risk_fraction", .str (formats.showDecimal text.riskFraction)),
    ("exposure_fraction", .str (formats.showDecimal text.exposureFraction)),
    ("drawdown_fraction", .str (formats.showDecimal text.drawdownFraction)),
    ("fee_bps", .str (formats.showDecimal text.feeBps)),
    ("slippage_bps", .str (formats.showDecimal text.slippageBps)),
    ("quantity_increment", .str (formats.showDecimal text.quantityIncrement))]

end SettingsText

/-- The fields of `Settings`. -/
def settingsFields : List String :=
  ["initial_cash", "risk_fraction", "exposure_fraction", "drawdown_fraction",
    "fee_bps", "slippage_bps", "quantity_increment"]

section Settings

variable (formats : InputFormats)

/-- A setting, or its default. -/
def settingValue (raw : Json) (name : String) (default : SpelledDecimal) :
    Except InputError SpelledDecimal :=
  match raw.field? name with
  | none => .ok default
  | some value => (formats.decimalValue false value).map Subtype.val

/-- `Settings(**{key: decimal_value(value) ...})`. -/
def parseSettings (raw : Json) : Except InputError SettingsText := do
  let _ ← checked (raw.keysWithin settingsFields = true)
    "Unknown experiment settings"
  let initialCash ← settingValue formats raw "initial_cash" ⟨false, 1000, 0⟩
  let riskFraction ← settingValue formats raw "risk_fraction" ⟨false, 1, -2⟩
  let exposureFraction ←
    settingValue formats raw "exposure_fraction" ⟨false, 20, -2⟩
  let drawdownFraction ←
    settingValue formats raw "drawdown_fraction" ⟨false, 10, -2⟩
  let feeBps ← settingValue formats raw "fee_bps" ⟨false, 10, 0⟩
  let slippageBps ← settingValue formats raw "slippage_bps" ⟨false, 5, 0⟩
  let quantityIncrement ←
    settingValue formats raw "quantity_increment" ⟨false, 1, -8⟩
  let _ ← checked (0 ≤ initialCash.value)
    "Invalid experiment setting: initial_cash"
  let _ ← checked (0 ≤ riskFraction.value)
    "Invalid experiment setting: risk_fraction"
  let _ ← checked (0 ≤ exposureFraction.value)
    "Invalid experiment setting: exposure_fraction"
  let _ ← checked (0 ≤ drawdownFraction.value)
    "Invalid experiment setting: drawdown_fraction"
  let ⟨fee⟩ ← checked (0 ≤ feeBps.value) "Invalid experiment setting: fee_bps"
  let ⟨slippage⟩ ← checked (0 ≤ slippageBps.value)
    "Invalid experiment setting: slippage_bps"
  let _ ← checked (0 ≤ quantityIncrement.value)
    "Invalid experiment setting: quantity_increment"
  let ⟨risk⟩ ← checked (0 < riskFraction.value ∧ riskFraction.value ≤ 1)
    "risk_fraction must be in (0, 1]"
  let ⟨exposure⟩ ← checked
    (0 < exposureFraction.value ∧ exposureFraction.value ≤ 1)
    "exposure_fraction must be in (0, 1]"
  let ⟨drawdown⟩ ← checked
    (0 < drawdownFraction.value ∧ drawdownFraction.value ≤ 1)
    "drawdown_fraction must be in (0, 1]"
  let ⟨funded⟩ ← checked (0 < initialCash.value ∧ 0 < quantityIncrement.value)
    "Initial cash and quantity increment must be positive"
  let ⟨costs⟩ ← checked (feeBps.value < 10000 ∧ slippageBps.value < 10000)
    "Costs must be below 10000 basis points"
  .ok
    { initialCash := initialCash
      riskFraction := riskFraction
      exposureFraction := exposureFraction
      drawdownFraction := drawdownFraction
      feeBps := feeBps
      slippageBps := slippageBps
      quantityIncrement := quantityIncrement
      funded := funded
      risk := risk
      exposure := exposure
      drawdown := drawdown
      fee := fee
      slippage := slippage
      costs := costs }

theorem settingValue_of {formats : InputFormats} {raw : Json} {name : String}
    {default : SpelledDecimal} (number : SpelledDecimal)
    (held : raw.field? name = some (.str (formats.showDecimal number))) :
    settingValue formats raw name default = .ok number := by
  unfold settingValue
  rw [held]
  dsimp only
  rw [@InputFormats.decimalValue_show formats false ⟨number, nofun⟩]
  rfl

theorem parseSettings_toDict (text : SettingsText) :
    parseSettings formats (text.toDict formats) = .ok text := by
  unfold parseSettings
  rw [checked_of (by rfl), settingValue_of text.initialCash rfl,
    settingValue_of text.riskFraction rfl,
    settingValue_of text.exposureFraction rfl,
    settingValue_of text.drawdownFraction rfl,
    settingValue_of text.feeBps rfl,
    settingValue_of text.slippageBps rfl,
    settingValue_of text.quantityIncrement rfl]
  dsimp only [bind, Except.bind]
  rw [checked_of text.funded.1.le, checked_of text.risk.1.le,
    checked_of text.exposure.1.le, checked_of text.drawdown.1.le,
    checked_of text.fee, checked_of text.slippage,
    checked_of text.funded.2.le, checked_of text.risk,
    checked_of text.exposure, checked_of text.drawdown,
    checked_of text.funded, checked_of text.costs]

end Settings

def defaultRulebook : String :=
  "Starting rulebook; rewrite it whenever you learn something. Every round trip " ++
  "pays the fee and slippage in the context twice, so trade rarely and only when " ++
  "the expected move clearly exceeds that cost. Staying out and holding are " ++
  "normal choices. Exit when the reason you entered no longer holds."

/-- The fields of `ManagerSettings`. -/
def managerFields : List String :=
  ["rulebook", "cadence_bars", "history_bars", "model", "effort", "max_tokens"]

/-- `ManagerSettings.to_dict`. -/
def ManagerSettings.toDict (manager : ManagerSettings) : Json :=
  .obj [
    ("rulebook", .str manager.rulebook),
    ("cadence_bars", .int manager.cadenceBars),
    ("history_bars", .int manager.historyBars),
    ("model", .str manager.model),
    ("effort", .str manager.effort),
    ("max_tokens", .int manager.maxTokens)]

section Manager

def managerText (raw : Json) (name default : String) (allowed : String → Prop)
    [DecidablePred allowed] (message : String) :
    Except InputError { text : String // allowed text } :=
  match (raw.field? name).getD (.str default) with
  | .str text =>
      if holds : allowed text then .ok ⟨text, holds⟩
      else .error (.valueError message)
  | _ => .error (.valueError message)

def managerInt (raw : Json) (name : String) (default upper : ℕ) :
    Except InputError { value : ℕ // 1 ≤ value ∧ value ≤ upper } :=
  match (raw.field? name).getD (.int default) with
  | .int (.ofNat value) =>
      if within : 1 ≤ value ∧ value ≤ upper then .ok ⟨value, within⟩
      else .error (.valueError ("Manager " ++ name ++
        " must be an integer from 1 to " ++ toString upper))
  | _ => .error (.valueError ("Manager " ++ name ++
      " must be an integer from 1 to " ++ toString upper))

/-- `ManagerSettings(**raw_manager)`. -/
def parseManager (raw : Json) : Except InputError ManagerSettings := do
  let _ ← checked (raw.keysWithin managerFields = true)
    "Unknown manager settings"
  let ⟨rulebook, written⟩ ← managerText raw "rulebook" defaultRulebook
    (fun text => 0 < text.length ∧ text.length ≤ maxRulebookChars)
    "Manager rulebook must be 1 to 4000 characters"
  let ⟨model, named⟩ ← managerText raw "model" "claude-fable-5-1"
    (fun text => text ≠ "") "Manager model must be a model id"
  let ⟨effort, ranked⟩ ← managerText raw "effort" "high"
    (fun text => text ∈ managerEfforts)
    "Manager effort must be one of low, medium, high, xhigh, max"
  let ⟨cadenceBars, cadence⟩ ← managerInt raw "cadence_bars" 4 168
  let ⟨historyBars, history⟩ ← managerInt raw "history_bars" 48 500
  let ⟨maxTokens, output⟩ ←
    managerInt raw "max_tokens" 8000 maxManagerOutputTokens
  .ok
    { rulebook := rulebook
      cadenceBars := cadenceBars
      historyBars := historyBars
      model := model
      effort := effort
      maxTokens := maxTokens
      written := written
      named := named
      ranked := ranked
      cadence := cadence
      history := history
      output := output }

theorem managerText_of {raw : Json} {name default message : String}
    {allowed : String → Prop} [DecidablePred allowed] (text : String)
    (held : raw.field? name = some (.str text)) (holds : allowed text) :
    managerText raw name default allowed message = .ok ⟨text, holds⟩ := by
  unfold managerText
  rw [held]
  exact dif_pos holds

theorem managerInt_of {raw : Json} {name : String} {default upper value : ℕ}
    (held : raw.field? name = some (.int value))
    (within : 1 ≤ value ∧ value ≤ upper) :
    managerInt raw name default upper = .ok ⟨value, within⟩ := by
  unfold managerInt
  rw [held]
  exact dif_pos within

theorem parseManager_toDict (manager : ManagerSettings) :
    parseManager manager.toDict = .ok manager := by
  unfold parseManager
  rw [checked_of (by rfl), managerText_of manager.rulebook rfl manager.written,
    managerText_of manager.model rfl manager.named,
    managerText_of manager.effort rfl manager.ranked,
    managerInt_of rfl manager.cadence, managerInt_of rfl manager.history,
    managerInt_of rfl manager.output]
  rfl

end Manager

/-- The fields a payload must have. -/
def requiredFields : List String :=
  ["schema_version", "source", "symbol", "recorded_at", "candles"]

def optionalFields : List String :=
  ["settings", "benchmark", "scored_from", "manager", "rulebooks"]

/-- What `parse_input` returns: the normalized payload, and what it says. -/
structure ParsedInput where
  payload : Json
  candles : List CandleText
  settings : SettingsText
  benchmark : Benchmark
  scoredIndex : ℕ
  manager : Option ManagerSettings
  versions : Option (List VersionText)

/-- `isinstance(value, str) and value.strip()`. -/
def isLabel : Json → Bool
  | .str text => !isBlank text
  | _ => false

/-- A product quoted in dollars. -/
def isSymbol : Json → Bool
  | .str text => isUsdSymbol text
  | _ => false

/-- `benchmark in BENCHMARKS`. -/
def parseBenchmark : Json → Except InputError Benchmark
  | .str "baseline" => .ok .baseline
  | .str "mean-reversion" => .ok .meanReversion
  | .str "ai-trade-manager" => .ok .aiTradeManager
  | .str "ai-rulebook" => .ok .aiRulebook
  | _ => .error (.valueError ("Unknown benchmark; choose one of baseline, " ++
      "mean-reversion, ai-trade-manager, ai-rulebook"))

/-- `rows[index]["ts"]`. -/
def rowTime (rows : List Json) (index : ℕ) : Json :=
  ((rows[index]?).map fun row => row.item "ts").getD .null

section Parsing

variable (formats : InputFormats)

/-- `payload["candles"]`, from one to 2000 rows. -/
def inputRows (payload : Json) : Except InputError (List Json) :=
  match payload.item "candles" with
  | .arr rows =>
      if 1 ≤ rows.length ∧ rows.length ≤ 2000 then .ok rows
      else .error (.valueError "Supply between 1 and 2000 hourly bars")
  | _ => .error (.valueError "Supply between 1 and 2000 hourly bars")

def inputManager (payload : Json) (benchmark : Benchmark) :
    Except InputError (Option ManagerSettings) :=
  if benchmark = .aiTradeManager then
    (parseManager ((payload.field? "manager").getD (.obj []))).map some
  else if payload.hasKey "manager" then
    .error (.valueError
      "Manager settings apply only to the ai-trade-manager channel")
  else .ok none

def inputScoredIndex (payload : Json) (candles : List CandleText) :
    Except InputError ℕ :=
  match payload.field? "scored_from" with
  | none => .ok 0
  | some value => do
      let scoredFrom ← awareTime formats value
      match candles.findIdx? fun candle =>
          decide (candle.ts.instant = scoredFrom.instant) with
      | none => .error (.valueError
          "scored_from must be the start time of a supplied bar")
      | some index => .ok index

def inputVersions (payload : Json) (benchmark : Benchmark) (rows : List Json)
    (candles : List CandleText) (scoredIndex : ℕ) (cap : SpelledDecimal) :
    Except InputError (Option (List VersionText)) :=
  if benchmark = .aiRulebook then
    (parseVersions formats
      ((payload.field? "rulebooks").getD (.arr [.obj [
        ("effective_from", rowTime rows scoredIndex),
        ("rules", startingRulebook)]]))
      candles scoredIndex cap).map some
  else if payload.hasKey "rulebooks" then
    .error (.valueError "Rulebooks apply only to the ai-rulebook channel")
  else .ok none

/-- `payload[name] = value`, of a value that is there. -/
def Json.setSome (payload : Json) (name : String) : Option Json → Json
  | none => payload
  | some value => payload.setField name value

def normalizedPayload (payload : Json) (settings : SettingsText)
    (benchmark : Benchmark) (scoredFrom : Json) (manager : Option ManagerSettings)
    (versions : Option (List VersionText)) : Json :=
  ((((payload.setField "settings" (settings.toDict formats)).setField
      "benchmark" (.str benchmark.value)).setField
      "scored_from" scoredFrom).setSome
      "manager" (manager.map ManagerSettings.toDict)).setSome
      "rulebooks" (versions.map fun versions =>
        .arr (versions.map (VersionText.toDict formats)))

def parseInput (payload : Json) : Except InputError ParsedInput := do
  let _ ← checked
    (payload.keysWithin (requiredFields ++ optionalFields) = true ∧
      payload.keysCover requiredFields = true)
    "Experiment requires schema_version, source, symbol, recorded_at, candles"
  let _ ← checked ((payload.item "schema_version").same (.int 1) = true)
    "Unsupported experiment input version"
  let _ ← checked (isLabel (payload.item "source") = true)
    "Recorded data requires a source label"
  let _ ← checked (isSymbol (payload.item "symbol") = true)
    "Experiment supports one USD spot symbol"
  let recordedAt ← awareTime formats (payload.item "recorded_at")
  let settings ← parseSettings formats
    ((payload.field? "settings").getD (.obj []))
  let rows ← inputRows payload
  let candles ← parseRows formats recordedAt none rows
  let _ ← checked (∀ last ∈ candles.getLast?,
      recordedAt.instant - (last.ts.instant + hour) < hour)
    "Last bar is stale at recorded_at"
  let benchmark ← parseBenchmark
    ((payload.field? "benchmark").getD (.str "baseline"))
  let manager ← inputManager payload benchmark
  let scoredIndex ← inputScoredIndex formats payload candles
  let versions ← inputVersions formats payload benchmark rows candles
    scoredIndex settings.exposureFraction
  .ok
    { payload := normalizedPayload formats payload settings benchmark
        (rowTime rows scoredIndex) manager versions
      candles := candles
      settings := settings
      benchmark := benchmark
      scoredIndex := scoredIndex
      manager := manager
      versions := versions }

end Parsing

section Accepted

variable {formats : InputFormats} {payload : Json} {input : ParsedInput}

/-- What an accepted payload establishes. -/
structure ReadsInput (formats : InputFormats) (payload : Json)
    (input : ParsedInput) (recordedAt : AwareTime) (rows : List Json) : Prop where
  fields : payload.keysWithin (requiredFields ++ optionalFields) = true ∧
    payload.keysCover requiredFields = true
  schema : (payload.item "schema_version").same (.int 1) = true
  labelled : isLabel (payload.item "source") = true
  traded : isSymbol (payload.item "symbol") = true
  recorded : awareTime formats (payload.item "recorded_at") = .ok recordedAt
  settings : parseSettings formats ((payload.field? "settings").getD (.obj [])) =
    .ok input.settings
  listed : inputRows payload = .ok rows
  candles : parseRows formats recordedAt none rows = .ok input.candles
  fresh : ∀ last ∈ input.candles.getLast?,
    recordedAt.instant - (last.ts.instant + hour) < hour
  benchmark : parseBenchmark
    ((payload.field? "benchmark").getD (.str "baseline")) = .ok input.benchmark
  manager : inputManager payload input.benchmark = .ok input.manager
  scored : inputScoredIndex formats payload input.candles = .ok input.scoredIndex
  versions : inputVersions formats payload input.benchmark rows input.candles
    input.scoredIndex input.settings.exposureFraction = .ok input.versions
  stored : input.payload = normalizedPayload formats payload input.settings
    input.benchmark (rowTime rows input.scoredIndex) input.manager input.versions

/-- What an input that parses has been read from. -/
theorem parseInput_eq_ok (parsed : parseInput formats payload = .ok input) :
    ∃ recordedAt rows, ReadsInput formats payload input recordedAt rows := by
  unfold parseInput at parsed
  obtain ⟨⟨fields⟩, _, parsed⟩ := Outcome.bind_eq_ok.mp parsed
  obtain ⟨⟨schema⟩, _, parsed⟩ := Outcome.bind_eq_ok.mp parsed
  obtain ⟨⟨labelled⟩, _, parsed⟩ := Outcome.bind_eq_ok.mp parsed
  obtain ⟨⟨traded⟩, _, parsed⟩ := Outcome.bind_eq_ok.mp parsed
  obtain ⟨recordedAt, recorded, parsed⟩ := Outcome.bind_eq_ok.mp parsed
  obtain ⟨settings, settings_eq, parsed⟩ := Outcome.bind_eq_ok.mp parsed
  obtain ⟨rows, rows_eq, parsed⟩ := Outcome.bind_eq_ok.mp parsed
  obtain ⟨candles, candles_eq, parsed⟩ := Outcome.bind_eq_ok.mp parsed
  obtain ⟨⟨fresh⟩, _, parsed⟩ := Outcome.bind_eq_ok.mp parsed
  obtain ⟨benchmark, benchmark_eq, parsed⟩ := Outcome.bind_eq_ok.mp parsed
  obtain ⟨manager, manager_eq, parsed⟩ := Outcome.bind_eq_ok.mp parsed
  obtain ⟨scoredIndex, scored, parsed⟩ := Outcome.bind_eq_ok.mp parsed
  obtain ⟨versions, versions_eq, parsed⟩ := Outcome.bind_eq_ok.mp parsed
  cases parsed
  exact ⟨recordedAt, rows,
    { fields := fields
      schema := schema
      labelled := labelled
      traded := traded
      recorded := recorded
      settings := settings_eq
      listed := rows_eq
      candles := candles_eq
      fresh := fresh
      benchmark := benchmark_eq
      manager := manager_eq
      scored := scored
      versions := versions_eq
      stored := rfl }⟩

theorem ReadsInput.parseInput {recordedAt : AwareTime} {rows : List Json}
    (reads : ReadsInput formats payload input recordedAt rows) :
    parseInput formats payload = .ok input := by
  unfold GptTrader.parseInput
  rw [checked_of reads.fields, checked_of reads.schema,
    checked_of reads.labelled, checked_of reads.traded, reads.recorded,
    reads.settings, reads.listed]
  dsimp only [bind, Except.bind]
  rw [reads.candles]
  dsimp only
  rw [checked_of reads.fresh, reads.benchmark]
  dsimp only
  rw [reads.manager, reads.scored]
  dsimp only
  rw [reads.versions]
  dsimp only
  rw [← reads.stored]

end Accepted

end GptTrader
