import GptTrader.Experiment.InputPayload
import GptTrader.Python.JsonText
import GptTrader.Python.TableFormats

/-!
# Stored inputs

The normalized payload of an accepted input is accepted again, as the same input:
`read_source` (`features/experiment/ledger.py`) reopens what `parse_input` stored.
-/

namespace GptTrader

namespace Json

theorem field?_setSome {payload : Json} (object : payload.isObject = true)
    (name other : String) (value : Option Json) :
    (payload.setSome name value).field? other =
      if other = name then value.or (payload.field? other)
      else payload.field? other := by
  cases value with
  | none =>
      rw [setSome, Option.none_or, ite_self]
  | some value =>
      rw [setSome, field?_setField object, Option.some_or]

@[simp] theorem isObject_setSome (payload : Json) (name : String)
    (value : Option Json) :
    (payload.setSome name value).isObject = payload.isObject := by
  cases value with
  | none => rfl
  | some value => exact isObject_setField payload name value

theorem keysWithin_setSome {payload : Json} {names : List String}
    {name : String} (value : Option Json)
    (within : payload.keysWithin names = true) (listed : name ∈ names) :
    (payload.setSome name value).keysWithin names = true := by
  cases value with
  | none => exact within
  | some value => exact keysWithin_setField value within listed

theorem keysCover_setSome {payload : Json} {names : List String}
    (object : payload.isObject = true) (name : String) (value : Option Json)
    (cover : payload.keysCover names = true) :
    (payload.setSome name value).keysCover names = true := by
  cases value with
  | none => exact cover
  | some value => exact keysCover_setField object name value cover

theorem setSome_of_field? {payload : Json} {name : String} {value : Option Json}
    (held : ∀ given ∈ value, payload.field? name = some given) :
    payload.setSome name value = payload := by
  cases value with
  | none => rfl
  | some value => exact setField_of_field? (held value rfl)

end Json

section Normalized

variable {formats : InputFormats} {payload : Json} {settings : SettingsText}
  {benchmark : Benchmark} {scoredFrom : Json} {manager : Option ManagerSettings}
  {versions : Option (List VersionText)}

theorem field?_normalizedPayload (object : payload.isObject = true)
    (name : String) :
    (normalizedPayload formats payload settings benchmark scoredFrom manager
      versions).field? name =
      if name = "rulebooks" then
        (versions.map fun versions => Json.arr
          (versions.map (VersionText.toDict formats))).or (payload.field? name)
      else if name = "manager" then
        (manager.map ManagerSettings.toDict).or (payload.field? name)
      else if name = "scored_from" then some scoredFrom
      else if name = "benchmark" then some (.str benchmark.value)
      else if name = "settings" then some (settings.toDict formats)
      else payload.field? name := by
  unfold normalizedPayload
  rw [Json.field?_setSome (by simpa using object),
    Json.field?_setSome (by simpa using object),
    Json.field?_setField (by simpa using object),
    Json.field?_setField (by simpa using object),
    Json.field?_setField object]
  split
  · next named =>
      subst named
      rfl
  · split
    · next named =>
        subst named
        rfl
    · rfl

theorem item_normalizedPayload (object : payload.isObject = true)
    {name : String} (kept : name ∈ requiredFields) :
    (normalizedPayload formats payload settings benchmark scoredFrom manager
      versions).item name = payload.item name := by
  unfold Json.item
  rw [field?_normalizedPayload object]
  simp only [requiredFields, List.mem_cons, List.not_mem_nil, or_false] at kept
  rcases kept with rfl | rfl | rfl | rfl | rfl <;> rfl

theorem keysWithin_normalizedPayload
    (within : payload.keysWithin (requiredFields ++ optionalFields) = true) :
    (normalizedPayload formats payload settings benchmark scoredFrom manager
      versions).keysWithin (requiredFields ++ optionalFields) = true := by
  unfold normalizedPayload
  apply Json.keysWithin_setSome _ _ (by decide)
  apply Json.keysWithin_setSome _ _ (by decide)
  apply Json.keysWithin_setField _ _ (by decide)
  apply Json.keysWithin_setField _ _ (by decide)
  exact Json.keysWithin_setField _ within (by decide)

theorem keysCover_normalizedPayload (object : payload.isObject = true)
    (cover : payload.keysCover requiredFields = true) :
    (normalizedPayload formats payload settings benchmark scoredFrom manager
      versions).keysCover requiredFields = true := by
  unfold normalizedPayload
  apply Json.keysCover_setSome (by simpa using object)
  apply Json.keysCover_setSome (by simpa using object)
  apply Json.keysCover_setField (by simpa using object)
  apply Json.keysCover_setField (by simpa using object)
  exact Json.keysCover_setField object _ _ cover

end Normalized

section Reparsed

variable {formats : InputFormats} {payload : Json} {input : ParsedInput}
  {recordedAt : AwareTime} {rows : List Json}

theorem parseBenchmark_value (benchmark : Benchmark) :
    parseBenchmark (.str benchmark.value) = .ok benchmark := by
  cases benchmark <;> rfl

theorem length_inputRows (listed : inputRows payload = .ok rows) :
    1 ≤ rows.length ∧ rows.length ≤ 2000 := by
  unfold inputRows at listed
  split at listed
  · obtain ⟨counted, same⟩ := Outcome.branch_eq_ok.mp listed
    cases same
    exact counted
  · cases listed

namespace ReadsInput

section

variable (reads : ReadsInput formats payload input recordedAt rows)

include reads

theorem object :
    payload.isObject = true :=
  Json.isObject_of_keysWithin reads.fields.1

theorem readsRows :
    ReadsRows formats recordedAt none rows input.candles :=
  parseRows_eq_ok reads.candles

theorem scoredBar :
    ∃ candle, input.candles[input.scoredIndex]? = some candle ∧
      input.candles.findIdx? (fun other =>
        decide (other.ts.instant = candle.ts.instant)) =
        some input.scoredIndex := by
  have scored := reads.scored
  unfold inputScoredIndex at scored
  split at scored
  · rw [← Except.ok.inj scored]
    have counted := (length_inputRows reads.listed).1
    rw [← reads.readsRows.row_eq, List.length_map] at counted
    cases candles : input.candles with
    | nil =>
        rw [candles] at counted
        cases counted
    | cons first rest =>
        refine ⟨first, rfl, ?_⟩
        rw [List.findIdx?_cons, decide_eq_true rfl]
        rfl
  · obtain ⟨scoredFrom, _, scored⟩ := Outcome.bind_eq_ok.mp scored
    split at scored
    · cases scored
    · next index found =>
        rw [← Except.ok.inj scored]
        obtain ⟨bound, equal, _⟩ := List.findIdx?_eq_some_iff_getElem.mp found
        refine ⟨_, List.getElem?_eq_getElem bound, ?_⟩
        rw [of_decide_eq_true equal]
        exact found

theorem rowTime_eq {index : ℕ} {candle : CandleText}
    (found : input.candles[index]? = some candle) :
    rowTime rows index = candle.written := by
  unfold rowTime CandleText.written
  rw [← reads.readsRows.row_eq, List.getElem?_map, found]
  rfl

theorem written {candle : CandleText} (member : candle ∈ input.candles) :
    awareTime formats candle.written = .ok candle.ts :=
  reads.readsRows.time_written member

theorem stored_item {name : String} (kept : name ∈ requiredFields) :
    input.payload.item name = payload.item name := by
  rw [reads.stored]
  exact item_normalizedPayload reads.object kept

theorem stored_field? :
    input.payload.field? "settings" = some (input.settings.toDict formats) ∧
    input.payload.field? "benchmark" = some (.str input.benchmark.value) ∧
    input.payload.field? "scored_from" =
      some (rowTime rows input.scoredIndex) ∧
    input.payload.field? "manager" =
      (input.manager.map ManagerSettings.toDict).or (payload.field? "manager") ∧
    input.payload.field? "rulebooks" =
      (input.versions.map fun versions => Json.arr
        (versions.map (VersionText.toDict formats))).or
        (payload.field? "rulebooks") := by
  rw [reads.stored]
  refine ⟨?_, ?_, ?_, ?_, ?_⟩ <;>
    exact field?_normalizedPayload reads.object _

theorem stored_manager :
    inputManager input.payload input.benchmark = .ok input.manager ∧
      ∀ given ∈ input.manager.map ManagerSettings.toDict,
        input.payload.field? "manager" = some given := by
  have managed := reads.manager
  have held := reads.stored_field?.2.2.2.1
  unfold inputManager at managed ⊢
  split at managed
  · next channel =>
      obtain ⟨manager, _, same⟩ := Outcome.map_eq_ok.mp managed
      rw [← same] at held ⊢
      rw [if_pos channel, held]
      refine ⟨?_, fun given same => by cases same; rfl⟩
      change (parseManager manager.toDict).map some = _
      rw [parseManager_toDict]
      rfl
  · next channel =>
      obtain ⟨absent, same⟩ := Outcome.guard_eq_ok.mp managed
      have same := Except.ok.inj same
      rw [← same] at held ⊢
      rw [if_neg channel]
      refine ⟨?_, nofun⟩
      unfold Json.hasKey at absent ⊢
      rw [held]
      exact if_neg absent

theorem stored_versions :
    inputVersions formats input.payload input.benchmark rows input.candles
        input.scoredIndex input.settings.exposureFraction =
        .ok input.versions ∧
      ∀ given ∈ (input.versions.map fun versions => Json.arr
          (versions.map (VersionText.toDict formats))),
        input.payload.field? "rulebooks" = some given := by
  have ruled := reads.versions
  have held := reads.stored_field?.2.2.2.2
  unfold inputVersions at ruled ⊢
  split at ruled
  · next channel =>
      obtain ⟨versions, parsed, same⟩ := Outcome.map_eq_ok.mp ruled
      rw [← same] at held ⊢
      rw [if_pos channel, held]
      refine ⟨?_, fun given same => by cases same; rfl⟩
      have again := parseVersions_stored (fun _ => reads.written) parsed
      change (parseVersions formats (.arr
        (versions.map (VersionText.toDict formats))) _ _ _).map some = _
      rw [again]
      rfl
  · next channel =>
      obtain ⟨absent, same⟩ := Outcome.guard_eq_ok.mp ruled
      have same := Except.ok.inj same
      rw [← same] at held ⊢
      rw [if_neg channel]
      refine ⟨?_, nofun⟩
      unfold Json.hasKey at absent ⊢
      rw [held]
      exact if_neg absent

theorem stored_scored :
    inputScoredIndex formats input.payload input.candles =
      .ok input.scoredIndex := by
  obtain ⟨candle, placed, first⟩ := reads.scoredBar
  unfold inputScoredIndex
  rw [reads.stored_field?.2.2.1]
  dsimp only
  rw [reads.rowTime_eq placed, reads.written (List.mem_of_getElem? placed)]
  dsimp only [bind, Except.bind]
  rw [first]

theorem stored_normalized :
    input.payload = normalizedPayload formats input.payload input.settings
      input.benchmark (rowTime rows input.scoredIndex) input.manager
      input.versions := by
  obtain ⟨settings, benchmark, scored, _⟩ := reads.stored_field?
  unfold normalizedPayload
  rw [Json.setField_of_field? settings, Json.setField_of_field? benchmark,
    Json.setField_of_field? scored,
    Json.setSome_of_field? reads.stored_manager.2,
    Json.setSome_of_field? reads.stored_versions.2]

theorem stored_reads :
    ReadsInput formats input.payload input recordedAt rows := by
  have kept {name : String} (required : name ∈ requiredFields) :
      input.payload.item name = payload.item name :=
    reads.stored_item required
  obtain ⟨settings, benchmark, _⟩ := reads.stored_field?
  exact
    { fields := by
        rw [reads.stored]
        exact ⟨keysWithin_normalizedPayload reads.fields.1,
          keysCover_normalizedPayload reads.object reads.fields.2⟩
      schema := by
        rw [kept (by decide)]
        exact reads.schema
      labelled := by
        rw [kept (by decide)]
        exact reads.labelled
      traded := by
        rw [kept (by decide)]
        exact reads.traded
      recorded := by
        rw [kept (by decide)]
        exact reads.recorded
      settings := by
        rw [settings]
        exact parseSettings_toDict formats input.settings
      listed := by
        have listed := reads.listed
        unfold inputRows at listed ⊢
        rw [kept (by decide)]
        exact listed
      candles := reads.candles
      fresh := reads.fresh
      benchmark := by
        rw [benchmark]
        exact parseBenchmark_value input.benchmark
      manager := reads.stored_manager.1
      scored := reads.stored_scored
      versions := reads.stored_versions.1
      stored := reads.stored_normalized }

end

end ReadsInput

theorem parseInput_stored (formats : InputFormats) (payload : Json) :
    (parseInput formats payload >>= fun input =>
      parseInput formats input.payload) = parseInput formats payload := by
  cases parsed : parseInput formats payload with
  | error error => rfl
  | ok input =>
      obtain ⟨recordedAt, rows, reads⟩ := parseInput_eq_ok parsed
      exact reads.stored_reads.parseInput

end Reparsed

/-- `ENGINE_VERSION`. -/
def inputEngineVersion : String := "recorded-spot-v2"

/-- The installed sources, and `semantic_checksum`. -/
structure Installation where
  implementationDigest : String
  checksum : Json → String

/-- The row of the metadata of an experiment. -/
structure ExperimentMetadata where
  engine : String
  implementationSha256 : String
  identity : String
  input : Json

/-- Why an experiment is not reopened. -/
inductive ReopenError where
  | integrity (message : String)
  | input (error : InputError)
  deriving DecidableEq

section Reopened

variable (installation : Installation) (formats : InputFormats)

/-- The checksum a store is bound to. -/
def ParsedInput.identity (input : ParsedInput) : String :=
  installation.checksum (.obj [
    ("engine", .str inputEngineVersion),
    ("implementation", .str installation.implementationDigest),
    ("input", input.payload)])

/-- The metadata that `open_run` stores with a new experiment. -/
def ParsedInput.metadata (input : ParsedInput) : ExperimentMetadata :=
  { engine := inputEngineVersion
    implementationSha256 := installation.implementationDigest
    identity := input.identity installation
    input := input.payload }

/-- The input a store holds. -/
def readSource (saved : Option ExperimentMetadata) :
    Except ReopenError ParsedInput :=
  match saved with
  | none => .error (.integrity "Missing experiment metadata")
  | some saved => do
      let source ← (parseInput formats saved.input).mapError .input
      if saved.engine ≠ inputEngineVersion ∨
          source.identity installation ≠ saved.identity then
        .error (.integrity "Experiment metadata binding failed")
      else .ok source

/-- The input read back from its own payload. -/
def reopened (payload : Json) : Except ReopenError ParsedInput := do
  let input ← (parseInput formats payload).mapError .input
  readSource installation formats (some (input.metadata installation))

/-- Parsing what was stored gives the same input, and an experiment is reopened
with the input that it was created with. -/
theorem stored_input_reopens (payload : Json) :
    (parseInput formats payload >>= fun input =>
      parseInput formats input.payload) = parseInput formats payload ∧
    reopened installation formats payload =
      (parseInput formats payload).mapError .input := by
  have again := parseInput_stored formats payload
  refine ⟨again, ?_⟩
  unfold reopened
  cases parsed : parseInput formats payload with
  | error error => rfl
  | ok input =>
      rw [parsed] at again
      change parseInput formats input.payload = .ok input at again
      change readSource installation formats
        (some (input.metadata installation)) = .ok input
      unfold readSource ParsedInput.metadata
      dsimp only
      rw [again]
      change (if _ then _ else _) = _
      rw [if_neg]
      rintro (different | different)
      · exact different rfl
      · exact different rfl

end Reopened

/-! ## Inputs of one and of two bars -/

def spelledTen (zeros : ℕ) : SpelledDecimal :=
  { negative := false
    coefficient := 10 * 10 ^ zeros
    exponent := -zeros }

theorem spelledTen_value (zeros : ℕ) : (spelledTen zeros).value = 10 := by
  unfold SpelledDecimal.value spelledTen
  have power : (10 : ℚ) ^ zeros ≠ 0 := pow_ne_zero _ (by norm_num)
  push_cast
  rw [zpow_neg, zpow_natCast, one_mul, mul_inv_cancel_right₀ power]

def spelledSettings (zeros : ℕ) : SettingsText :=
  { initialCash := ⟨false, 1000, 0⟩
    riskFraction := ⟨false, 1, -2⟩
    exposureFraction := ⟨false, 20, -2⟩
    drawdownFraction := ⟨false, 10, -2⟩
    feeBps := spelledTen zeros
    slippageBps := ⟨false, 5, 0⟩
    quantityIncrement := ⟨false, 1, -8⟩
    funded := by decide +kernel
    risk := by decide +kernel
    exposure := by decide +kernel
    drawdown := by decide +kernel
    fee := by
      rw [spelledTen_value]
      norm_num
    slippage := by decide +kernel
    costs := by
      rw [spelledTen_value]
      decide +kernel }

/-- The starting rules. -/
def spelledRules : RulebookText :=
  { version := 1
    entry := .trend
    fastBars := 10
    slowBars := 50
    reversionBars := 20
    entryZ := ⟨false, 2, 0⟩
    trendFilterBars := 0
    exposureFraction := ⟨false, 20, -2⟩
    stopFraction := ⟨false, 4, -2⟩
    targetFraction := ⟨false, 8, -2⟩
    expiryHours := 48
    exitOnSignal := true
    versioned := by decide
    fastBounds := by decide
    slowBounds := by decide
    faster := by decide
    reversion := by decide
    filter := by decide
    expiry := by decide
    z := by decide +kernel
    exposure := by decide +kernel
    stop := by decide +kernel
    target := by decide +kernel }

theorem recorded_isLabel : isLabel (.str "recorded") = true := by
  decide

theorem ether_isSymbol : isSymbol (.str "ETH-USD") = true := by
  decide

theorem bitcoin_isSymbol : isSymbol (.str "BTC-USD") = true := by
  decide

/-- Inputs at one price: of the scored bar, or of one more before it. -/
structure InputSpelling where
  label : String
  symbol : String
  feeZeros : ℕ
  early : Bool
  labelled : isLabel (.str label) = true
  traded : isSymbol (.str symbol) = true

def barHour (index : ℕ) : AwareTime :=
  { instant := 1704067200000000 + index * hour, offset := 0 }

section Inputs

variable (formats : InputFormats)

/-- The candle of an hour, with short texts. -/
def spelledCandle (index : ℕ) : CandleText :=
  { row := .obj [
      ("ts", .str ((barHour index).isoformat formats)),
      ("open", .str (formats.showDecimal ⟨false, 100, 0⟩)),
      ("high", .str (formats.showDecimal ⟨false, 100, 0⟩)),
      ("low", .str (formats.showDecimal ⟨false, 100, 0⟩)),
      ("close", .str (formats.showDecimal ⟨false, 100, 0⟩)),
      ("volume", .str (formats.showDecimal ⟨false, 1, 0⟩))]
    ts := barHour index
    openPrice := ⟨false, 100, 0⟩
    high := ⟨false, 100, 0⟩
    low := ⟨false, 100, 0⟩
    close := ⟨false, 100, 0⟩
    volume := ⟨false, 1, 0⟩
    positive := by decide +kernel
    consistent := by decide +kernel
    traded := by decide +kernel }

namespace InputSpelling

variable (spelling : InputSpelling)

def candles : List CandleText :=
  if spelling.early then [spelledCandle formats 0, spelledCandle formats 1]
  else [spelledCandle formats 0]

def version : VersionText :=
  { effectiveFrom := (spelledCandle formats spelling.early.toNat).written
    rules := spelledRules }

def input : ParsedInput :=
  { payload := .obj [
      ("schema_version", .int 1),
      ("source", .str spelling.label),
      ("symbol", .str spelling.symbol),
      ("recorded_at", .str ((barHour (spelling.early.toNat + 1)).isoformat formats)),
      ("candles", .arr ((spelling.candles formats).map CandleText.row)),
      ("scored_from", .str ((barHour spelling.early.toNat).isoformat formats)),
      ("benchmark", .str "ai-rulebook"),
      ("settings", (spelledSettings spelling.feeZeros).toDict formats),
      ("rulebooks", .arr [VersionText.toDict formats (spelling.version formats)])]
    candles := spelling.candles formats
    settings := spelledSettings spelling.feeZeros
    benchmark := .aiRulebook
    scoredIndex := spelling.early.toNat
    manager := none
    versions := some [spelling.version formats] }

end InputSpelling

variable {formats}

theorem parseRow_spelledCandle {index recorded : ℕ} {previous : Option CandleText}
    (finished : index < recorded)
    (follows : ∀ last ∈ previous, (barHour index).instant = last.ts.instant + hour) :
    parseRow formats (barHour recorded) previous (spelledCandle formats index).row =
      .ok (spelledCandle formats index) := by
  have price : formats.decimalValue true
      (.str (formats.showDecimal ⟨false, 100, 0⟩)) =
        .ok ⟨⟨false, 100, 0⟩, fun _ => by decide +kernel⟩ :=
    formats.decimalValue_show ⟨⟨false, 100, 0⟩, fun _ => by decide +kernel⟩
  have amount : formats.decimalValue false
      (.str (formats.showDecimal ⟨false, 1, 0⟩)) =
        .ok ⟨⟨false, 1, 0⟩, fun _ => by decide +kernel⟩ :=
    formats.decimalValue_show ⟨⟨false, 1, 0⟩, fun _ => by decide +kernel⟩
  have time : awareTime formats ((spelledCandle formats index).row.item "ts") =
      .ok (barHour index) := awareTime_isoformat _
  have closed : (barHour index).instant + hour ≤ (barHour recorded).instant := by
    have hours : (index : ℤ) + 1 ≤ recorded := by exact_mod_cast finished
    unfold barHour hour
    linarith
  unfold parseRow
  refine Outcome.bind_eq_ok.mpr ⟨_, checked_of (by rfl), ?_⟩
  refine Outcome.bind_eq_ok.mpr ⟨_, time, ?_⟩
  refine Outcome.bind_eq_ok.mpr ⟨_, price, ?_⟩
  refine Outcome.bind_eq_ok.mpr ⟨_, price, ?_⟩
  refine Outcome.bind_eq_ok.mpr ⟨_, price, ?_⟩
  refine Outcome.bind_eq_ok.mpr ⟨_, price, ?_⟩
  refine Outcome.bind_eq_ok.mpr ⟨_, amount, ?_⟩
  refine Outcome.bind_eq_ok.mpr ⟨_, checked_of (by decide +kernel), ?_⟩
  refine Outcome.bind_eq_ok.mpr ⟨_, checked_of (by decide +kernel), ?_⟩
  refine Outcome.bind_eq_ok.mpr ⟨_, checked_of closed, ?_⟩
  refine Outcome.bind_eq_ok.mpr ⟨_, checked_of follows, ?_⟩
  rfl

namespace InputSpelling

variable (spelling : InputSpelling)

theorem parseRows_candles :
    parseRows formats (barHour (spelling.early.toNat + 1)) none
        ((spelling.candles formats).map CandleText.row) =
      .ok (spelling.candles formats) := by
  have none : ∀ last ∈ (none : Option CandleText),
      (barHour 0).instant = last.ts.instant + hour :=
    fun _ absent => absurd absent (Option.not_mem_none _)
  unfold candles
  cases spelling.early with
  | false =>
      change parseRows formats (barHour 1) _ [_] = _
      unfold parseRows
      rw [parseRow_spelledCandle (by decide) none]
      rfl
  | true =>
      change parseRows formats (barHour 2) _ [_, _] = _
      unfold parseRows parseRows
      rw [parseRow_spelledCandle (by decide) none]
      change (parseRow formats (barHour 2) _ _ >>= _) >>= _ = _
      rw [parseRow_spelledCandle (by decide) (by rintro _ ⟨⟩; rfl)]
      rfl

theorem readsVersions :
    ReadsVersions formats (spelling.candles formats) spelling.early.toNat
      (spelledSettings spelling.feeZeros).exposureFraction 1
      ((spelling.early.toNat : ℤ) - 1) [spelling.version formats] := by
  have placed : (barTimes (spelling.candles formats)).get?
      (spelledCandle formats spelling.early.toNat).ts.instant =
        some (spelling.early.toNat, spelledCandle formats spelling.early.toNat) := by
    unfold candles
    cases spelling.early <;> rfl
  exact .cons placed ⟨by omega, fun _ => rfl⟩ le_rfl rfl .nil

theorem parseInput_input :
    parseInput formats (spelling.input formats).payload =
      .ok (spelling.input formats) := by
  have written : ∀ bar ∈ spelling.candles formats,
      awareTime formats bar.written = .ok bar.ts := by
    intro bar listed
    have spelled : ∃ index, bar = spelledCandle formats index := by
      unfold candles at listed
      split at listed
      · rw [List.mem_pair] at listed
        exact listed.elim (fun same => ⟨0, same⟩) fun same => ⟨1, same⟩
      · exact ⟨0, List.mem_singleton.mp listed⟩
    obtain ⟨index, rfl⟩ := spelled
    exact awareTime_isoformat _
  have versions : parseVersions formats
      (.arr [VersionText.toDict formats (spelling.version formats)])
      (spelling.candles formats) spelling.early.toNat
      (spelledSettings spelling.feeZeros).exposureFraction =
        .ok [spelling.version formats] := by
    unfold parseVersions
    dsimp only
    rw [checked_of (by exact (by decide : 1 ≤ 1 ∧ 1 ≤ 2000))]
    exact spelling.readsVersions.stored written
  have settings : parseSettings formats
      ((spelledSettings spelling.feeZeros).toDict formats) =
        .ok (spelledSettings spelling.feeZeros) := parseSettings_toDict formats _
  have reads : ReadsInput formats (spelling.input formats).payload
      (spelling.input formats) (barHour (spelling.early.toNat + 1))
      ((spelling.candles formats).map CandleText.row) :=
    { fields := ⟨by rfl, by rfl⟩
      schema := by rfl
      labelled := spelling.labelled
      traded := spelling.traded
      recorded := awareTime_isoformat _
      settings := settings
      listed := by
        unfold input candles
        cases spelling.early <;> rfl
      candles := spelling.parseRows_candles
      fresh := by
        have last : (spelling.candles formats).getLast? =
            some (spelledCandle formats spelling.early.toNat) := by
          unfold candles
          cases spelling.early <;> rfl
        change ∀ candle ∈ (spelling.candles formats).getLast?, _
        rw [last]
        rintro _ ⟨⟩
        change (barHour _).instant - ((barHour _).instant + hour) < hour
        unfold barHour hour
        push_cast
        omega
      benchmark := by rfl
      manager := by rfl
      scored := by
        have start : (spelling.input formats).payload.field? "scored_from" =
            some (.str ((barHour spelling.early.toNat).isoformat formats)) := rfl
        unfold inputScoredIndex
        rw [start]
        dsimp only
        rw [awareTime_isoformat]
        unfold input candles
        cases spelling.early <;> rfl
      versions := by
        unfold inputVersions
        refine (if_pos ?_).trans (Outcome.map_eq_ok.mpr ⟨_, versions, ?_⟩)
        · rfl
        · rfl
      stored := by
        unfold input candles
        cases spelling.early <;> rfl }
  exact reads.parseInput

end InputSpelling

end Inputs

deriving instance Encodable for SpelledDecimal

def shortTexts : List (String × SpelledDecimal) :=
  [("1000", ⟨false, 1000, 0⟩), ("0.01", ⟨false, 1, -2⟩),
    ("0.20", ⟨false, 20, -2⟩), ("0.10", ⟨false, 10, -2⟩),
    ("10", ⟨false, 10, 0⟩), ("5", ⟨false, 5, 0⟩), ("1E-8", ⟨false, 1, -8⟩),
    ("2", ⟨false, 2, 0⟩), ("0.04", ⟨false, 4, -2⟩), ("0.08", ⟨false, 8, -2⟩),
    ("100", ⟨false, 100, 0⟩), ("1", ⟨false, 1, 0⟩)]

def shortSpelling : Spelling SpelledDecimal :=
  { entries := shortTexts
    nodup := by decide
    unmarked := by decide }

def momentTexts : Spelling DateTime :=
  { entries := [
      ("2024-01-01T00:00:00+00:00", ⟨1704067200000000, some 0⟩),
      ("2024-01-01T01:00:00+00:00", ⟨1704070800000000, some 0⟩),
      ("2024-01-01T02:00:00+00:00", ⟨1704074400000000, some 0⟩)]
    nodup := by decide
    unmarked := by decide }

/-- The conversions of the texts of such inputs, with the listed decimals. -/
def spelledTexts (decimals : Spelling SpelledDecimal) : InputFormats :=
  { text := fun value =>
      match value with
      | .str text => text
      | value => value.encode fun _ => ""
    parseDecimal := fun text => (decimals.ofText text).map .finite
    showDecimal := decimals.toText
    isDigit := fun text => text.isNat
    parseInt := String.toInt?
    parseDateTime := momentTexts.ofText
    showDateTime := momentTexts.toText
    text_str := fun _ => rfl
    parseDecimal_show := fun decimal => by
      rw [decimals.ofText_toText]
      rfl
    parseDateTime_show := momentTexts.ofText_toText
    showDateTime_plain := momentTexts.not_mem_toText (by decide) (by decide) }

end GptTrader
