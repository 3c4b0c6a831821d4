import GptTrader.Experiment.EstimateBounds

/-!
# A run that is not estimated

Two inputs of one portfolio spell the same fee differently.  The estimate prices
the short header of the first input as it is given; the run sends the long header
of the first input by symbol.
-/

namespace GptTrader

section FirstTurns

variable {world : AuthorWorld}
variable {arguments : AuthorArguments world.formats.toInputFormats}
variable {first : ParsedInput} {rest : List ParsedInput}
variable {started : JournalProgress} {request : AuthorRequest}

theorem runAuthor_eq (checked : checkArguments world arguments = .ok ())
    (sorted : arguments.sorted = first :: rest)
    (unlimited : arguments.maxBars = none) :
    runAuthor world arguments = (do
      openRun arguments.binding
      let _ ← JournalProgram.countBars
      let _ ← writeJournal world first arguments.settings arguments.transport
        arguments.binding (first :: rest) first.candles.length
      let (metadata, stored) ← JournalProgram.snapshot
      Program.lift (inspectAuthor world metadata stored)) := by
  unfold runAuthor
  have continues (next : Unit → JournalProgram JournalProgress) :
      (Program.lift (.ok ()) >>= next) = next () := rfl
  rw [checked, continues, sorted]
  dsimp only
  rw [unlimited]

/-- The program is at the start of a bar. -/
def Standing (arguments : AuthorArguments world.formats.toInputFormats)
    (store : AuthorStore) (program : JournalProgram JournalProgress) : Prop :=
  ∃ root : ReachedRoot world (fun _ : Unit => arguments) false,
    root.system.shared = store ∧ root.system.callers () = some program

theorem standing_start (arguments : AuthorArguments world.formats.toInputFormats) :
    Standing arguments (.fresh false) (runAuthor world arguments) :=
  ⟨⟨_, .refl⟩, rfl, rfl⟩

theorem Standing.perform {store reached : AuthorStore} {op : JournalOp}
    {next : op.Reply → JournalProgram JournalProgress} {reply : op.Reply}
    (standing : Standing arguments store (.perform op next))
    (serves : JournalServes store op reply reached) :
    Standing arguments reached (next reply) := by
  obtain ⟨root, rfl, running⟩ := standing
  have step : System.Step JournalServes root.system _ := .act running serves
  let after : ReachedRoot world (fun _ : Unit => arguments) false :=
    { system := _
      reached := root.reached.tail step }
  refine ⟨after, rfl, ?_⟩
  simp [after]

theorem Standing.send {store : AuthorStore} {sequence : ℕ} {plan : BarPlan}
    {fresh : Bool} {answer : AuthorOutcome → Except AuthorError BarResult}
    {next : JournalOp.Reply (.bar sequence fresh plan) →
      JournalProgram JournalProgress}
    (standing : Standing arguments store (.perform (.bar sequence fresh plan) next))
    (asks : plan = .asks request answer)
    (absent : fresh = true → store.hasBar sequence = false) :
    ∃ program, Standing arguments (store.send sequence request) program := by
  subst asks
  exact ⟨_, standing.perform
    (@JournalServes.failsAfterSending _ _ _ _ (.raised "timeout") _ absent)⟩

theorem exists_first_turn
    (checked : checkArguments world arguments = .ok ())
    (sorted : arguments.sorted = first :: rest)
    (unlimited : arguments.maxBars = none)
    (starts : startJournal world arguments.binding (first :: rest) = .ok started)
    (some : first.candles ≠ [])
    {answer : AuthorOutcome → Except AuthorError BarResult}
    (asks : freshPlan world first arguments.settings arguments.transport started =
      .asks request answer) :
    ∃ root : ReachedRoot world (fun _ : Unit => arguments) false,
      root.system.shared.log = [.sent 0 request] := by
  obtain ⟨count, counted⟩ : ∃ count, first.candles.length = count + 1 :=
    Nat.exists_eq_succ_of_ne_zero (List.length_pos_iff.mpr some).ne'
  have program := runAuthor_eq checked sorted unlimited
  unfold writeJournal at program
  rw [starts, counted] at program
  have begins := standing_start arguments
  rw [program] at begins
  have found := begins.perform .databaseExists
  have listed := found.perform .directoryHasEntries
  have connected := listed.perform .connect
  have opened := connected.perform .openJournal
  have counts := opened.perform .countBars
  have reads := counts.perform .readBars
  obtain ⟨_, root, shared, _⟩ := reads.send asks fun _ => rfl
  refine ⟨root, ?_⟩
  rw [shared, (startJournal_spec starts).1]
  rfl

end FirstTurns

def tenText (zeros : ℕ) : String :=
  String.ofList ('1' :: '0' :: '.' :: List.replicate zeros '0')

def feeZeros : ℕ := 10000

theorem length_shortTexts : ∀ entry ∈ shortTexts, entry.1.length ≤ 4 := by
  decide

theorem length_tenText (zeros : ℕ) : (tenText zeros).length = zeros + 3 := by
  unfold tenText
  rw [String.length_ofList]
  simp

def decimalTexts : Spelling SpelledDecimal :=
  { entries := shortTexts ++ [(tenText feeZeros, spelledTen feeZeros)]
    nodup := by
      rw [List.map_append, List.nodup_append]
      refine ⟨by decide, List.nodup_singleton _, ?_⟩
      intro text listed other long same
      obtain ⟨entry, member, rfl⟩ := List.mem_map.mp listed
      rw [List.map_singleton, List.mem_singleton] at long
      have short := length_shortTexts entry member
      rw [same, long, length_tenText] at short
      unfold feeZeros at short
      omega
    unmarked := by
      rw [List.forall_mem_append]
      refine ⟨by decide, List.forall_mem_singleton.mpr ?_⟩
      unfold tenText
      rw [String.toList_ofList]
      decide }

/-- Formats that read the listed texts. -/
abbrev spelledFormats : AuthorFormats :=
  authorTexts decimalTexts

abbrev spelledWorld : AuthorWorld :=
  flatWorld decimalTexts

/-- An input of one bar, with the fee spelled with zeros. -/
def coinSpelling (symbol : String) (zeros : ℕ)
    (traded : isSymbol (.str symbol) = true) : InputSpelling :=
  { label := "recorded"
    symbol := symbol
    feeZeros := zeros
    early := false
    labelled := recorded_isLabel
    traded := traded }

def shortSource : ParsedInput :=
  (coinSpelling "ETH-USD" 0 ether_isSymbol).input spelledFormats.toInputFormats

def longSource : ParsedInput :=
  (coinSpelling "BTC-USD" feeZeros bitcoin_isSymbol).input
    spelledFormats.toInputFormats

def spelledArguments : AuthorArguments spelledWorld.formats.toInputFormats :=
  { sources := [
      { input := shortSource
        loaded := ⟨_, InputSpelling.parseInput_input _⟩ },
      { input := longSource
        loaded := ⟨_, InputSpelling.parseInput_input _⟩ }]
    manager := shortManager
    transport := some
      { model := "claude-fable-5-1"
        ledger := none }
    settings := defaultAuthor
    maxBars := none }

theorem validate_sources :
    validateAuthorPortfolio [shortSource, longSource] = .ok () := by
  unfold validateAuthorPortfolio
  dsimp only
  refine Outcome.guard_eq_ok.mpr ⟨by decide, Outcome.forM_eq_ok.mpr ?_⟩
  rw [List.forall_mem_cons, List.forall_mem_singleton]
  exact ⟨validateSource_spelling rfl, validateSource_spelling rfl⟩

theorem sorted_sources :
    sortedSources [shortSource, longSource] = [longSource, shortSource] := by
  have before : ¬shortSource.symbol ≤ longSource.symbol := by decide
  unfold sortedSources
  rw [List.insertionSort_cons, List.insertionSort_cons, List.insertionSort_nil,
    List.orderedInsert_nil, List.orderedInsert_cons, if_neg before]
  rfl

def startedCoin (source : ParsedInput) : CoinProgress :=
  { source := source
    state := flatState 0
    schedule := source.schedule
    rules := spelledRules
    events := [] }

def startedPass : JournalProgress :=
  { coins := [startedCoin longSource, startedCoin shortSource]
    previous := ""
    turns := []
    processed := 0 }

theorem starts_pass (binding : AuthorBinding) :
    startJournal spelledWorld binding [longSource, shortSource] =
      .ok startedPass := rfl

def flatAccounts : List (String × Json) :=
  [("BTC-USD", accountView (flatState 1)), ("ETH-USD", accountView (flatState 1))]

theorem observes_accounts :
    startedPass.coins.mapM (CoinProgress.observe spelledWorld 0) =
      .ok flatAccounts := rfl

theorem dynamic_within :
    (dynamicContext spelledWorld (.obj flatAccounts) startedPass.current).bytes
      spelledWorld.formats.showFloat ≤ maxDynamicBytes := by
  decide +kernel

theorem asks_first_turn : ∃ request answer,
    freshPlan spelledWorld longSource defaultAuthor spelledArguments.transport
      startedPass = .asks request answer := by
  have requested : turnRequest spelledWorld longSource defaultAuthor startedPass =
      .ok (buildAuthorRequest spelledFormats.toInputFormats longSource
        startedPass.sources 0 (.obj flatAccounts) startedPass.current
        defaultAuthor) := by
    unfold turnRequest
    rw [show startedPass.processed = 0 from rfl, observes_accounts]
    dsimp only
    rw [if_neg (Nat.not_lt_of_le dynamic_within)]
    rfl
  unfold freshPlan
  rw [if_pos (by decide), requested]
  exact ⟨_, _, rfl⟩

theorem checks_arguments : checkArguments spelledWorld spelledArguments = .ok () := by
  unfold checkArguments
  rw [show spelledArguments.sources.map (·.input) = [shortSource, longSource] from
    rfl, validate_sources]
  rfl

theorem toText_longFee :
    decimalTexts.toText (spelledTen feeZeros) = tenText feeZeros := by
  have small : ∀ entry ∈ shortTexts, -8 ≤ entry.2.exponent := by decide
  have listed : decimalTexts.entries =
      shortTexts ++ [(tenText feeZeros, spelledTen feeZeros)] := by
    unfold decimalTexts
    rfl
  apply decimalTexts.toText_last listed
  intro entry member same
  have bounded := small entry member
  rw [same] at bounded
  have exponent : (spelledTen feeZeros).exponent = -feeZeros := by
    unfold spelledTen
    rfl
  rw [exponent] at bounded
  unfold feeZeros at bounded
  omega

theorem showDecimal_longFee :
    spelledFormats.showDecimal (spelledTen feeZeros) = tenText feeZeros := by
  have table : spelledFormats.showDecimal = decimalTexts.toText := rfl
  rw [table, toText_longFee]

theorem fee_le_header (formats : AuthorFormats) (first : ParsedInput)
    (sequence : ℕ) :
    2 * (Json.str (formats.showDecimal first.settings.feeBps)).bytes
        formats.showFloat ≤ headerBytes formats first sequence := by
  have costs : (Json.str (formats.showDecimal first.settings.feeBps)).bytes
        formats.showFloat ≤
      (costsText formats.toInputFormats first.settings).bytes
        formats.showFloat :=
    Json.bytes_field_le ("fee_bps", _) (List.mem_cons_self ..)
  have limits : (Json.str (formats.showDecimal first.settings.feeBps)).bytes
        formats.showFloat ≤
      (first.settings.toDict formats.toInputFormats).bytes formats.showFloat :=
    Json.bytes_field_le ("fee_bps", _)
      (.tail _ (.tail _ (.tail _ (.tail _ (.head _)))))
  unfold headerBytes
  omega

theorem long_header {formats : AuthorFormats} {spelling : InputSpelling}
    (shown : formats.showDecimal (spelledTen spelling.feeZeros) =
      tenText spelling.feeZeros) :
    2 * (spelling.feeZeros + 3) ≤
      headerBytes formats (spelling.input formats.toInputFormats) 0 := by
  have twice := fee_le_header formats (spelling.input formats.toInputFormats) 0
  have fee : (spelling.input formats.toInputFormats).settings.feeBps =
      spelledTen spelling.feeZeros := rfl
  rw [fee, shown] at twice
  have long : (tenText spelling.feeZeros).length ≤
      (Json.str (tenText spelling.feeZeros)).bytes formats.showFloat :=
    Json.length_le_bytes _
  rw [length_tenText] at long
  omega

theorem short_header :
    headerBytes spelledFormats shortSource 0 ≤ 600 := by
  decide +kernel

theorem estimates_sources : ∃ report,
    estimateAuthorSpend spelledFormats .defaultContext plainWire
      [shortSource, longSource] shortManager defaultAuthor = .ok report :=
  exists_estimate validate_sources (by decide) rfl

theorem instructions_bytes : authorInstructions.utf8ByteSize ≤ 3000 := by
  unfold authorInstructions
  simp only [String.utf8ByteSize_append]
  decide +kernel

theorem schema_bytes :
    (Json.obj [("schema", authorReplySchema ["ETH-USD", "BTC-USD"]),
      ("type", .str "json_schema")]).bytes spelledFormats.showFloat ≤ 3000 := by
  decide +kernel

theorem portfolio_bytes :
    (Json.str ("portfolio:" ++ commaJoined
        (((startingRules [shortSource, longSource]).map
          Prod.fst).insertionSort (· ≤ ·)))).bytes spelledFormats.showFloat +
      (Json.obj ((startingRules [shortSource, longSource]).map
        fun entry => (entry.1, Json.int 10000))).bytes spelledFormats.showFloat +
      (Json.obj ([shortSource, longSource].map fun source =>
        (source.symbol, dailyBarTexts spelledFormats.toInputFormats source 0
          defaultAuthor.historyDays))).bytes spelledFormats.showFloat ≤ 300 := by
  decide +kernel

theorem context_bytes :
    (estimatedContext spelledFormats shortSource [shortSource, longSource]
      defaultAuthor 0).bytes spelledFormats.showFloat ≤ 20000 := by
  have portfolio := portfolio_bytes
  have none : (Json.obj []).bytes spelledFormats.showFloat = 2 := by rfl
  have header := short_header
  unfold headerBytes at header
  rw [estimatedContext_eq, bytes_context, Json.bytes_plain, none]
  -- Closed terms are evaluated where numbers are expected.
  generalize Json.bytes _ (.str (_ ++ _)) = symbol at portfolio ⊢
  generalize Json.bytes _ (.obj (List.map _ (startingRules _))) = versions
    at portfolio ⊢
  generalize Json.bytes _ (.obj (List.map _ [_, _])) = bars at portfolio ⊢
  generalize Json.bytes _ (windowText _ _) = window at header ⊢
  generalize Json.bytes _ (barTimeText _ _ _ _) = time at header ⊢
  generalize Json.bytes _ (costsText _ _) = costs at header ⊢
  generalize Json.bytes _ (SettingsText.toDict _ _) = limits at header ⊢
  unfold maxDynamicBytes
  omega

theorem sent_exceeds_estimate {request : AuthorRequest}
    (asked : AskedTurn spelledWorld longSource [longSource, shortSource]
      defaultAuthor 0 request) :
    (estimatedContext spelledFormats shortSource [shortSource, longSource]
      defaultAuthor 0).bytes spelledFormats.showFloat <
      request.context.bytes spelledFormats.showFloat := by
  have once : ∀ source ∈ [shortSource, longSource], source.schedule.length = 1 :=
    List.forall_mem_cons.mpr ⟨rfl, List.forall_mem_singleton.mpr rfl⟩
  have longer : 600 + 16004 + 5 * 2 < 2 * (feeZeros + 3) := by decide
  exact asked.exceeds (List.Perm.swap _ _ _) (startingRules_names once)
    short_header (long_header showDecimal_longFee) longer

/-- The estimate does not bound every run: here the first source by symbol has a
longer header than the first source that is given. -/
theorem estimate_is_exceeded :
    ¬∀ (world : AuthorWorld) (run : EstimatedRun world),
      run.BoundsRuns fun _ _ _ => True := by
  intro bounded
  obtain ⟨report, estimated⟩ := estimates_sources
  obtain ⟨request, answer, asks⟩ := asks_first_turn
  obtain ⟨root, logged⟩ := exists_first_turn checks_arguments sorted_sources rfl
    (starts_pass _) (List.cons_ne_nil _ _) asks
  have sent : .sent 0 request ∈ root.system.shared.log := by
    rw [logged]
    exact List.mem_singleton_self _
  obtain ⟨_, leader, others, sorted, asked⟩ := root.holds.asked 0 request sent
  obtain ⟨rfl, rfl⟩ := List.cons.inj (sorted_sources.symm.trans sorted)
  let run : EstimatedRun spelledWorld :=
    { wire := plainWire
      given := [shortSource, longSource]
      manager := shortManager
      settings := defaultAuthor
      report := report
      estimated := estimated }
  have shared : run.Shared fun _ : Unit => spelledArguments :=
    { sources := fun _ => .refl _
      manager := fun _ => rfl
      settings := fun _ => rfl }
  obtain ⟨cost, priced⟩ := exists_worstCaseUsd .defaultContext
    (spelledFormats.wired plainWire)
    (authorParams spelledFormats plainWire ["ETH-USD", "BTC-USD"]
      shortManager request.instructions request.context) rfl
  obtain ⟨first, given, _, estimate, turn, within⟩ :=
    (bounded spelledWorld run Unit _ false root shared trivial).each
      ⟨0, request, cost⟩ ⟨sent, priced⟩
  cases given
  unfold estimateTurn at turn
  obtain ⟨most, estimates, rfl⟩ := Outcome.map_eq_ok.mp turn
  have instructions : request.instructions = authorInstructions := by
    obtain ⟨_, _, _, _, built⟩ := asked.built
    rw [built, buildAuthorRequest_instructions]
  rw [instructions] at priced
  have estimates' : worstCaseUsd .defaultContext
      (spelledFormats.wired plainWire)
      (authorParams spelledFormats plainWire ["ETH-USD", "BTC-USD"]
        shortManager authorInstructions (estimatedContext spelledFormats
          shortSource [shortSource, longSource] defaultAuthor 0)) = .ok most :=
    estimates
  have fewer := inputTokenBound_le ?_ ?_ ?_
    (inputTokenBound_lt instructions_bytes schema_bytes context_bytes) priced
    estimates' within
  · exact absurd (inputTokenBound_authorParams_le.mp fewer)
      (Nat.not_le_of_lt (sent_exceeds_estimate asked))
  · rfl
  · rfl
  · exact (by decide : 8000 ≤ maxManagerOutputTokens)

end GptTrader
