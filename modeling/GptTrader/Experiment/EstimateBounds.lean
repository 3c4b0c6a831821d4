import GptTrader.Experiment.EstimatedBytes

/-!
# The estimate bounds the runs

Whatever the processes of an author run do on a root, the turns they send are
among the estimated ones, and each reserves no more than its estimate, as long as
the header of the first source by symbol is not longer than the estimated one by
more than thirty bytes.
-/

namespace GptTrader

namespace DecimalContext

variable {context : DecimalContext} {values others : List ℚ}
variable {total most : ℚ}

theorem Sound.le_add (sound : context.Sound) (rounded : context.round total = total)
    {value : ℚ} (nonneg : 0 ≤ value) : total ≤ context.add total value := by
  have more : context.round total ≤ context.round (total + value) :=
    sound.monotone (le_add_of_nonneg_right nonneg)
  rw [rounded] at more
  exact more

theorem Sound.le_foldl_add (sound : context.Sound)
    (rounded : context.round total = total) (nonneg : ∀ value ∈ values, 0 ≤ value) :
    total ≤ values.foldl context.add total := by
  induction values generalizing total with
  | nil => exact le_rfl
  | cons value rest induction =>
      obtain ⟨first, later⟩ := List.forall_mem_cons.mp nonneg
      exact (sound.le_add rounded first).trans
        (induction (sound.idempotent _) later)

section

variable (sound : context.Sound) (below : List.SublistForall₂ (· ≤ ·) values others)
variable (nonneg : ∀ value ∈ others, 0 ≤ value)

include sound below nonneg

theorem Sound.foldl_add_le (le : total ≤ most) (rounded : context.round most = most) :
    values.foldl context.add total ≤ others.foldl context.add most := by
  induction below generalizing total most with
  | nil => exact le.trans (sound.le_foldl_add rounded nonneg)
  | cons smaller _ induction =>
      obtain ⟨_, later⟩ := List.forall_mem_cons.mp nonneg
      exact induction later (sound.monotone (add_le_add le smaller))
        (sound.idempotent _)
  | cons_right _ induction =>
      obtain ⟨first, later⟩ := List.forall_mem_cons.mp nonneg
      exact induction later (le.trans (sound.le_add rounded first))
        (sound.idempotent _)

theorem Sound.sum_le :
    context.sum values ≤ context.sum others :=
  sound.foldl_add_le below nonneg le_rfl sound.round_zero

end

end DecimalContext

theorem sublistForall₂_of_keys {α β : Type} {relation : α → β → Prop}
    {left : α → ℕ} {right : β → ℕ} {items : List α} {others : List β}
    (sorted : items.Pairwise fun first second => left first < left second)
    (arranged : others.Pairwise fun first second => right first < right second)
    (related : ∀ item ∈ items, ∃ other ∈ others,
      right other = left item ∧ relation item other) :
    List.SublistForall₂ relation items others := by
  induction others generalizing items with
  | nil =>
      cases items with
      | nil => exact .nil
      | cons item rest =>
          obtain ⟨_, member, _⟩ := related item (.head _)
          cases member
  | cons other later induction =>
      obtain ⟨above, increasing⟩ := List.pairwise_cons.mp arranged
      cases items with
      | nil => exact .nil
      | cons item rest =>
          obtain ⟨before, ordered⟩ := List.pairwise_cons.mp sorted
          obtain ⟨found, member, same, holds⟩ := related item (.head _)
          rcases List.mem_cons.mp member with rfl | further
          · -- The items that follow have larger keys than this one.
            refine .cons holds (induction ordered increasing ?_)
            intro next listed
            obtain ⟨match', member, key, holds⟩ := related next (.tail _ listed)
            rcases List.mem_cons.mp member with rfl | beyond
            · have increases := before next listed
              omega
            · exact ⟨match', beyond, key, holds⟩
          · refine .cons_right (induction sorted increasing ?_)
            intro next listed
            obtain ⟨match', member, key, holds⟩ := related next listed
            rcases List.mem_cons.mp member with rfl | beyond
            · have past := above found further
              rcases List.mem_cons.mp listed with rfl | follows
              · omega
              · have increases := before next follows
                omega
            · exact ⟨match', beyond, key, holds⟩

section Costs

open DecimalContext AnthropicTransport

variable {arithmetic : DecimalContext} {formats : WireFormats}
variable {params others : WireParams} {cost most : ℚ}

theorem worstCaseUsd_mono (sound : arithmetic.Sound)
    (model : params.model = others.model)
    (output : params.maxTokens = others.maxTokens)
    (bytes : inputTokenBound formats params ≤ inputTokenBound formats others)
    (priced : worstCaseUsd arithmetic formats params = .ok cost)
    (estimated : worstCaseUsd arithmetic formats others = .ok most) :
    cost ≤ most := by
  unfold worstCaseUsd at priced estimated
  rw [model] at priced
  cases prices : pricingFor others.model with
  | error stop =>
      rw [prices] at priced
      cases priced
  | ok pair =>
      obtain ⟨input, price⟩ := pair
      rw [prices] at priced estimated
      cases priced
      cases estimated
      obtain ⟨rfl, rfl⟩ := Prod.mk.inj (pricingFor_eq_ok prices)
      have fewer : (inputTokenBound formats params : ℚ) ≤
          inputTokenBound formats others := by exact_mod_cast bytes
      rw [output]
      refine sound.monotone (div_le_div_of_nonneg_right ?_ (by norm_num))
      refine sound.monotone (add_le_add_left ?_ _)
      refine sound.monotone (mul_le_mul_of_nonneg_right ?_ ?_)
      · exact sound.monotone (mul_le_mul_of_nonneg_right fewer (by norm_num))
      · unfold cacheWriteMultiplier
        norm_num

theorem worstCaseUsd_nonneg (sound : arithmetic.Sound)
    (priced : worstCaseUsd arithmetic formats params = .ok cost) : 0 ≤ cost := by
  unfold worstCaseUsd at priced
  cases prices : pricingFor params.model with
  | error stop =>
      rw [prices] at priced
      cases priced
  | ok pair =>
      obtain ⟨input, price⟩ := pair
      rw [prices] at priced
      cases priced
      obtain ⟨rfl, rfl⟩ := Prod.mk.inj (pricingFor_eq_ok prices)
      have multiplier : (0 : ℚ) ≤ cacheWriteMultiplier := by
        unfold cacheWriteMultiplier
        norm_num
      have input := sound.round_nonneg (mul_nonneg
        (Nat.cast_nonneg (inputTokenBound formats params)) (by norm_num :
          (0 : ℚ) ≤ 10))
      have written := sound.round_nonneg (mul_nonneg input multiplier)
      have output := sound.round_nonneg (mul_nonneg
        (Nat.cast_nonneg params.maxTokens) (by norm_num : (0 : ℚ) ≤ 50))
      exact sound.round_nonneg (div_nonneg
        (sound.round_nonneg (add_nonneg written output)) (by norm_num))

theorem priced_of_worstCaseUsd
    (priced : worstCaseUsd arithmetic formats params = .ok cost) :
    ∃ prices, pricingFor params.model = .ok prices := by
  unfold worstCaseUsd at priced
  cases prices : pricingFor params.model with
  | error stop =>
      rw [prices] at priced
      cases priced
  | ok pair => exact ⟨pair, rfl⟩

theorem exists_worstCaseUsd (arithmetic : DecimalContext) (formats : WireFormats)
    (params : WireParams) {prices : ℚ × ℚ}
    (known : pricingFor params.model = .ok prices) :
    ∃ cost, worstCaseUsd arithmetic formats params = .ok cost := by
  unfold worstCaseUsd
  rw [known]
  exact ⟨_, rfl⟩

def WireParams.longer (params : WireParams) : WireParams :=
  { params with system := params.system ++ "x" }

theorem inputTokenBound_longer (params : WireParams) :
    inputTokenBound formats params.longer = inputTokenBound formats params + 1 := by
  unfold inputTokenBound WireParams.longer
  simp only [List.map_cons, List.sum_cons, String.utf8ByteSize_append]
  have single : "x".utf8ByteSize = 1 := by decide
  omega

theorem worstCaseUsd_longer (limit : params.maxTokens ≤ maxManagerOutputTokens)
    (bytes : inputTokenBound formats params + 1 < 10 ^ 20)
    (priced : worstCaseUsd defaultContext formats params = .ok cost) :
    ∃ more, worstCaseUsd defaultContext formats params.longer = .ok more ∧
      cost < more := by
  obtain ⟨prices, known⟩ := priced_of_worstCaseUsd priced
  have longer : pricingFor params.longer.model = .ok prices := known
  have above := worstCaseUsd_eq longer
    (by rw [inputTokenBound_longer]; exact bytes) limit
  rw [worstCaseUsd_eq known (by omega) limit] at priced
  refine ⟨_, above, ?_⟩
  rw [← Except.ok.inj priced, inputTokenBound_longer]
  have same : params.longer.maxTokens = params.maxTokens := rfl
  rw [same]
  apply div_lt_div_of_pos_right _ (by norm_num)
  exact Nat.cast_lt.mpr (by omega)

theorem inputTokenBound_le (model : params.model = others.model)
    (output : params.maxTokens = others.maxTokens)
    (limit : others.maxTokens ≤ maxManagerOutputTokens)
    (bytes : inputTokenBound formats others + 1 < 10 ^ 20)
    (priced : worstCaseUsd defaultContext formats params = .ok cost)
    (estimated : worstCaseUsd defaultContext formats others = .ok most)
    (cheaper : cost ≤ most) :
    inputTokenBound formats params ≤ inputTokenBound formats others := by
  by_contra fewer
  obtain ⟨more, above, less⟩ := worstCaseUsd_longer limit bytes estimated
  have within : more ≤ cost := by
    refine worstCaseUsd_mono defaultContext_sound ?_ ?_ ?_ above priced
    · exact model.symm
    · exact output.symm
    · rw [inputTokenBound_longer]
      omega
  exact absurd (within.trans cheaper) (not_le_of_gt less)

end Costs

/-- The header of the first source by symbol takes at most thirty bytes more than
that of the first source as given, whose header is priced. -/
def HeaderFits (formats : AuthorFormats) (given : List ParsedInput)
    (settings : AuthorSettings) : Prop :=
  ∀ first ∈ given.head?, ∀ leader ∈ (sortedSources given).head?,
    ∀ sequence ∈ authorBars first settings,
      headerBytes formats leader sequence ≤
        headerBytes formats first sequence + 30

/-- A turn with what is reserved for it. -/
structure ReservedTurn where
  sequence : ℕ
  request : AuthorRequest
  usd : ℚ

/-- An estimate, and the portfolio and settings that it is made for. -/
structure EstimatedRun (world : AuthorWorld) where
  wire : WireFormats
  given : List ParsedInput
  manager : ManagerSettings
  settings : AuthorSettings
  report : AuthorEstimate
  estimated : estimateAuthorSpend world.formats .defaultContext wire given manager
    settings = .ok report

namespace EstimatedRun

variable {world : AuthorWorld} (run : EstimatedRun world)

/-- The processes run over the portfolio, in any order of its sources. -/
structure Shared {ι : Type}
    (arguments : ι → AuthorArguments world.formats.toInputFormats) : Prop where
  sources : ∀ caller, ((arguments caller).sources.map (·.input)).Perm run.given
  manager : ∀ caller, (arguments caller).manager = run.manager
  settings : ∀ caller, (arguments caller).settings = run.settings

/-- A turn that was sent, and its worst case. -/
structure Reserves (log : List JournalEvent) (turn : ReservedTurn) : Prop where
  sent : .sent turn.sequence turn.request ∈ log
  reserved : worstCaseUsd .defaultContext (world.formats.wired run.wire)
    (authorParams world.formats run.wire (run.given.map (·.symbol)) run.manager
      turn.request.instructions turn.request.context) = .ok turn.usd

/-- The estimate has a turn for the reserved one. -/
def Covers (turn : ReservedTurn) : Prop :=
  ∃ first ∈ run.given.head?, turn.sequence ∈ authorBars first run.settings ∧
    ∃ estimate, estimateTurn world.formats .defaultContext run.wire first
        run.given run.manager run.settings turn.sequence = .ok estimate ∧
      turn.usd ≤ estimate.worstCaseUsd

/-- The estimate bounds the turns that were sent, each and, without those that
are sent again, all together. -/
structure Bounds (log : List JournalEvent) : Prop where
  each : ∀ turn, run.Reserves log turn → run.Covers turn
  whole : ∀ turns : List ReservedTurn, (∀ turn ∈ turns, run.Reserves log turn) →
    (turns.Pairwise fun earlier later => earlier.sequence < later.sequence) →
    turns.length ≤ run.report.turns ∧
      DecimalContext.defaultContext.sum (turns.map (·.usd)) ≤
        run.report.worstCaseUsd

def BoundsRuns (condition : (formats : AuthorFormats) → List ParsedInput →
    AuthorSettings → Prop) : Prop :=
  ∀ (ι : Type) [DecidableEq ι]
    (arguments : ι → AuthorArguments world.formats.toInputFormats)
    (occupied : Bool) (root : ReachedRoot world arguments occupied),
    run.Shared arguments → condition world.formats run.given run.settings →
      run.Bounds root.system.shared.log

end EstimatedRun

section Portfolios

variable {first source leader : ParsedInput}
variable {given others rest : List ParsedInput} {settings : AuthorSettings}
variable {sequence : ℕ}

theorem validateSource_eq_ok (valid : validateSource first source = .ok ()) :
    source.schedule.length = 1 ∧ source.scoredIndex = first.scoredIndex ∧
      source.candles.length = first.candles.length := by
  unfold validateSource at valid
  obtain ⟨scheduled, valid⟩ := Outcome.guard_eq_ok.mp valid
  obtain ⟨shared, _⟩ := Outcome.guard_eq_ok.mp valid
  obtain ⟨_, once⟩ := not_or.mp scheduled
  obtain ⟨scored, shared⟩ := not_or.mp shared
  obtain ⟨_, times⟩ := not_or.mp shared
  refine ⟨not_not.mp once, not_not.mp scored, ?_⟩
  have counted := congrArg List.length (not_not.mp times)
  rwa [List.length_map, List.length_map] at counted

theorem validateAuthorPortfolio_cons
    (valid : validateAuthorPortfolio (first :: rest) = .ok ()) :
    ((first :: rest).map (·.symbol)).Nodup ∧
      ∀ source ∈ first :: rest, validateSource first source = .ok () := by
  unfold validateAuthorPortfolio at valid
  obtain ⟨distinct, valid⟩ := Outcome.guard_eq_ok.mp valid
  exact ⟨not_not.mp (not_or.mp distinct).2, Outcome.forM_eq_ok.mp valid⟩

theorem sortedSources_perm (alike : others.Perm given)
    (distinct : (given.map (·.symbol)).Nodup) :
    sortedSources others = sortedSources given := by
  have left := List.perm_insertionSort
    (fun left right : ParsedInput => left.symbol ≤ right.symbol) others
  have right := List.perm_insertionSort
    (fun left right : ParsedInput => left.symbol ≤ right.symbol) given
  refine List.Perm.eq_of_pairwise ?_ (List.pairwise_insertionSort _ _)
    (List.pairwise_insertionSort _ _) ((left.trans alike).trans right.symm)
  intro one other listed member before after
  exact List.inj_on_of_nodup_map distinct
    (alike.mem_iff.mp (left.mem_iff.mp listed)) (right.mem_iff.mp member)
    (le_antisymm before after)

theorem startingRules_names
    (once : ∀ source ∈ given, source.schedule.length = 1) :
    (startingRules given).map Prod.fst = given.map (·.symbol) := by
  induction given with
  | nil => rfl
  | cons source rest induction =>
      obtain ⟨single, others⟩ := List.forall_mem_cons.mp once
      obtain ⟨version, listed⟩ := List.length_eq_one_iff.mp single
      have found : (source.schedule.head?.map fun version =>
          (source.symbol, version.rules)) = some (source.symbol, version.rules) := by
        rw [listed]
        rfl
      unfold startingRules at induction ⊢
      rw [List.filterMap_cons, found]
      dsimp only
      rw [List.map_cons, List.map_cons, induction others]

theorem buildAuthorRequest_instructions (formats : InputFormats)
    (accounts : Json) (rules : List (String × RulebookText)) :
    (buildAuthorRequest formats first given sequence accounts rules
      settings).instructions = authorInstructions := by
  unfold buildAuthorRequest
  dsimp only

theorem inputTokenBound_authorParams (formats : AuthorFormats)
    (wire : WireFormats) (symbols : List String) (manager : ManagerSettings)
    (instructions : String) (context : Json) :
    inputTokenBound (formats.wired wire)
        (authorParams formats wire symbols manager instructions context) =
      instructions.utf8ByteSize +
        (Json.obj [("schema", authorReplySchema symbols),
          ("type", .str "json_schema")]).bytes formats.showFloat +
        overheadTokens + context.bytes formats.showFloat := by
  unfold inputTokenBound authorParams wireParams AuthorFormats.wired Json.bytes
  simp only [List.map_cons, List.map_nil, List.sum_cons, List.sum_nil,
    Option.getD_some]
  omega

theorem inputTokenBound_authorParams_le {formats : AuthorFormats}
    {wire : WireFormats} {symbols : List String} {manager : ManagerSettings}
    {instructions : String} {context other : Json} :
    inputTokenBound (formats.wired wire)
        (authorParams formats wire symbols manager instructions context) ≤
      inputTokenBound (formats.wired wire)
        (authorParams formats wire symbols manager instructions other) ↔
      context.bytes formats.showFloat ≤ other.bytes formats.showFloat := by
  rw [inputTokenBound_authorParams, inputTokenBound_authorParams]
  exact Nat.add_le_add_iff_left

theorem inputTokenBound_lt {formats : AuthorFormats} {wire : WireFormats}
    {symbols : List String} {manager : ManagerSettings} {instructions : String}
    {context : Json} (fixed : instructions.utf8ByteSize ≤ 3000)
    (schema : (Json.obj [("schema", authorReplySchema symbols),
      ("type", .str "json_schema")]).bytes formats.showFloat ≤ 3000)
    (priced : context.bytes formats.showFloat ≤ 20000) :
    inputTokenBound (formats.wired wire)
      (authorParams formats wire symbols manager instructions context) + 1 <
        10 ^ 20 := by
  rw [inputTokenBound_authorParams]
  unfold overheadTokens
  omega

theorem authorBars_eq (valid : validateSource first source = .ok ()) :
    authorBars source settings = authorBars first settings := by
  obtain ⟨_, scored, counted⟩ := validateSource_eq_ok valid
  unfold authorBars
  rw [scored, counted]

end Portfolios

section Bounded

variable {world : AuthorWorld} {run : EstimatedRun world}
variable {first : ParsedInput} {rest : List ParsedInput}
variable {turns : List TurnEstimate}

theorem exists_estimate {formats : AuthorFormats} {wire : WireFormats}
    {first : ParsedInput} {rest : List ParsedInput} {manager : ManagerSettings}
    {settings : AuthorSettings} {prices : ℚ × ℚ}
    (valid : validateAuthorPortfolio (first :: rest) = .ok ())
    (due : authorBars first settings ≠ [])
    (known : pricingFor manager.model = .ok prices) :
    ∃ report, estimateAuthorSpend formats .defaultContext wire (first :: rest)
      manager settings = .ok report := by
  have each : ∀ sequence ∈ authorBars first settings,
      ∃ turn, estimateTurn formats .defaultContext wire first (first :: rest) manager
        settings sequence = .ok turn := by
    intro sequence _
    obtain ⟨cost, priced⟩ := exists_worstCaseUsd .defaultContext (formats.wired wire)
      (authorParams formats wire ((startingRules (first :: rest)).map Prod.fst)
        manager authorInstructions
        (estimatedContext formats first (first :: rest) settings sequence)) known
    unfold estimateTurn
    dsimp only
    rw [priced]
    exact ⟨_, rfl⟩
  obtain ⟨turns, estimated⟩ := Outcome.exists_mapM.mpr each
  have count := (Outcome.mapM_eq_ok.mp estimated).length_eq
  unfold estimateAuthorSpend
  rw [valid]
  dsimp only
  change estimateTurns _ _ _ _ _ _ _ = _ at estimated
  rw [estimated]
  cases turns with
  | nil => exact absurd (List.length_eq_zero_iff.mp count) due
  | cons turn later => exact ⟨_, rfl⟩

/-- How the estimate came about. -/
structure EstimatedFrom (run : EstimatedRun world) (first : ParsedInput)
    (rest : List ParsedInput) (turns : List TurnEstimate) : Prop where
  given : run.given = first :: rest
  valid : validateAuthorPortfolio (first :: rest) = .ok ()
  priced : estimateTurns world.formats .defaultContext run.wire first
    (first :: rest) run.manager run.settings = .ok turns
  count : run.report.turns = turns.length
  total : run.report.worstCaseUsd =
    DecimalContext.defaultContext.sum (turns.map (·.worstCaseUsd))

theorem EstimatedRun.estimatedFrom (run : EstimatedRun world) :
    ∃ first rest turns, EstimatedFrom run first rest turns := by
  have estimated := run.estimated
  unfold estimateAuthorSpend at estimated
  split at estimated
  · cases estimated
  · cases estimated
  · next first rest valid given =>
      split at estimated
      · cases estimated
      · cases estimated
      · next turn later priced =>
          refine ⟨first, rest, turn :: later, ?_⟩
          have report := Except.ok.inj estimated
          rw [given] at valid
          exact
            { given := given
              valid := valid
              priced := priced
              count := by rw [← report]; exact rfl
              total := by rw [← report]; exact rfl }

namespace EstimatedFrom

theorem sequences (from' : EstimatedFrom run first rest turns) :
    turns.map (·.sequence) = authorBars first run.settings := by
  refine Outcome.map_mapM from'.priced ?_
  intro sequence estimate estimated
  obtain ⟨cost, _, rfl⟩ := Outcome.map_eq_ok.mp estimated
  rfl

section

variable (from' : EstimatedFrom run first rest turns)

include from'

theorem costs_nonneg :
    ∀ value ∈ turns.map (·.worstCaseUsd), 0 ≤ value := by
  intro value listed
  obtain ⟨estimate, member, rfl⟩ := List.mem_map.mp listed
  obtain ⟨sequence, _, estimated⟩ := Outcome.mem_mapM from'.priced member
  obtain ⟨cost, priced, rfl⟩ := Outcome.map_eq_ok.mp estimated
  exact worstCaseUsd_nonneg DecimalContext.defaultContext_sound priced

theorem nodup :
    (run.given.map (·.symbol)).Nodup := by
  rw [from'.given]
  exact (validateAuthorPortfolio_cons from'.valid).1

theorem names :
    (startingRules (first :: rest)).map Prod.fst =
      (first :: rest).map (·.symbol) :=
  startingRules_names fun source listed =>
    (validateSource_eq_ok
      ((validateAuthorPortfolio_cons from'.valid).2 source listed)).1

theorem usd_le {leader : ParsedInput} {others : List ParsedInput} {turn : ReservedTurn}
    {log : List JournalEvent} {estimate : TurnEstimate}
    (alike : (leader :: others).Perm (first :: rest))
    (asked : AskedTurn world leader (leader :: others) run.settings
      turn.sequence turn.request)
    (header : headerBytes world.formats leader turn.sequence ≤
      headerBytes world.formats first turn.sequence + 30)
    (reserves : run.Reserves log turn)
    (estimated : estimateTurn world.formats .defaultContext run.wire first
      (first :: rest) run.manager run.settings turn.sequence = .ok estimate) :
    turn.usd ≤ estimate.worstCaseUsd := by
  obtain ⟨cost, priced, rfl⟩ := Outcome.map_eq_ok.mp estimated
  have reserved := reserves.reserved
  rw [from'.given] at reserved
  rw [from'.names] at priced
  have fits := asked.bytes_le alike from'.names header
  have instructions : turn.request.instructions = authorInstructions := by
    obtain ⟨_, _, _, _, built⟩ := asked.built
    rw [built, buildAuthorRequest_instructions]
  apply worstCaseUsd_mono DecimalContext.defaultContext_sound _ _ _ reserved priced
  · rfl
  · rfl
  rw [instructions]
  exact inputTokenBound_authorParams_le.mpr fits

theorem covers {ι : Type} [DecidableEq ι]
    {arguments : ι → AuthorArguments world.formats.toInputFormats} {occupied : Bool}
    (root : ReachedRoot world arguments occupied) (shared : run.Shared arguments)
    (fits : HeaderFits world.formats run.given run.settings) {turn : ReservedTurn}
    (reserves : run.Reserves root.system.shared.log turn) :
    turn.sequence ∈ authorBars first run.settings ∧
      ∀ estimate, estimateTurn world.formats .defaultContext run.wire first
        (first :: rest) run.manager run.settings turn.sequence = .ok estimate →
        turn.usd ≤ estimate.worstCaseUsd := by
  obtain ⟨caller, leader, others, sorted, asked⟩ :=
    root.holds.asked _ _ reserves.sent
  rw [shared.settings caller] at asked
  unfold AuthorArguments.sorted at sorted
  rw [sortedSources_perm (shared.sources caller) from'.nodup] at sorted
  have alike : (leader :: others).Perm (first :: rest) := by
    rw [← sorted, ← from'.given]
    exact List.perm_insertionSort _ _
  have valid := (validateAuthorPortfolio_cons from'.valid).2 leader
    (alike.mem_iff.mp (List.mem_cons_self ..))
  have listed : turn.sequence ∈ authorBars first run.settings := by
    rw [← authorBars_eq valid]
    exact mem_authorBars.mpr ⟨asked.due, asked.within⟩
  refine ⟨listed, fun estimate estimated => ?_⟩
  refine from'.usd_le alike asked ?_ reserves estimated
  refine fits first ?_ leader ?_ turn.sequence listed
  · rw [from'.given]
    rfl
  · rw [sorted]
    rfl

end

end EstimatedFrom

end Bounded

/-- The estimate bounds every run whose first source by symbol has a header that
is not longer. -/
theorem estimate_bounds_runs (world : AuthorWorld) (run : EstimatedRun world) :
    run.BoundsRuns HeaderFits := by
  intro ι _ arguments occupied root shared fits
  obtain ⟨first, rest, turns, from'⟩ := run.estimatedFrom
  have given : first ∈ run.given.head? := by
    rw [from'.given]
    rfl
  refine
    { each := ?_
      whole := ?_ }
  · intro turn reserves
    obtain ⟨listed, most⟩ := from'.covers root shared fits reserves
    obtain ⟨estimate, _, estimated⟩ :=
      Outcome.result_mem_mapM from'.priced listed
    refine ⟨first, given, listed, estimate, ?_, most estimate estimated⟩
    rw [from'.given]
    exact estimated
  · intro sent reserves increasing
    have sorted : (turns.map (·.sequence)).Pairwise (· < ·) := by
      rw [from'.sequences]
      exact stepRange_sorted run.settings.cadence.1
    have below : List.SublistForall₂
        (fun (turn : ReservedTurn) (estimate : TurnEstimate) =>
          turn.usd ≤ estimate.worstCaseUsd) sent turns := by
      refine sublistForall₂_of_keys increasing (List.pairwise_map.mp sorted) ?_
      intro turn member
      obtain ⟨listed, most⟩ :=
        from'.covers root shared fits (reserves turn member)
      obtain ⟨estimate, priced, estimated⟩ :=
        Outcome.result_mem_mapM from'.priced listed
      refine ⟨estimate, priced, ?_, most estimate estimated⟩
      obtain ⟨cost, _, rfl⟩ := Outcome.map_eq_ok.mp estimated
      rfl
    rw [from'.count, from'.total]
    constructor
    · obtain ⟨covering, each, within⟩ := List.sublistForall₂_iff.mp below
      exact each.length_eq.trans_le within.length_le
    · apply DecimalContext.defaultContext_sound.sum_le _ from'.costs_nonneg
      rw [List.sublistForall₂_map_left_iff, List.sublistForall₂_map_right_iff]
      exact below

/-! ## Two processes within their estimate -/

section Example

def plainWire : WireFormats :=
  { encode := Json.encode fun _ => ""
    digit := Char.isDigit
    showUsd := fun _ => ""
    showUsage := fun _ => "" }

theorem validateSource_spelling {formats : InputFormats} {first other : InputSpelling}
    (alike : other.early = first.early) :
    validateSource (first.input formats) (other.input formats) = .ok () := by
  have values : (spelledSettings other.feeZeros).values =
      (spelledSettings first.feeZeros).values := by
    unfold SettingsText.values spelledSettings
    dsimp only
    rw [spelledTen_value, spelledTen_value]
  have times : other.candles formats = first.candles formats := by
    unfold InputSpelling.candles
    rw [alike]
  refine Outcome.guard_eq_ok.mpr ⟨?_, Outcome.guard_eq_ok.mpr ⟨?_, rfl⟩⟩
  · exact not_or.mpr ⟨not_not_intro rfl, not_not_intro rfl⟩
  · exact not_or.mpr ⟨not_not_intro (congrArg Bool.toNat alike), not_or.mpr
      ⟨not_not_intro values,
        not_not_intro (congrArg (List.map fun bar => bar.ts.instant) times)⟩⟩

def etherInput : ParsedInput :=
  (pairSpelling "ETH-USD" ether_isSymbol).input (spelledTexts shortSpelling)

def bitcoinInput : ParsedInput :=
  (pairSpelling "BTC-USD" bitcoin_isSymbol).input (spelledTexts shortSpelling)

theorem validate_pair : validateAuthorPortfolio [etherInput, bitcoinInput] = .ok () := by
  unfold validateAuthorPortfolio
  dsimp only
  refine Outcome.guard_eq_ok.mpr ⟨by decide, Outcome.forM_eq_ok.mpr ?_⟩
  rw [List.forall_mem_cons, List.forall_mem_singleton]
  exact ⟨validateSource_spelling rfl, validateSource_spelling rfl⟩

theorem pair_headerFits :
    HeaderFits (authorTexts shortSpelling) [etherInput, bitcoinInput]
      defaultAuthor := by
  rintro _ ⟨⟩ leader found sequence listed
  have once : authorBars etherInput defaultAuthor = [1] := by decide
  rw [once, List.mem_singleton] at listed
  have sorted : (sortedSources [etherInput, bitcoinInput]).head? = some bitcoinInput := by
    have before : ¬etherInput.symbol ≤ bitcoinInput.symbol := by decide
    unfold sortedSources
    rw [List.insertionSort_cons, List.insertionSort_cons, List.insertionSort_nil,
      List.orderedInsert_nil, List.orderedInsert_cons, if_neg before]
    rfl
  rw [sorted] at found
  cases found
  rw [listed]
  decide +kernel

theorem pair_sends : ∃ request,
    .sent 1 request ∈ (storeAfter true handedOver).log := by
  have sent : ((storeAfter true handedOver).log.any fun event =>
      decide (event.sends = some 1)) = true := by
    decide +kernel
  obtain ⟨event, member, found⟩ := List.any_eq_true.mp sent
  cases event with
  | sent sequence request =>
      obtain rfl := Option.some.inj (of_decide_eq_true found)
      exact ⟨request, member⟩
  | committed sequence => cases of_decide_eq_true found

/-- The turn that the second process sends is reserved within its estimate. -/
theorem handed_over_run_is_bounded :
    ∃ (run : EstimatedRun (flatWorld shortSpelling)) (roots : HandOver)
      (turn : ReservedTurn), turn.sequence = 1 ∧
        run.Reserves roots.last.system.shared.log turn ∧
        run.Bounds roots.last.system.shared.log := by
  obtain ⟨roots⟩ := exists_handOver
  obtain ⟨report, estimated⟩ : ∃ report, estimateAuthorSpend
      (authorTexts shortSpelling) .defaultContext plainWire [etherInput, bitcoinInput]
      shortManager defaultAuthor = .ok report :=
    exists_estimate validate_pair (by decide) rfl
  let run : EstimatedRun (flatWorld shortSpelling) :=
    { wire := plainWire
      given := [etherInput, bitcoinInput]
      manager := shortManager
      settings := defaultAuthor
      report := report
      estimated := estimated }
  obtain ⟨request, sent⟩ := pair_sends
  obtain ⟨usd, reserved⟩ := exists_worstCaseUsd .defaultContext
    ((authorTexts shortSpelling).wired plainWire)
    (authorParams (authorTexts shortSpelling) plainWire ["ETH-USD", "BTC-USD"]
      shortManager request.instructions request.context) rfl
  rw [← roots.resumed] at sent
  refine ⟨run, roots, ⟨1, request, usd⟩, rfl, ⟨sent, reserved⟩, ?_⟩
  exact estimate_bounds_runs (flatWorld shortSpelling) run Bool pairArguments false
    roots.last
    { sources := fun _ => .refl _
      manager := fun _ => rfl
      settings := fun _ => rfl }
    pair_headerFits

end Example

end GptTrader
