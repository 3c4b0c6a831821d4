import GptTrader.Experiment.Inputs
import GptTrader.Experiment.SpendLedger
import GptTrader.Python.Values

/-!
# The model transport behind the spend ledger

`AnthropicTransport` (`features/experiment/model_transport.py`): a call is
priced at its worst case and reserved before it is sent; its reply, or the way
it failed, decides what it is settled at.
-/

namespace GptTrader

/-- `PRICING`: dollars per million input and output tokens. -/
def pricing : List (String × ℚ × ℚ) :=
  [("claude-fable-5-1", 10, 50)]

def cacheWriteMultiplier : ℚ := 5 / 4

def hourCacheWriteMultiplier : ℚ := 2

def overheadTokens : ℕ := 2000

/-- The prices of a model, or a refusal. -/
def pricingFor (model : String) : Except TransportStop (ℚ × ℚ) :=
  match pricing.lookup model with
  | some prices => .ok prices
  | none =>
      .error (.halted ("No recorded price for model " ++ model ++
        "; add it to PRICING before any call"))

def replySchema : Json :=
  let typed (name : String) : Json := .obj [("type", .str name)]
  .obj [
    ("additionalProperties", .bool false),
    ("properties", .obj [
      ("action", .obj [
        ("enum", .arr [.str "hold", .str "enter", .str "exit"]),
        ("type", .str "string")]),
      ("expires_in_hours", typed "integer"),
      ("reason", typed "string"),
      ("rulebook", typed "string"),
      ("size_fraction", typed "string"),
      ("stop", typed "string"),
      ("target", typed "string")]),
    ("required", .arr [.str "action", .str "reason"]),
    ("type", .str "object")]

/-- How the transport spells what it sends and reports. -/
structure WireFormats where
  /-- `encode`: compact JSON with sorted keys. -/
  encode : Json → String
  /-- What `\d` matches. -/
  digit : Char → Bool
  showUsd : ℚ → String
  showUsage : List (String × String) → String

/-- The arguments of a Messages API call. -/
structure WireParams where
  model : String
  maxTokens : ℕ
  system : String
  messages : List String
  serviceTier : String
  inferenceGeo : String
  effort : String
  format : Json

/-- The request as it is sent. -/
def wireParams (formats : WireFormats) (instructions : String) (context : Json)
    (settings : ManagerSettings) (schema : Option Json) : WireParams :=
  { model := settings.model
    maxTokens := settings.maxTokens
    system := instructions
    messages := [formats.encode context]
    serviceTier := "standard_only"
    inferenceGeo := "global"
    effort := settings.effort
    format := .obj [("schema", schema.getD replySchema),
      ("type", .str "json_schema")] }

/-- One token for each byte, and the overhead. -/
def inputTokenBound (formats : WireFormats) (params : WireParams) : ℕ :=
  ((params.system :: formats.encode params.format :: params.messages).map
    String.utf8ByteSize).sum + overheadTokens

/-- The most a request can cost. -/
def worstCaseUsd (arithmetic : DecimalContext) (formats : WireFormats)
    (params : WireParams) : Except TransportStop ℚ :=
  match pricingFor params.model with
  | .error stop => .error stop
  | .ok (inputPrice, outputPrice) =>
      .ok (arithmetic.div
        (arithmetic.add
          (arithmetic.mul
            (arithmetic.mul (inputTokenBound formats params) inputPrice)
            cacheWriteMultiplier)
          (arithmetic.mul params.maxTokens outputPrice))
        1000000)

/-- What a reply reports of its tokens. -/
structure Usage where
  inputTokens : ℕ
  cacheCreationInputTokens : Option ℕ
  cacheReadInputTokens : Option ℕ
  ephemeralHourInputTokens : Option ℕ
  outputTokens : ℕ
  serviceTier : Option String
  speed : Option String
  inferenceGeo : Option String

namespace Usage

variable (usage : Usage)

def cacheWrite : ℕ :=
  usage.cacheCreationInputTokens.getD 0

def cacheRead : ℕ :=
  usage.cacheReadInputTokens.getD 0

def hourWrites : ℕ :=
  usage.ephemeralHourInputTokens.getD 0

/-- All input tokens, cached ones included. -/
def allInput : ℕ :=
  usage.inputTokens + usage.cacheWrite + usage.cacheRead

/-- What the price table does not cover (`PRICED_USAGE`). -/
def unpriced : List (String × String) :=
  [("service_tier", usage.serviceTier, "standard"),
    ("speed", usage.speed, "standard"),
    ("inference_geo", usage.inferenceGeo, "global")].filterMap
      fun (name, reported, priced) =>
        match reported with
        | none => none
        | some value => if value = priced then none else some (name, value)

end Usage

/-- The reply with its usage. -/
structure TransportReply where
  model : String
  text : String
  stopReason : String
  inputTokens : ℕ
  outputTokens : ℕ
  latencyMs : ℕ
  inputUsdPerMillion : ℚ
  outputUsdPerMillion : ℚ
  deriving DecidableEq

namespace TransportReply

/-- `__post_init__`. -/
def check (reply : TransportReply) : Except String Unit :=
  if reply.model = "" then .error "Transport reply requires a model id"
  else if reply.inputUsdPerMillion < 0 then
    .error
      "Transport reply input_usd_per_million must be a nonnegative Decimal"
  else if reply.outputUsdPerMillion < 0 then
    .error
      "Transport reply output_usd_per_million must be a nonnegative Decimal"
  else .ok ()

/-- The cost of a reply at its prices. -/
def costUsd (arithmetic : DecimalContext) (reply : TransportReply) : ℚ :=
  arithmetic.div
    (arithmetic.add
      (arithmetic.mul reply.inputTokens reply.inputUsdPerMillion)
      (arithmetic.mul reply.outputTokens reply.outputUsdPerMillion))
    1000000

end TransportReply

/-- A message of the API. -/
structure ModelResponse where
  model : String
  text : String
  stopReason : Option String
  usage : Usage

/-- How a sent call ends. -/
inductive ClientOutcome where
  | timeout
  | connectionError (error : String)
  | statusError (status : ℕ) (error : String)
  | response (response : ModelResponse) (latencyMs : ℕ)

/-- `same_model`: the pinned model, or a dated snapshot of it. -/
def sameModel (formats : WireFormats) (pinned reported : String) : Bool :=
  let stem := pinned.toList ++ ['-']
  let date := reported.toList.drop stem.length
  decide (reported = pinned) ||
    (stem.isPrefixOf reported.toList && decide (date.length = 8) &&
      date.all formats.digit)

/-- What a call is settled at, and what the decision then returns. -/
structure Settlement where
  costUsd : Option ℚ
  status : String
  detail : String
  result : Except TransportStop TransportReply

/-- The settings and ledger of a transport. -/
structure AnthropicTransport where
  settings : ManagerSettings
  ledger : SpendLedger
  schema : Option Json
  run : String

namespace AnthropicTransport

variable (transport : AnthropicTransport)
variable (arithmetic : DecimalContext) (formats : WireFormats)

/-- The reply a response stands for. -/
def replyOf (prices : ℚ × ℚ) (response : ModelResponse) (latencyMs : ℕ) :
    TransportReply :=
  { model := response.model
    text := response.text
    stopReason := response.stopReason.getD ""
    inputTokens := response.usage.allInput
    outputTokens := response.usage.outputTokens
    latencyMs := latencyMs
    inputUsdPerMillion := prices.1
    outputUsdPerMillion := prices.2 }

def measuredCost (prices : ℚ × ℚ) (response : ModelResponse)
    (latencyMs : ℕ) : ℚ :=
  let usage := response.usage
  let surcharge :=
    arithmetic.mul
      (arithmetic.add
        (arithmetic.mul (((usage.cacheWrite : ℤ) - usage.hourWrites : ℤ) : ℚ)
          (arithmetic.sub cacheWriteMultiplier 1))
        (arithmetic.mul usage.hourWrites
          (arithmetic.sub hourCacheWriteMultiplier 1)))
      prices.1
  arithmetic.add ((replyOf prices response latencyMs).costUsd arithmetic)
    (arithmetic.div surcharge 1000000)

/-- How `decide` settles a call that ended, when it settles it. -/
def settlement (prices : ℚ × ℚ) (reserved : ℚ) :
    ClientOutcome → Except TransportStop Settlement
  | .timeout =>
      .ok {
        costUsd := none
        status := "timeout"
        detail := ""
        result := .error (.failed "request timed out after 600s") }
  | .connectionError error =>
      .ok {
        costUsd := none
        status := "connection error"
        detail := error
        result := .error (.failed ("connection error: " ++ error)) }
  | .statusError status error =>
      let unbilled := decide (status < 500) || decide (status = 529)
      .ok {
        costUsd := if unbilled then some 0 else none
        status := "http " ++ toString status
        detail := error
        result :=
          if status < 500 ∧ status ∉ [408, 409, 429] then
            .error (.halted ("API rejected the request (HTTP " ++
              toString status ++ "): " ++ error))
          else
            .error (.failed ("API error (HTTP " ++ toString status ++ "): " ++
              error)) }
  | .response response latencyMs =>
      let reply := replyOf prices response latencyMs
      match reply.check with
      | .error message => .error (.invalid message)
      | .ok () =>
          let cost := measuredCost arithmetic prices response latencyMs
          let unpriced := response.usage.unpriced
          let foreign := !sameModel formats transport.settings.model reply.model
          .ok {
            costUsd :=
              some (if !unpriced.isEmpty || foreign then max cost reserved
                else cost)
            status := "replied"
            detail := reply.stopReason
            result :=
              if foreign then
                .error (.halted ("Reply came from model " ++ reply.model ++
                  ", not the pinned " ++ transport.settings.model ++
                  "; the turn is not evidence for the model under test"))
              else if !unpriced.isEmpty then
                .error (.halted ("Reply usage reports " ++
                  formats.showUsage unpriced ++
                  ", which the price table does not cover; " ++
                  "its spend is not known"))
              else if reserved < cost then
                .error (.halted ("Measured cost $" ++ formats.showUsd cost ++
                  " exceeded the call's $" ++ formats.showUsd reserved ++
                  " reservation; the spend bound no longer holds"))
              else .ok reply }

section Costs

open DecimalContext

variable {settings : ManagerSettings}
variable {formats : WireFormats} {params : WireParams}
variable {prices : ℚ × ℚ} {reserved : ℚ}
variable {response : ModelResponse}

theorem pricingFor_eq_ok {model : String}
    (priced : pricingFor model = .ok prices) : prices = (10, 50) := by
  unfold pricingFor pricing at priced
  by_cases known : model = "claude-fable-5-1"
  · rw [known] at priced
    exact (Except.ok.inj priced).symm
  · have unknown : (model == "claude-fable-5-1") = false := by simpa using known
    simp [List.lookup_cons, unknown] at priced

/-- The bound in the default context is exact. -/
theorem worstCaseUsd_eq
    (priced : pricingFor params.model = .ok prices)
    (bytes : inputTokenBound formats params < 10 ^ 20)
    (output : params.maxTokens ≤ maxManagerOutputTokens) :
    worstCaseUsd defaultContext formats params =
      .ok ((inputTokenBound formats params * 1250 + params.maxTokens * 5000 :
        ℕ) / 10 ^ 8) := by
  obtain rfl := pricingFor_eq_ok priced
  unfold worstCaseUsd
  rw [priced]
  dsimp only [maxManagerOutputTokens] at output ⊢
  congr 1
  generalize inputTokenBound formats params = bound at bytes ⊢
  generalize params.maxTokens = limit at output ⊢
  have tokens : defaultContext.mul bound 10 = bound * 10 :=
    round_natCast_div (bound * 10) 0 (by push_cast; ring) (by omega)
  have cached : defaultContext.mul (bound * 10) cacheWriteMultiplier =
      bound * 10 * (5 / 4) :=
    round_natCast_div (bound * 1250) 2
      (by unfold cacheWriteMultiplier; push_cast; ring) (by omega)
  have answer : defaultContext.mul limit 50 = limit * 50 :=
    round_natCast_div (limit * 50) 0 (by push_cast; ring) (by omega)
  have total : defaultContext.add (bound * 10 * (5 / 4)) (limit * 50) =
      bound * 10 * (5 / 4) + limit * 50 :=
    round_natCast_div (bound * 1250 + limit * 5000) 2 (by push_cast; ring)
      (by omega)
  have dollars : defaultContext.div (bound * 10 * (5 / 4) + limit * 50)
        1000000 =
      (bound * 10 * (5 / 4) + limit * 50) / 1000000 :=
    round_natCast_div (bound * 1250 + limit * 5000) 8 (by push_cast; ring)
      (by omega)
  rw [tokens, cached, answer, total, dollars]
  push_cast
  ring

theorem measuredCost_eq (latencyMs : ℕ)
    (input : response.usage.allInput < 10 ^ 20)
    (output : response.usage.outputTokens ≤ maxManagerOutputTokens)
    (noHours : response.usage.hourWrites = 0) :
    measuredCost defaultContext (10, 50) response latencyMs =
      (response.usage.allInput * 1000 + response.usage.outputTokens * 5000 +
        response.usage.cacheWrite * 250 : ℕ) / 10 ^ 8 := by
  have written : response.usage.cacheWrite ≤ response.usage.allInput := by
    unfold Usage.allInput
    omega
  unfold measuredCost TransportReply.costUsd replyOf
  dsimp only [maxManagerOutputTokens] at output ⊢
  rw [noHours]
  generalize response.usage.allInput = tokens at input written ⊢
  generalize response.usage.outputTokens = answered at output ⊢
  generalize response.usage.cacheWrite = writes at written ⊢
  have input' : defaultContext.mul tokens 10 = tokens * 10 :=
    round_natCast_div (tokens * 10) 0 (by push_cast; ring) (by omega)
  have answer : defaultContext.mul answered 50 = answered * 50 :=
    round_natCast_div (answered * 50) 0 (by push_cast; ring) (by omega)
  have both : defaultContext.add (tokens * 10) (answered * 50) =
      tokens * 10 + answered * 50 :=
    round_natCast_div (tokens * 10 + answered * 50) 0 (by push_cast; ring)
      (by omega)
  have dollars : defaultContext.div (tokens * 10 + answered * 50) 1000000 =
      (tokens * 10 + answered * 50) / 1000000 :=
    round_natCast_div (tokens * 1000 + answered * 5000) 8
      (by push_cast; ring) (by omega)
  have rate : defaultContext.sub cacheWriteMultiplier 1 = 1 / 4 := by
    decide +kernel
  have hourRate : defaultContext.sub hourCacheWriteMultiplier 1 = 1 := by
    decide +kernel
  have quarter : defaultContext.mul writes (1 / 4) = writes * (1 / 4) :=
    round_natCast_div (writes * 25) 2 (by push_cast; ring) (by omega)
  have noHour : defaultContext.mul (0 : ℕ) 1 = 0 := by decide +kernel
  have extra : defaultContext.add (writes * (1 / 4)) 0 =
      writes * (1 / 4) := by
    unfold add
    rw [add_zero]
    exact quarter
  have surcharge : defaultContext.mul (writes * (1 / 4)) 10 =
      writes * (1 / 4) * 10 :=
    round_natCast_div (writes * 250) 2 (by push_cast; ring) (by omega)
  have surchargeDollars :
      defaultContext.div (writes * (1 / 4) * 10) 1000000 =
        writes * (1 / 4) * 10 / 1000000 :=
    round_natCast_div (writes * 250) 8 (by push_cast; ring) (by omega)
  have total : defaultContext.add
        ((tokens * 10 + answered * 50) / 1000000)
        (writes * (1 / 4) * 10 / 1000000) =
      (tokens * 10 + answered * 50) / 1000000 +
        writes * (1 / 4) * 10 / 1000000 :=
    round_natCast_div (tokens * 1000 + answered * 5000 + writes * 250) 8
      (by push_cast; ring) (by omega)
  rw [input', answer, both, dollars, rate, hourRate, noHour, Nat.cast_zero,
    Int.sub_zero, Int.cast_natCast, quarter, extra, surcharge,
    surchargeDollars, total]
  push_cast
  ring

theorem model_ne_empty {pinned reported : String} (named : pinned ≠ "")
    (same : sameModel formats pinned reported = true) : reported ≠ "" := by
  rintro rfl
  unfold sameModel at same
  dsimp only at same
  rw [Bool.or_eq_true, decide_eq_true_iff, Bool.and_eq_true,
    Bool.and_eq_true] at same
  rcases same with equal | ⟨⟨stem, _⟩, _⟩
  · exact named equal.symm
  · have short := (List.isPrefixOf_iff_prefix.mp stem).length_le
    simp at short

/-- A reply of the pinned model within the bounds of its request costs at most
the reservation, and is returned. -/
theorem settlement_of_reply (transport : AnthropicTransport)
    (latencyMs : ℕ)
    (worst : worstCaseUsd defaultContext formats params = .ok reserved)
    (limit : params.maxTokens = transport.settings.maxTokens)
    (priced : pricingFor params.model = .ok prices)
    (bytes : inputTokenBound formats params < 10 ^ 20)
    (input : response.usage.allInput ≤ inputTokenBound formats params)
    (output : response.usage.outputTokens ≤ params.maxTokens)
    (noHours : response.usage.hourWrites = 0)
    (covered : response.usage.unpriced = [])
    (same : sameModel formats transport.settings.model response.model = true) :
    ∃ settled, transport.settlement defaultContext formats prices reserved
        (.response response latencyMs) = .ok settled ∧
      settled.result = .ok (replyOf prices response latencyMs) ∧
      ∃ cost, settled.costUsd = some cost ∧ cost ≤ reserved := by
  have most : params.maxTokens ≤ maxManagerOutputTokens :=
    limit ▸ transport.settings.output.2
  have reservation := worstCaseUsd_eq priced bytes most
  rw [worst] at reservation
  have reservedEq := Except.ok.inj reservation
  obtain rfl := pricingFor_eq_ok priced
  have measured := measuredCost_eq latencyMs (input.trans_lt bytes)
    (output.trans most) noHours
  have within : measuredCost defaultContext (10, 50) response latencyMs ≤
      reserved := by
    have written : response.usage.cacheWrite ≤ response.usage.allInput := by
      unfold Usage.allInput
      omega
    rw [measured, reservedEq]
    apply div_le_div_of_nonneg_right _ (by norm_num)
    exact_mod_cast (by omega :
      response.usage.allInput * 1000 + response.usage.outputTokens * 5000 +
          response.usage.cacheWrite * 250 ≤
        inputTokenBound formats params * 1250 + params.maxTokens * 5000)
  have checked : (replyOf (10, 50) response latencyMs).check = .ok () := by
    unfold TransportReply.check replyOf
    dsimp only
    rw [if_neg (model_ne_empty transport.settings.named same),
      if_neg (by norm_num), if_neg (by norm_num)]
  have found : sameModel formats transport.settings.model
      (replyOf (10, 50) response latencyMs).model = true := same
  unfold settlement
  dsimp only
  rw [checked, covered, found]
  refine ⟨_, rfl, ?_, _, rfl, within⟩
  exact if_neg within.not_gt

end Costs

end AnthropicTransport

/-- The ceiling of a shared ledger, in every run whose reservations are checked
exactly, and the price of a reply within the bounds of its request. -/
theorem spend_stays_under_ceiling (steps : List LedgerStep)
    (once : (steps.filterMap LedgerStep.settles).Nodup)
    (exactly : LedgerStep.allCheckExactly .defaultContext none steps = true) :
    (∀ file, LedgerStep.runAll .defaultContext steps = some file →
      ∃ cap, file.ceiling = some cap ∧
        (∃ ledger label amount now,
          LedgerStep.reserve ledger label amount now ∈ steps ∧
            ledger.capUsd = cap) ∧
        file.total ≤ cap + file.overage ∧
        ((∀ call ∈ file.calls, ∀ cost, call.costUsd = some cost →
          cost ≤ call.reservedUsd) → file.total ≤ cap)) ∧
    ∀ (transport : AnthropicTransport) (formats : WireFormats)
      (instructions : String) (context : Json) (prices : ℚ × ℚ)
      (reserved : ℚ) (response : ModelResponse) (latencyMs : ℕ),
      let params := wireParams formats instructions context transport.settings
        transport.schema
      pricingFor transport.settings.model = .ok prices →
      worstCaseUsd .defaultContext formats params = .ok reserved →
      inputTokenBound formats params < 10 ^ 20 →
      response.usage.allInput ≤ inputTokenBound formats params →
      response.usage.outputTokens ≤ params.maxTokens →
      response.usage.hourWrites = 0 →
      response.usage.unpriced = [] →
      sameModel formats transport.settings.model response.model = true →
      ∃ settled,
        transport.settlement .defaultContext formats prices reserved
          (.response response latencyMs) = .ok settled ∧
        settled.result =
          .ok (AnthropicTransport.replyOf prices response latencyMs) ∧
        ∃ cost, settled.costUsd = some cost ∧ cost ≤ reserved := by
  constructor
  · intro file reached
    obtain ⟨cap, ceiling, used⟩ := LedgerStep.ceiling_of_foldl
      (fun cap => ∃ ledger label amount now,
        LedgerStep.reserve ledger label amount now ∈ steps ∧
          ledger.capUsd = cap) steps
      (fun ledger label amount now member =>
        ⟨ledger, label, amount, now, member, rfl⟩)
      (by rintro _ ⟨⟩) file reached
    have kept : LedgerStep.Kept [] none := by rintro _ ⟨⟩
    have bounded := LedgerStep.kept_foldl steps kept exactly once file reached
    have under := bounded.under cap ceiling
    refine ⟨cap, ceiling, used, under, fun within => ?_⟩
    rwa [file.overage_eq_zero within, add_zero] at under
  · intro transport formats instructions context prices reserved response
      latencyMs params priced worst bytes input output noHours covered same
    exact transport.settlement_of_reply latencyMs worst rfl priced bytes
      input output noHours covered same

section Runs

def dollarLedger : SpendLedger :=
  { capUsd := 1, positive := one_pos }

def unlabelledCall : CallLabel :=
  { model := "claude-fable-5-1", account := "", decisionTime := "", run := "" }

/-- Two runs reserve; the first call is settled below its reservation, and
the billing of the second stays unknown. -/
def sharedSteps : List LedgerStep :=
  [.reserve dollarLedger unlabelledCall (6 / 10) "first",
    .reserve dollarLedger unlabelledCall (3 / 10) "second",
    .settle 1 (some (5 / 10)) "replied" "end_turn",
    .settle 2 none "timeout" ""]

def dollarTransport : AnthropicTransport :=
  { settings :=
      { rulebook := "Stay out."
        cadenceBars := 4
        historyBars := 48
        model := "claude-fable-5-1"
        effort := "high"
        maxTokens := 8000
        written := by decide
        named := by decide
        ranked := by decide
        cadence := by decide
        history := by decide
        output := by decide }
    ledger := dollarLedger
    schema := some (.obj [])
    run := "" }

def plainFormats : WireFormats :=
  { encode := fun
      | .null => "null"
      | _ => "\x7b\"schema\":\x7b\x7d,\"type\":\"json_schema\"\x7d"
    digit := Char.isDigit
    showUsd := fun _ => ""
    showUsage := fun _ => "" }

def holdResponse : ModelResponse :=
  { model := "claude-fable-5-1-20261017"
    text := "hold"
    stopReason := some "end_turn"
    usage :=
      { inputTokens := 900
        cacheCreationInputTokens := some 100
        cacheReadInputTokens := none
        ephemeralHourInputTokens := none
        outputTokens := 700
        serviceTier := some "standard"
        speed := none
        inferenceGeo := some "global" } }

/-- The total of two runs stays under their cap, and a reply of theirs costs
at most its reservation. -/
theorem shared_spend_stays_under_ceiling :
    (∃ file, LedgerStep.runAll .defaultContext sharedSteps = some file ∧
      file.total ≤ 1) ∧
    ∃ settled, dollarTransport.settlement .defaultContext plainFormats (10, 50)
        (425475 / 1000000) (.response holdResponse 12) = .ok settled ∧
      ∃ cost, settled.costUsd = some cost ∧ cost ≤ 425475 / 1000000 := by
  obtain ⟨bounded, priced⟩ := spend_stays_under_ceiling sharedSteps
    (by decide +kernel) (by decide +kernel)
  constructor
  · obtain ⟨file, reached⟩ : ∃ file,
        LedgerStep.runAll .defaultContext sharedSteps = some file :=
      Option.isSome_iff_exists.mp (by decide +kernel)
    have found : ∀ file ∈ LedgerStep.runAll .defaultContext sharedSteps,
        file.ceiling = some 1 ∧ file.overage = 0 := by
      decide +kernel
    obtain ⟨bound, noOverage⟩ := found file reached
    obtain ⟨cap, ceiling, _, under, _⟩ := bounded file reached
    cases (show some cap = some 1 from ceiling ▸ bound)
    rw [noOverage, add_zero] at under
    exact ⟨file, reached, under⟩
  · obtain ⟨settled, equal, _, cost⟩ := priced
      dollarTransport plainFormats "" .null (10, 50) (425475 / 1000000)
      holdResponse 12 (by decide +kernel) (by decide +kernel)
      (by decide +kernel) (by decide +kernel) (by decide +kernel)
      (by decide +kernel) (by decide +kernel) (by decide +kernel)
    exact ⟨settled, equal, cost⟩

def overfillingSteps : List LedgerStep :=
  [.reserve dollarLedger unlabelledCall 1 "first",
    .reserve dollarLedger unlabelledCall (1 / 10 ^ 28) "second"]

/-- The check loses the second amount, and the total passes the cap. -/
theorem reservations_pass_the_cap :
    ¬∀ steps : List LedgerStep, (steps.filterMap LedgerStep.settles).Nodup →
      ∀ file, LedgerStep.runAll .defaultContext steps = some file →
        ∀ cap, file.ceiling = some cap → file.total ≤ cap + file.overage := by
  intro bounded
  obtain ⟨file, reached⟩ : ∃ file,
      LedgerStep.runAll .defaultContext overfillingSteps = some file :=
    Option.isSome_iff_exists.mp (by decide +kernel)
  have passed : ∀ file ∈ LedgerStep.runAll .defaultContext overfillingSteps,
      file.ceiling = some 1 ∧ ¬file.total ≤ 1 + file.overage := by
    decide +kernel
  obtain ⟨ceiling, beyond⟩ := passed file reached
  exact beyond (bounded overfillingSteps (by decide +kernel) file reached 1
    ceiling)

end Runs

end GptTrader
