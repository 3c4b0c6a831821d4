import GptTrader.Experiment.AuthorRequests
import GptTrader.Experiment.ModelTransport

/-!
# Turns of the rulebook author

`parse_author_reply` and `author_turn` (`features/experiment/rulebook_author.py`),
and `_ReplayReply` (`features/experiment/author_runner.py`), which answers a turn
from its record.
-/

namespace GptTrader

/-- How an author run spells what it sends and reads. -/
structure AuthorFormats extends InputFormats where
  /-- `float.__repr__`. -/
  showFloat : PyFloat → String
  /-- `json.loads` with `object_pairs_hook=_unique`, whose objects keep the order
  of the text, or what its exception says. -/
  loads : String → Except String Json
  /-- `str` of prices and costs. -/
  showUsd : ℚ → String

/-- The exceptions of an author run. -/
inductive AuthorError where
  | valueError (message : String)
  /-- `ExperimentIntegrityError`. -/
  | integrity (message : String)
  /-- `TransportUnavailableError`. -/
  | transportUnavailable (message : String)
  /-- Any other exception: of the engine, a transport or the database. -/
  | raised (error : String)
  deriving DecidableEq

/-- `str(error)`. -/
def InputError.message : InputError → String
  | .valueError message => message
  | .accountingIntegrity message => message

section Replies

variable (formats : AuthorFormats)

def proposedRules (current : List (String × RulebookText)) (cap : SpelledDecimal)
    (field : String × Json) : Except String (String × RulebookText) :=
  match parseRulebook formats.toInputFormats field.2 cap with
  | .error error => .error error.message
  | .ok ⟨rule, _⟩ =>
      if (current.lookup field.1).map (·.version + 1) = some rule.version then
        .ok (field.1, rule)
      else .error "Author version must increment by one"

/-- `parse_author_reply`.  The rulebooks are given back in the order of the
current ones. -/
def parseAuthorReply (reply : TransportReply)
    (current : List (String × RulebookText)) (cap : SpelledDecimal) :
    Except String (List (String × RulebookText)) :=
  if reply.stopReason ≠ "end_turn" then
    .error ("Author reply stopped: " ++ reply.stopReason)
  else if 100000 < reply.text.utf8ByteSize then
    .error "Author reply too large"
  else
    match formats.loads reply.text with
    | .error error => .error error
    | .ok raw =>
        if raw.keysAre ["rulebooks"] = false then
          .error "Author reply requires only rulebooks"
        else
          match raw.item "rulebooks" with
          | .obj fields =>
              if (Json.obj fields).keysAre (current.map Prod.fst) = false then
                .error "Author reply must cover every symbol exactly"
              else
                (fields.mapM (proposedRules formats current cap)).map
                  fun proposed => current.filterMap fun entry =>
                    (proposed.lookup entry.1).map fun rule => (entry.1, rule)
          | _ => .error "Author reply must cover every symbol exactly"

/-- `record["reply"]`. -/
structure RecordedReply where
  reply : TransportReply
  costUsd : ℚ
  deriving DecidableEq

def RecordedReply.toDict (recorded : RecordedReply) : Json :=
  let reply := recorded.reply
  .obj [
    ("model", .str reply.model),
    ("text", .str reply.text),
    ("stop_reason", .str reply.stopReason),
    ("input_tokens", .int reply.inputTokens),
    ("output_tokens", .int reply.outputTokens),
    ("latency_ms", .int reply.latencyMs),
    ("input_usd_per_million", .str (formats.showUsd reply.inputUsdPerMillion)),
    ("output_usd_per_million", .str (formats.showUsd reply.outputUsdPerMillion)),
    ("cost_usd", .str (formats.showUsd recorded.costUsd))]

/-- The record of a turn. -/
structure AuthorTurn where
  request : AuthorRequest
  model : String
  reply : Option RecordedReply
  error : Option String
  rulebooks : List (String × RulebookText)
  accepted : Bool
  deriving DecidableEq

def AuthorTurn.toDict (turn : AuthorTurn) : Json :=
  .obj [
    ("request", .obj [
      ("instructions", .str turn.request.instructions),
      ("context", turn.request.context)]),
    ("model", .str turn.model),
    ("reply", (turn.reply.map (RecordedReply.toDict formats)).getD .null),
    ("error", (turn.error.map .str).getD .null),
    ("rulebooks", rulesText formats.toInputFormats turn.rulebooks),
    ("accepted", .bool turn.accepted)]

/-- How `transport.decide(request)` ends.  A reply that was constructed passed
its checks. -/
inductive AuthorOutcome where
  | replied (reply : TransportReply) (constructed : reply.check = .ok ())
  /-- `TransportError`. -/
  | failed (message : String)
  /-- Any other exception. -/
  | raised (error : AuthorError)

variable (arithmetic : DecimalContext)

/-- `author_turn`, of a transport with a model; the current rulebooks and the cap
are those of the request's context. -/
def authorTurn (request : AuthorRequest) (current : List (String × RulebookText))
    (cap : SpelledDecimal) (model : String) :
    AuthorOutcome → Except AuthorError AuthorTurn
  | .raised error => .error error
  | .failed message =>
      .ok
        { request := request
          model := model
          reply := none
          error := some message
          rulebooks := current
          accepted := false }
  | .replied reply _ =>
      let recorded : RecordedReply :=
        { reply := reply
          costUsd := reply.costUsd arithmetic }
      match parseAuthorReply formats reply current cap with
      | .error error =>
          .ok
            { request := request
              model := model
              reply := some recorded
              error := some error
              rulebooks := current
              accepted := false }
      | .ok rulebooks =>
          .ok
            { request := request
              model := model
              reply := some recorded
              error := none
              rulebooks := rulebooks
              accepted := true }

end Replies

/-- `_ReplayReply.decide`. -/
def replayDecide (record : AuthorTurn) (request : AuthorRequest) :
    AuthorOutcome :=
  if request ≠ record.request then
    .raised (.integrity "Rebuilt author request differs from journal")
  else
    match record.reply with
    | none => .failed (record.error.getD "None")
    | some recorded =>
        match constructed : recorded.reply.check with
        | .error message => .raised (.valueError message)
        | .ok () => .replied recorded.reply constructed

section Turns

variable {formats : AuthorFormats} {arithmetic : DecimalContext}
variable {request : AuthorRequest} {current : List (String × RulebookText)}
variable {cap : SpelledDecimal} {model : String}

theorem replayDecide_replied {record : AuthorTurn} {recorded : RecordedReply}
    (held : record.reply = some recorded)
    (constructed : recorded.reply.check = .ok ()) :
    replayDecide record record.request =
      .replied recorded.reply constructed := by
  unfold replayDecide
  rw [if_neg (not_not_intro rfl), held]
  dsimp only
  split
  · next message refused => rw [constructed] at refused; cases refused
  · rfl

theorem authorTurn_replayed {outcome : AuthorOutcome} {turn : AuthorTurn}
    (taken : authorTurn formats arithmetic request current cap model outcome =
      .ok turn) :
    authorTurn formats arithmetic request current cap turn.model
      (replayDecide turn request) = .ok turn := by
  cases outcome with
  | raised error => cases taken
  | failed message =>
      cases taken
      unfold replayDecide
      rw [if_neg (not_not_intro rfl)]
      rfl
  | replied reply constructed =>
      unfold authorTurn at taken
      dsimp only at taken
      split at taken
      · next error parsed =>
          cases taken
          rw [replayDecide_replied rfl constructed]
          unfold authorTurn
          dsimp only
          rw [parsed]
      · next rulebooks parsed =>
          cases taken
          rw [replayDecide_replied rfl constructed]
          unfold authorTurn
          dsimp only
          rw [parsed]

end Turns

end GptTrader
