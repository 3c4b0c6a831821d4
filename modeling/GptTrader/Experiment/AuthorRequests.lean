import GptTrader.Experiment.DailyBars
import GptTrader.Experiment.InputPayload
import GptTrader.Python.JsonText

/-!
# Requests to the rulebook author

`features/experiment/rulebook_author.py`: the portfolio of an author run, the
daily bars it shows, and the request of a turn.
-/

namespace GptTrader

deriving instance DecidableEq for RulebookText
deriving instance DecidableEq for ManagerSettings

structure AuthorSettings where
  cadenceBars : ℕ
  historyDays : ℕ
  cadence : 1 ≤ cadenceBars ∧ cadenceBars ≤ 720
  history : 1 ≤ historyDays ∧ historyDays ≤ 30
  deriving DecidableEq

/-- `asdict(settings)`. -/
def AuthorSettings.toDict (settings : AuthorSettings) : Json :=
  .obj [
    ("cadence_bars", .int settings.cadenceBars),
    ("history_days", .int settings.historyDays)]

/-- `INSTRUCTIONS`. -/
def authorInstructions : String :=
  "You author hourly trading rules for simulated USD spot accounts.\n" ++
  "One call covers all symbols of one cost case. Use only the closed daily " ++
  "bars,\naccounts, costs and current rules supplied. Choose trend, " ++
  "mean-reversion, hold\nor cash; return a complete rulebook for EACH symbol, " ++
  "next version exactly.\nRules execute at this closed hourly bar; fills are at " ++
  "the next open. Existing\npositions keep their protective stop, target and " ++
  "expiry. Risk, exposure and drawdown follow the supplied limits (normally " ++
  "1%, 20%\nand 10% respectively); expiry is at most 720 hours. Holding at the " ++
  "cap needs a sufficiently tight\nstop; it is not equivalent to passive " ++
  "holding. Costs apply on both sides.\nYou may keep parameters or rewrite " ++
  "them. Never write code or call tools.\nReply only with JSON: " ++
  "\x7b\"rulebooks\": \x7b\"SYMBOL-USD\": <complete next rulebook>\x7d\x7d.\n" ++
  "The current rulebooks show every required field. Decimal fields stay " ++
  "strings.\nHow you are judged, after the window in the context closes, for " ++
  "each cost case:\nthe sum over all symbols of each account's net P&L, with " ++
  "anything still held\nvalued at its sale value after costs. It must beat each " ++
  "of these, summed over\nthe same symbols, by more than one round trip's costs " ++
  "at the exposure cap per\nsymbol: staying in cash; buying each coin at the " ++
  "window's first open at the\nexposure cap and holding it; and the fixed " ++
  "mean-reversion rule (and the\nmoving-average crossover rule, if it survives " ++
  "costs on this window).\n"

namespace SpelledDecimal

def inPlaces (decimal : SpelledDecimal) (exponent : ℤ) : ℤ :=
  (if decimal.negative then -1 else 1) * decimal.coefficient *
    10 ^ (decimal.exponent - exponent).toNat

def rounded (negative : Bool) (coefficient : ℕ) (exponent : ℤ) :
    SpelledDecimal :=
  let excess := (Nat.toDigits 10 coefficient).length - 28
  let kept := (DecimalContext.halfEven (coefficient / 10 ^ excess)).toNat
  if kept = 10 ^ 28 then
    { negative := negative
      coefficient := 10 ^ 27
      exponent := exponent + excess + 1 }
  else
    { negative := negative
      coefficient := kept
      exponent := exponent + excess }

/-- `left + right`. -/
def add (left right : SpelledDecimal) : SpelledDecimal :=
  let exponent := min left.exponent right.exponent
  let total := left.inPlaces exponent + right.inPlaces exponent
  rounded
    (decide (total < 0) ||
      (decide (total = 0) && left.negative && right.negative))
    total.natAbs exponent

/-- `Decimal(0)`. -/
def zero : SpelledDecimal :=
  { negative := false, coefficient := 0, exponent := 0 }

/-- `max(values)`: the first of the greatest. -/
def greatest (first : SpelledDecimal) (rest : List SpelledDecimal) :
    SpelledDecimal :=
  rest.foldl (fun most other =>
    if most.value < other.value then other else most) first

/-- `min(values)`: the first of the least. -/
def least (first : SpelledDecimal) (rest : List SpelledDecimal) :
    SpelledDecimal :=
  rest.foldl (fun most other =>
    if other.value < most.value then other else most) first

end SpelledDecimal

namespace ParsedInput

/-- `source.symbol`. -/
def symbol (source : ParsedInput) : String :=
  match source.payload.item "symbol" with
  | .str symbol => symbol
  | _ => ""

/-- `source.payload["rulebooks"]`. -/
def schedule (source : ParsedInput) : List VersionText :=
  source.versions.getD []

end ParsedInput

def SettingsText.values (text : SettingsText) : List ℚ :=
  [text.initialCash.value, text.riskFraction.value, text.exposureFraction.value,
    text.drawdownFraction.value, text.feeBps.value, text.slippageBps.value,
    text.quantityIncrement.value]

/-- What `validate_portfolio` says of a source, beside the first one. -/
def validateSource (first source : ParsedInput) : Except String Unit :=
  if source.benchmark ≠ .aiRulebook ∨ source.schedule.length ≠ 1 then
    .error "Author inputs require ai-rulebook with one starting version"
  else if source.scoredIndex ≠ first.scoredIndex ∨
      source.settings.values ≠ first.settings.values ∨
      source.candles.map (·.ts.instant) ≠ first.candles.map (·.ts.instant) then
    .error "Portfolio must share bar times, scored window and settings"
  else .ok ()

/-- `validate_portfolio`. -/
def validateAuthorPortfolio (sources : List ParsedInput) : Except String Unit :=
  match sources with
  | [] => .error "Supply one to eight distinct symbols in one cost case"
  | first :: _ =>
      if 8 < sources.length ∨ ¬(sources.map (·.symbol)).Nodup then
        .error "Supply one to eight distinct symbols in one cost case"
      else sources.forM (validateSource first)

/-- `sorted(sources, key=lambda s: s.symbol)`. -/
def sortedSources (sources : List ParsedInput) : List ParsedInput :=
  sources.insertionSort fun left right => left.symbol ≤ right.symbol

section Requests

variable (formats : InputFormats)

/-- `isoformat`. -/
def isoText (time : AwareTime) : Json :=
  .str (formats.showDateTime { wall := time.wall, offset := some time.offset })

/-- An item of `daily_bars`, of the bars of a day. -/
def dayText : List CandleText → Option Json
  | [] => none
  | first :: rest =>
      let last := (first :: rest).getLast (List.cons_ne_nil _ _)
      some (.obj [
        ("ts", isoText formats first.ts),
        ("open", .str (formats.showDecimal first.openPrice)),
        ("high", .str (formats.showDecimal
          (first.high.greatest (rest.map (·.high))))),
        ("low", .str (formats.showDecimal
          (first.low.least (rest.map (·.low))))),
        ("close", .str (formats.showDecimal last.close)),
        ("volume", .str (formats.showDecimal
          (((first :: rest).map (·.volume)).foldl SpelledDecimal.add .zero)))])

/-- `daily_bars`, as it is sent. -/
def dailyBarTexts (source : ParsedInput) (sequence days : ℕ) : Json :=
  let groups := (KeyedLists.collected (fun bar : CandleText => bar.ts.date)
    (source.candles.take (sequence + 1))).values
  .arr (lastItems days
    ((groups.filter fun bars => isWholeDay (bars.map (·.bar))).filterMap
      (dayText formats)))

def barTimeText (source : ParsedInput) (index : ℕ) (elapsed : ℤ) : Json :=
  match source.candles[index]? with
  | some candle => isoText formats (candle.ts.plus elapsed)
  | none => .null

/-- A request. -/
structure AuthorRequest where
  instructions : String
  context : Json
  deriving DecidableEq

def rulesText (rules : List (String × RulebookText)) : Json :=
  .obj (rules.map fun entry => (entry.1, entry.2.toDict formats))

/-- `{symbol: raw["version"] + 1 for symbol, raw in rules.items()}`. -/
def nextVersions (rules : List (String × RulebookText)) : Json :=
  .obj (rules.map fun entry => (entry.1, .int (entry.2.version + 1 : ℕ)))

def windowText (first : ParsedInput) : Json :=
  .obj [
    ("scored_from", barTimeText formats first first.scoredIndex 0),
    ("cutoff", barTimeText formats first (first.candles.length - 1) hour)]

def costsText (settings : SettingsText) : Json :=
  .obj [
    ("fee_bps", .str (formats.showDecimal settings.feeBps)),
    ("slippage_bps", .str (formats.showDecimal settings.slippageBps))]

/-- `build_author_request`; the first source is `sources[0]`. -/
def buildAuthorRequest (first : ParsedInput) (sources : List ParsedInput)
    (sequence : ℕ) (accounts : Json) (rules : List (String × RulebookText))
    (settings : AuthorSettings) : AuthorRequest :=
  { instructions := authorInstructions
    context := .obj [
      ("schema", .str "rulebook-author/2"),
      ("symbol", .str ("portfolio:" ++
        commaJoined ((rules.map Prod.fst).insertionSort (· ≤ ·)))),
      ("window", windowText formats first),
      ("decision_time", barTimeText formats first sequence hour),
      ("costs", costsText formats first.settings),
      ("limits", first.settings.toDict formats),
      ("accounts", accounts),
      ("rulebooks", rulesText formats rules),
      ("next_versions", nextVersions rules),
      ("daily_bars", .obj (sources.map fun source =>
        (source.symbol, dailyBarTexts formats source sequence
          settings.historyDays)))] }

end Requests

/-- `reply_schema`. -/
def authorReplySchema (symbols : List String) : Json :=
  let typed (name type : String) : String × Json :=
    (name, .obj [("type", .str type)])
  let sorted := symbols.insertionSort (· ≤ ·)
  .obj [
    ("type", .str "object"),
    ("$defs", .obj [("rulebook", .obj [
      ("type", .str "object"),
      ("properties", .obj [
        typed "schema_version" "integer",
        typed "version" "integer",
        ("entry", .obj [
          ("type", .str "string"),
          ("enum", .arr [.str "trend", .str "mean-reversion", .str "hold",
            .str "cash"])]),
        typed "fast_bars" "integer",
        typed "slow_bars" "integer",
        typed "reversion_bars" "integer",
        typed "entry_z" "string",
        typed "trend_filter_bars" "integer",
        typed "exposure_fraction" "string",
        typed "stop_fraction" "string",
        typed "target_fraction" "string",
        typed "expiry_hours" "integer",
        typed "exit_on_signal" "boolean"]),
      ("required", .arr (rulebookFields.map .str)),
      ("additionalProperties", .bool false)])]),
    ("properties", .obj [("rulebooks", .obj [
      ("type", .str "object"),
      ("properties", .obj (sorted.map fun symbol =>
        (symbol, .obj [("$ref", .str "#/$defs/rulebook")]))),
      ("required", .arr (sorted.map .str)),
      ("additionalProperties", .bool false)])]),
    ("required", .arr [.str "rulebooks"]),
    ("additionalProperties", .bool false)]

end GptTrader
