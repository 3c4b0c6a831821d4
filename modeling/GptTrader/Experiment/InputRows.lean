import GptTrader.Experiment.InputTexts

/-!
# Rows of an input

The bars of `parse_input` (`features/experiment/inputs.py`): each row is one
candle, and rows are an hour apart and finished when they were recorded.
-/

namespace GptTrader

/-- A bar of an input: its row, and the candle it spells. -/
structure CandleText where
  row : Json
  ts : AwareTime
  openPrice : SpelledDecimal
  high : SpelledDecimal
  low : SpelledDecimal
  close : SpelledDecimal
  volume : SpelledDecimal
  positive : 0 < openPrice.value ∧ 0 < high.value ∧ 0 < low.value ∧
    0 < close.value
  consistent : low.value ≤ min openPrice.value close.value ∧
    max openPrice.value close.value ≤ high.value
  traded : 0 ≤ volume.value

namespace CandleText

variable (candle : CandleText)

/-- `bar["ts"]`. -/
def written : Json := candle.row.item "ts"

def bar : RecordedBar :=
  { row := candle.row
    ts := candle.ts
    openPrice := candle.openPrice.value
    high := candle.high.value
    low := candle.low.value
    close := candle.close.value
    volume := candle.volume.value
    positive := candle.positive
    consistent := candle.consistent
    traded := candle.traded }

end CandleText

def barFields : List String :=
  ["ts", "open", "high", "low", "close", "volume"]

section Rows

variable (formats : InputFormats) (recordedAt : AwareTime)

/-- The candle of a row, after another. -/
def parseRow (previous : Option CandleText) (row : Json) :
    Except InputError CandleText := do
  let _ ← checked (row.keysAre barFields = true)
    "Each bar requires ts, open, high, low, close, volume"
  let ts ← awareTime formats (row.item "ts")
  let ⟨openPrice, openPositive⟩ ← formats.decimalValue true (row.item "open")
  let ⟨high, highPositive⟩ ← formats.decimalValue true (row.item "high")
  let ⟨low, lowPositive⟩ ← formats.decimalValue true (row.item "low")
  let ⟨close, closePositive⟩ ← formats.decimalValue true (row.item "close")
  let ⟨volume, _⟩ ← formats.decimalValue false (row.item "volume")
  let ⟨consistent⟩ ← checked (low.value ≤ min openPrice.value close.value ∧
    max openPrice.value close.value ≤ high.value) "Inconsistent OHLC bar"
  let ⟨traded⟩ ← checked (0 ≤ volume.value) "Volume must be nonnegative"
  let _ ← checked (ts.instant + hour ≤ recordedAt.instant)
    "Unfinished bar after recorded_at"
  let _ ← checked (∀ last ∈ previous, ts.instant = last.ts.instant + hour)
    "Stale, duplicate or unordered bars: contiguous hourly data required"
  .ok
    { row := row
      ts := ts
      openPrice := openPrice
      high := high
      low := low
      close := close
      volume := volume
      positive := ⟨openPositive rfl, highPositive rfl, lowPositive rfl,
        closePositive rfl⟩
      consistent := consistent
      traded := traded }

def parseRows : Option CandleText → List Json → Except InputError (List CandleText)
  | _, [] => .ok []
  | previous, row :: rest => do
      let candle ← parseRow formats recordedAt previous row
      let later ← parseRows (some candle) rest
      .ok (candle :: later)

end Rows

section Parsed

variable {formats : InputFormats} {recordedAt : AwareTime}
  {previous : Option CandleText} {row : Json} {candle : CandleText}

/-- What an accepted row establishes. -/
structure ReadsRow (formats : InputFormats) (recordedAt : AwareTime)
    (previous : Option CandleText) (row : Json) (candle : CandleText) : Prop where
  kept : candle.row = row
  fields : row.keysAre barFields = true
  time : awareTime formats (row.item "ts") = .ok candle.ts
  opens : ∃ allowed, formats.decimalValue true (row.item "open") =
    .ok ⟨candle.openPrice, allowed⟩
  highs : ∃ allowed, formats.decimalValue true (row.item "high") =
    .ok ⟨candle.high, allowed⟩
  lows : ∃ allowed, formats.decimalValue true (row.item "low") =
    .ok ⟨candle.low, allowed⟩
  closes : ∃ allowed, formats.decimalValue true (row.item "close") =
    .ok ⟨candle.close, allowed⟩
  volumes : ∃ allowed, formats.decimalValue false (row.item "volume") =
    .ok ⟨candle.volume, allowed⟩
  finished : candle.ts.instant + hour ≤ recordedAt.instant
  follows : ∀ last ∈ previous, candle.ts.instant = last.ts.instant + hour

theorem parseRow_eq_ok
    (parsed : parseRow formats recordedAt previous row = .ok candle) :
    ReadsRow formats recordedAt previous row candle := by
  unfold parseRow at parsed
  obtain ⟨⟨fields⟩, _, parsed⟩ := Outcome.bind_eq_ok.mp parsed
  obtain ⟨ts, time, parsed⟩ := Outcome.bind_eq_ok.mp parsed
  obtain ⟨⟨openPrice, openAllowed⟩, opens, parsed⟩ := Outcome.bind_eq_ok.mp parsed
  obtain ⟨⟨high, highAllowed⟩, highs, parsed⟩ := Outcome.bind_eq_ok.mp parsed
  obtain ⟨⟨low, lowAllowed⟩, lows, parsed⟩ := Outcome.bind_eq_ok.mp parsed
  obtain ⟨⟨close, closeAllowed⟩, closes, parsed⟩ := Outcome.bind_eq_ok.mp parsed
  obtain ⟨⟨volume, allowed⟩, volumes, parsed⟩ := Outcome.bind_eq_ok.mp parsed
  obtain ⟨⟨consistent⟩, _, parsed⟩ := Outcome.bind_eq_ok.mp parsed
  obtain ⟨⟨traded⟩, _, parsed⟩ := Outcome.bind_eq_ok.mp parsed
  obtain ⟨⟨finished⟩, _, parsed⟩ := Outcome.bind_eq_ok.mp parsed
  obtain ⟨⟨follows⟩, _, parsed⟩ := Outcome.bind_eq_ok.mp parsed
  cases parsed
  exact
    { kept := rfl
      fields := fields
      time := time
      opens := ⟨openAllowed, opens⟩
      highs := ⟨highAllowed, highs⟩
      lows := ⟨lowAllowed, lows⟩
      closes := ⟨closeAllowed, closes⟩
      volumes := ⟨allowed, volumes⟩
      finished := finished
      follows := follows }

/-- Rows read one after the other. -/
inductive ReadsRows (formats : InputFormats) (recordedAt : AwareTime) :
    Option CandleText → List Json → List CandleText → Prop where
  | nil {previous : Option CandleText} : ReadsRows formats recordedAt previous [] []
  | cons {previous : Option CandleText} {row : Json} {candle : CandleText}
      {rest : List Json} {later : List CandleText}
      (first : ReadsRow formats recordedAt previous row candle)
      (others : ReadsRows formats recordedAt (some candle) rest later) :
      ReadsRows formats recordedAt previous (row :: rest) (candle :: later)

theorem parseRows_eq_ok {rows : List Json} {candles : List CandleText}
    (parsed : parseRows formats recordedAt previous rows = .ok candles) :
    ReadsRows formats recordedAt previous rows candles := by
  induction rows generalizing previous candles with
  | nil =>
      cases parsed
      exact .nil
  | cons row rest induction =>
      obtain ⟨candle, first, parsed⟩ := Outcome.bind_eq_ok.mp parsed
      obtain ⟨later, others, parsed⟩ := Outcome.bind_eq_ok.mp parsed
      cases parsed
      exact .cons (parseRow_eq_ok first) (induction others)

namespace ReadsRows

variable {rows : List Json} {candles : List CandleText}

section

variable (reads : ReadsRows formats recordedAt previous rows candles)

include reads

theorem row_eq :
    candles.map (·.row) = rows := by
  induction reads with
  | nil => rfl
  | cons first others induction =>
      rw [List.map_cons, induction, first.kept]

theorem time_written (member : candle ∈ candles) :
    awareTime formats candle.written = .ok candle.ts := by
  induction reads with
  | nil => cases member
  | cons first others induction =>
      rcases List.mem_cons.mp member with rfl | later
      · unfold CandleText.written
        rw [first.kept]
        exact first.time
      · exact induction later

theorem chain :
    (previous.toList ++ candles).IsChain fun candle next =>
      next.ts.instant = candle.ts.instant + hour := by
  induction reads with
  | nil =>
      rename_i previous
      cases previous with
      | none => exact .nil
      | some last => exact .singleton last
  | cons first others induction =>
      rename_i previous _ candle _ _
      cases previous with
      | none => exact induction
      | some last =>
          exact .cons_cons (first.follows last rfl) induction

end

end ReadsRows

end Parsed

end GptTrader
